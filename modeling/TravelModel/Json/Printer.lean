import TravelModel.Json.Value
import TravelModel.Number.Shortest

/-!
# TravelModel — writing JSON

Values are written compactly, or with a line for each item and an indent of
two blanks. Only what JSON requires is escaped in strings.
-/

namespace TravelModel.Json

/-- A hexadecimal digit, lower case. -/
def hexDigit (n : Nat) : Char :=
  (Nat.toDigits 16 (n % 16)).headD '0'

/-- A character as it stands in a string. -/
def escapeChar (c : Char) : List Char :=
  match c with
  | '"' => ['\\', '"']
  | '\\' => ['\\', '\\']
  | '\n' => ['\\', 'n']
  | '\r' => ['\\', 'r']
  | '\t' => ['\\', 't']
  | c =>
    if c.toNat = 8 then ['\\', 'b']
    else if c.toNat = 12 then ['\\', 'f']
    else if c.toNat < 0x20 then
      ['\\', 'u', '0', '0', hexDigit (c.toNat / 16), hexDigit c.toNat]
    else [c]

/-- A string in quotes. -/
def quote (s : String) : String :=
  "\"" ++ String.ofList (s.toList.flatMap escapeChar) ++ "\""

/-- The text of a number. -/
def numberText : JsonNumber → String
  | .whole n => toString n
  | .float x => x.text

mutual

/-- The compact text of a value. -/
def compact : Json → String
  | .null => "null"
  | .bool b => if b then "true" else "false"
  | .num n => numberText n
  | .str s => quote s
  | .arr items => "[" ++ ",".intercalate (compactItems items) ++ "]"
  | .obj fields => "\x7b" ++ ",".intercalate (compactFields fields) ++ "\x7d"

/-- The compact texts of some values. -/
def compactItems : List Json → List String
  | [] => []
  | j :: rest => compact j :: compactItems rest

/-- The compact texts of some fields. -/
def compactFields : List (String × Json) → List String
  | [] => []
  | (k, v) :: rest => (quote k ++ ":" ++ compact v) :: compactFields rest

end

/-- A line break and the indent of a level. -/
def newline (level : Nat) : String :=
  "\n" ++ String.ofList (List.replicate (2 * level) ' ')

/-- Bracketed parts, one a line. -/
def block (level : Nat) (left right : String) (parts : List String) : String :=
  if parts.isEmpty then left ++ right
  else
    let sep := "," ++ newline (level + 1)
    left ++ newline (level + 1) ++ sep.intercalate parts ++ newline level ++ right

mutual

/-- The indented text of a value at a level. -/
def prettyAt (level : Nat) : Json → String
  | .null => "null"
  | .bool b => if b then "true" else "false"
  | .num n => numberText n
  | .str s => quote s
  | .arr items => block level "[" "]" (prettyItems (level + 1) items)
  | .obj fields => block level "\x7b" "\x7d" (prettyFields (level + 1) fields)

/-- The indented texts of some values. -/
def prettyItems (level : Nat) : List Json → List String
  | [] => []
  | j :: rest => prettyAt level j :: prettyItems level rest

/-- The indented texts of some fields. -/
def prettyFields (level : Nat) : List (String × Json) → List String
  | [] => []
  | (k, v) :: rest => (quote k ++ ": " ++ prettyAt level v) :: prettyFields level rest

end

/-- The indented text of a value. -/
def pretty (j : Json) : String :=
  prettyAt 0 j

end TravelModel.Json
