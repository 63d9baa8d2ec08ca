import TravelModel.Json.Value

/-!
# TravelModel — JSON tokens

The lexer is a finite automaton: it reads one character at a time, holds the
part of a token read so far, and gives out tokens as they end. A text is in
error as soon as no token can go on.
-/

namespace TravelModel.Json

/-- A token of a JSON text. -/
inductive Token where
  | open_ (array : Bool)
  | close (array : Bool)
  | comma
  | colon
  | text (s : String)
  | number (n : JsonNumber)
  | word (v : Json)

/-- What the lexer is in the middle of; characters read so far are held last
first. -/
inductive LexState where
  | between
  | text (acc : List Char)
  | escape (acc : List Char)
  | unicode (acc : List Char) (high : Option Nat) (left : Nat) (value : Nat)
  | lowMark (acc : List Char) (high : Nat)
  | lowEscape (acc : List Char) (high : Nat)
  | number (acc : List Char)
  | word (acc : List Char)

/-- White space between tokens. -/
def isBlank (c : Char) : Bool :=
  c = ' ' || c = '\n' || c = '\t' || c = '\r'

/-- Characters that occur in numbers. -/
def isNumeric (c : Char) : Bool :=
  c.isDigit || c = '-' || c = '+' || c = '.' || c = 'e' || c = 'E'

/-- The value of a hexadecimal digit. -/
def hexValue? (c : Char) : Option Nat :=
  if c.isDigit then some (c.toNat - '0'.toNat)
  else if 'a' ≤ c ∧ c ≤ 'f' then some (c.toNat - 'a'.toNat + 10)
  else if 'A' ≤ c ∧ c ≤ 'F' then some (c.toNat - 'A'.toNat + 10)
  else none

/-- The character an escape of one letter stands for. -/
def simpleEscape? : Char → Option Char
  | '"' => some '"'
  | '\\' => some '\\'
  | '/' => some '/'
  | 'b' => some (Char.ofNat 8)
  | 'f' => some (Char.ofNat 12)
  | 'n' => some '\n'
  | 'r' => some '\r'
  | 't' => some '\t'
  | _ => none

/-- Ends an escape of four digits: a high surrogate waits for a low one, a
low one alone is an error. -/
def endUnicode (acc : List Char) (high : Option Nat) (value : Nat) : Option LexState :=
  match high with
  | some h =>
    if 0xDC00 ≤ value ∧ value ≤ 0xDFFF then
      some (.text (Char.ofNat (0x10000 + (h - 0xD800) * 0x400 + (value - 0xDC00)) :: acc))
    else none
  | none =>
    if 0xDC00 ≤ value ∧ value ≤ 0xDFFF then none
    else if 0xD800 ≤ value ∧ value ≤ 0xDBFF then some (.lowMark acc value)
    else some (.text (Char.ofNat value :: acc))

/-- A character met between tokens. -/
def startToken (c : Char) : Option (LexState × List Token) :=
  if isBlank c then some (.between, [])
  else match c with
    | '\x7b' => some (.between, [.open_ false])
    | '\x7d' => some (.between, [.close false])
    | '[' => some (.between, [.open_ true])
    | ']' => some (.between, [.close true])
    | ',' => some (.between, [.comma])
    | ':' => some (.between, [.colon])
    | '"' => some (.text [], [])
    | _ =>
      if isNumeric c && c ≠ 'e' && c ≠ 'E' then some (.number [c], [])
      else if 'a' ≤ c ∧ c ≤ 'z' then some (.word [c], [])
      else none

/-- The number token of some characters. -/
def endNumber (acc : List Char) : Option Token := do
  let l ← Literal.ofChars? acc.reverse
  return .number (← JsonNumber.ofLiteral? l)

/-- The word token of some letters. -/
def endWord (acc : List Char) : Option Token :=
  match String.ofList acc.reverse with
  | "null" => some (.word .null)
  | "true" => some (.word (.bool true))
  | "false" => some (.word (.bool false))
  | _ => none

/-- One step of the lexer: the next state and the tokens that have ended. -/
def lexStep : LexState → Char → Option (LexState × List Token)
  | .between, c => startToken c
  | .text acc, c =>
    if c = '"' then some (.between, [.text (String.ofList acc.reverse)])
    else if c = '\\' then some (.escape acc, [])
    else if c.toNat < 0x20 then none
    else some (.text (c :: acc), [])
  | .escape acc, c =>
    if c = 'u' then some (.unicode acc none 4 0, [])
    else (simpleEscape? c).map fun e => (.text (e :: acc), [])
  | .unicode acc high left value, c => do
    let value := value * 16 + (← hexValue? c)
    if left ≤ 1 then return (← endUnicode acc high value, [])
    else return (.unicode acc high (left - 1) value, [])
  | .lowMark acc high, c =>
    if c = '\\' then some (.lowEscape acc high, []) else none
  | .lowEscape acc high, c =>
    if c = 'u' then some (.unicode acc (some high) 4 0, []) else none
  | .number acc, c =>
    if isNumeric c then some (.number (c :: acc), [])
    else do
      let t ← endNumber acc
      let (s, ts) ← startToken c
      return (s, t :: ts)
  | .word acc, c =>
    if 'a' ≤ c ∧ c ≤ 'z' then some (.word (c :: acc), [])
    else do
      let t ← endWord acc
      let (s, ts) ← startToken c
      return (s, t :: ts)

/-- The end of the text: an open number or word ends, an open string is an
error. -/
def lexEnd : LexState → Option (List Token)
  | .between => some []
  | .number acc => (endNumber acc).map fun t => [t]
  | .word acc => (endWord acc).map fun t => [t]
  | _ => none

/-- The tokens of a text, from a state of the lexer, last first. -/
def lexFrom : List Char → LexState → List Token → Option (List Token)
  | [], s, acc => (lexEnd s).map fun ts => ts.reverse ++ acc
  | c :: rest, s, acc =>
    match lexStep s c with
    | some (s', ts) => lexFrom rest s' (ts.reverse ++ acc)
    | none => none

/-- The tokens of a text. -/
def tokens? (cs : List Char) : Option (List Token) :=
  (lexFrom cs .between []).map List.reverse

end TravelModel.Json
