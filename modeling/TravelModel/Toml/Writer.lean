import TravelModel.Json.Printer

/-!
# TravelModel — writing TOML texts

A text is written in the form that needs the fewest escapes: in single
quotes if it has double quotes or backslashes and can stand as it is, else in
double quotes, and over several lines if it has line ends.
-/

namespace TravelModel.Toml

/-- What has been seen of a text. -/
structure TextTraits where
  /-- Single quotes in a row up to here. -/
  quotes : Nat := 0
  /-- The longest row of single quotes. -/
  mostQuotes : Nat := 0
  hasLines : Bool := false
  /-- Whether it has double quotes or backslashes. -/
  hasEscapable : Bool := false
  /-- Whether it can stand in single quotes. -/
  canBeLiteral : Bool := true

/-- Whether a character needs an escape everywhere. -/
def isControl (c : Char) : Bool :=
  c.toNat ≤ 0x1F || c.toNat = 0x7F

/-- Takes note of a character. -/
def TextTraits.see (t : TextTraits) (c : Char) : TextTraits :=
  if t.canBeLiteral then
    let quotes := if c = '\x27' then t.quotes + 1 else 0
    { quotes
      mostQuotes := max t.mostQuotes quotes
      hasLines := t.hasLines || c = '\n'
      hasEscapable := t.hasEscapable || c = '\x22' || c = '\x5c'
      canBeLiteral := quotes < 3 && (c = '\t' || c = '\n' || !isControl c) }
  else { t with hasLines := t.hasLines || c = '\n' }

/-- What is seen of a text. -/
def TextTraits.ofText (s : String) : TextTraits :=
  s.toList.foldl TextTraits.see {}

/-- A character in double quotes. -/
def quotedChar (lines : Bool) (c : Char) : List Char :=
  if c = '\x08' then ['\x5c', 'b']
  else if c = '\t' then ['\x5c', 't']
  else if c = '\n' then if lines then ['\n'] else ['\x5c', 'n']
  else if c = '\x0c' then ['\x5c', 'f']
  else if c = '\r' then ['\x5c', 'r']
  else if c = '\x22' then ['\x5c', '\x22']
  else if c = '\x5c' then ['\x5c', '\x5c']
  else if isControl c then
    ['\x5c', 'u', '0', '0', (Json.hexDigit (c.toNat / 16)).toUpper,
      (Json.hexDigit (c.toNat % 16)).toUpper]
  else [c]

/-- The written form of a text. -/
def quoteText (s : String) : String :=
  let t := TextTraits.ofText s
  if t.hasEscapable && t.canBeLiteral && t.quotes = 0 then
    if t.hasLines then "'''\n" ++ s ++ "'''"
    else if t.mostQuotes > 0 then "'''" ++ s ++ "'''"
    else "'" ++ s ++ "'"
  else
    let mark := if t.hasLines then "\"\"\"\n" else "\""
    let close := if t.hasLines then "\"\"\"" else "\""
    mark ++ String.ofList (s.toList.flatMap (quotedChar t.hasLines)) ++ close

end TravelModel.Toml
