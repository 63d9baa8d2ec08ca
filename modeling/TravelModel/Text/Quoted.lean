import TravelModel.Text.Unprintable

/-!
# TravelModel — quoted characters

How a single character is shown in a message: in single quotes, with the
usual escapes, and by its number where it would not be seen.
-/

namespace TravelModel.Text

/-- A character as it stands between single quotes. -/
def escapeQuoted (c : Char) : String :=
  if c.toNat = 0 then "\\0"
  else if c = '\t' then "\\t"
  else if c = '\r' then "\\r"
  else if c = '\n' then "\\n"
  else if c = '\'' then "\\'"
  else if c = '\\' then "\\\\"
  else if isUnprintable c then
    "\\u\x7b" ++ String.ofList (Nat.toDigits 16 c.toNat) ++ "\x7d"
  else c.toString

/-- A character in single quotes. -/
def quoteChar (c : Char) : String :=
  "'" ++ escapeQuoted c ++ "'"

end TravelModel.Text
