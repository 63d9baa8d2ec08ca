/-!
# TravelModel — blanks

White space of every script, and the trimming of texts.
-/

namespace TravelModel.Text

/-- Whether a character is white space. -/
def isBlank (c : Char) : Bool :=
  let n := c.toNat
  (9 ≤ n && n ≤ 13) || n = 32 || n = 0x85 || n = 0xA0 || n = 0x1680 ||
    (0x2000 ≤ n && n ≤ 0x200A) || n = 0x2028 || n = 0x2029 || n = 0x202F || n = 0x205F ||
    n = 0x3000

/-- Removes the trailing characters of a kind. -/
def dropTrailing (p : Char → Bool) (cs : List Char) : List Char :=
  (cs.reverse.dropWhile p).reverse

/-- Removes leading and trailing characters of a kind. -/
def trimBoth (p : Char → Bool) (cs : List Char) : List Char :=
  dropTrailing p (cs.dropWhile p)

/-- Removes leading and trailing white space. -/
def trimBlanks (s : String) : String :=
  String.ofList (trimBoth isBlank s.toList)

end TravelModel.Text
