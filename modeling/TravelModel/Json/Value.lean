import TravelModel.Keyed
import TravelModel.Number.Reading

/-!
# TravelModel — JSON values

A number is a whole number that fits 64 bits, signed or unsigned, or a
binary floating point number. The fields of an object are a keyed list, so
two objects with the same entries are equal however they were written.
-/

namespace TravelModel

/-- A JSON number. -/
inductive JsonNumber where
  | whole (n : Int)
  | float (x : Binary64)
deriving DecidableEq, Repr, Inhabited

/-- A JSON value. -/
inductive Json where
  | null
  | bool (b : Bool)
  | num (n : JsonNumber)
  | str (s : String)
  | arr (items : List Json)
  | obj (fields : List (String × Json))
deriving Repr, Inhabited

/-- The number a literal denotes; `none` when it is out of range. -/
def JsonNumber.ofLiteral? (l : Literal) : Option JsonNumber :=
  let n := digitsValue l.whole
  let fits := if l.negative then n ≠ 0 ∧ n ≤ Nat.pow 2 63 else n < Nat.pow 2 64
  if l.fraction.isNone ∧ l.exponent.isNone ∧ fits then
    some (.whole (if l.negative then -(n : Int) else n))
  else
    l.toBinary64?.map .float

namespace Json

/-- An object with the given entries; of two under one key the later wins. -/
def object (entries : List (String × Json)) : Json :=
  .obj (Keyed.ofList entries)

/-- A whole number. -/
def nat (n : Nat) : Json :=
  .num (.whole n)

/-- A list of texts. -/
def strings (items : List String) : Json :=
  .arr (items.map .str)

/-- A text, or null. -/
def optStr : Option String → Json
  | some s => .str s
  | none => .null

/-- The fields of an object. -/
def fields? : Json → Option (Keyed Json)
  | .obj fields => some fields
  | _ => none

/-- The field of an object under a name. -/
def field? (name : String) : Json → Option Json
  | .obj fields => Keyed.find? name fields
  | _ => none

/-- The text of a string value. -/
def text? : Json → Option String
  | .str s => some s
  | _ => none

/-- The truth value. -/
def bool? : Json → Option Bool
  | .bool b => some b
  | _ => none

/-- The items of an array. -/
def items? : Json → Option (List Json)
  | .arr items => some items
  | _ => none

/-- A whole number that is not negative. -/
def nat? : Json → Option Nat
  | .num (.whole (.ofNat n)) => some n
  | _ => none

/-- The text of a field, if it is there and is a text. -/
def textField? (name : String) (j : Json) : Option String :=
  (j.field? name).bind text?

/-- Puts a field into an object; other values stay as they are. -/
def setField (j : Json) (name : String) (value : Json) : Json :=
  match j with
  | .obj fields => .obj (Keyed.insert name value fields)
  | _ => j

end Json

end TravelModel
