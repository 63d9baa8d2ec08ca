import TravelModel.Json.Value

/-!
# TravelModel — reading records from JSON

A record is written as an object, or as the list of its fields in the order
of declaration. A field is required, has a default, or is optional; only an
optional field may be null.
-/

namespace TravelModel

/-- The fields a record is read from. -/
inductive RecordSource where
  | named (fields : Keyed Json)
  | placed (items : List Json)
deriving Inhabited

namespace RecordSource

/-- The fields of an object. -/
def object? : Json → Option RecordSource
  | .obj fields => some (.named fields)
  | _ => none

/-- The fields of an object, or of a list of at most `width` items. -/
def record? (width : Nat) : Json → Option RecordSource
  | .obj fields => some (.named fields)
  | .arr items => if items.length ≤ width then some (.placed items) else none
  | _ => none

/-- The value of a field, by name or by place. -/
def get? (s : RecordSource) (place : Nat) (name : String) : Option Json :=
  match s with
  | named fields => Keyed.find? name fields
  | placed items => items[place]?

variable {α : Type}

/-- A field that has to be there. -/
def required (s : RecordSource) (place : Nat) (name : String) (read : Json → Option α) : Option α :=
  (s.get? place name).bind read

/-- A field that has a default. -/
def withDefault (s : RecordSource) (place : Nat) (name : String) (read : Json → Option α) (d : α) :
    Option α :=
  match s.get? place name with
  | some j => read j
  | none => some d

/-- A field that may be left out or be null. -/
def optional (s : RecordSource) (place : Nat) (name : String) (read : Json → Option α) :
    Option (Option α) :=
  match s.get? place name with
  | none | some .null => some none
  | some j => (read j).map some

end RecordSource

namespace Json

variable {α : Type}

/-- A list of items, all of which can be read. -/
def list? (read : Json → Option α) : Json → Option (List α)
  | .arr items => items.mapM read
  | _ => none

/-- A whole number below a bound. -/
def natBelow? (bound : Nat) (j : Json) : Option Nat :=
  j.nat?.filter (· < bound)

/-- A whole number of 32 bits. -/
def nat32? : Json → Option Nat :=
  natBelow? (Nat.pow 2 32)

/-- A whole number of 16 bits. -/
def nat16? : Json → Option Nat :=
  natBelow? (Nat.pow 2 16)

/-- A named choice: its name, or an object that has the name as its only key,
with a value that says nothing. -/
def choice? (ofName? : String → Option α) : Json → Option α
  | .str s => ofName? s
  | .obj [(k, .null)] => ofName? k
  | .obj [(k, .obj [])] => ofName? k
  | _ => none

/-- A named choice: its name, or an object that has the name as its only key,
with no value. -/
def plainChoice? (ofName? : String → Option α) : Json → Option α
  | .str s => ofName? s
  | .obj [(k, .null)] => ofName? k
  | _ => none

end Json

end TravelModel
