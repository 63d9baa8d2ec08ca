import TravelModel.Json.Value

/-!
# TravelModel — TOML values

A document is a table. Numbers that are not finite and moments in time have
no counterpart in JSON; `Toml.toJson` says what becomes of them.
-/

namespace TravelModel

/-- A TOML value. -/
inductive Toml where
  | text (s : String)
  | whole (n : Int)
  | float (x : Binary64)
  /-- An infinite number or none, by its name. -/
  | special (name : String)
  | flag (b : Bool)
  /-- A date, a time or both, in its usual form. -/
  | moment (text : String)
  | list (items : List Toml)
  | table (fields : List (String × Toml))
deriving Repr, Inhabited

namespace Toml

mutual

/-- The value as JSON. With `asText`, moments and special numbers become their
texts; without, they become values that no setting can take: a moment a record
of its own and a special number zero. -/
def toJson (asText : Bool) : Toml → Json
  | text s => .str s
  | whole n => .num (.whole n)
  | float x => .num (.float x)
  | special name => if asText then .str name else .nat 0
  | flag b => .bool b
  | moment s => if asText then .str s else .object [("", .str s)]
  | list items => .arr (itemsToJson asText items)
  | table fields => .obj (fieldsToJson asText fields)

/-- The items of a list as JSON. -/
def itemsToJson (asText : Bool) : List Toml → List Json
  | [] => []
  | v :: rest => v.toJson asText :: itemsToJson asText rest

/-- The fields of a table as JSON. -/
def fieldsToJson (asText : Bool) : List (String × Toml) → List (String × Json)
  | [] => []
  | (k, v) :: rest => (k, v.toJson asText) :: fieldsToJson asText rest

end

end Toml

end TravelModel
