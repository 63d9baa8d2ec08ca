import TravelModel.Entity.FacetKind

/-!
# TravelModel — references between entities

A reference names a type as `prefix:Name` or `Name`; assembly binds it to a
symbol. `References` says which references a piece of a declaration holds,
in order, and how to put a list of references of the same length in their
place.
-/

namespace TravelModel

/-- The number of an entity, in the order of creation. -/
structure EntityId where
  index : Nat
deriving DecidableEq, Repr, Inhabited

/-- The number of a library, in the order of creation. -/
structure LibraryId where
  index : Nat
deriving DecidableEq, Repr, Inhabited

/-- How an entity number is shown. -/
def EntityId.text (id : EntityId) : String :=
  "entity#" ++ toString id.index

/-- How a library number is shown. -/
def LibraryId.text (id : LibraryId) : String :=
  "lib#" ++ toString id.index

/-- What a name can stand for: an entity, one of its aliases, one of its
fixed facets, or a contextual facet it inherits. -/
inductive Symbol where
  | entity (id : EntityId)
  | aliasOf (owner : EntityId) (index : Nat)
  | facet (owner : EntityId) (kind : FacetKind)
  | ghost (owner source : EntityId)
deriving DecidableEq, Repr, Inhabited

/-- The entity that carries a symbol. -/
def Symbol.owner : Symbol → EntityId
  | entity id => id
  | aliasOf o _ => o
  | facet o _ => o
  | ghost o _ => o

/-- Whether a symbol stands for an entity itself. -/
def Symbol.isEntity : Symbol → Bool
  | entity _ => true
  | _ => false

/-- A reference to a type, with what it is bound to. -/
structure Reference where
  name : String
  target : Option Symbol
deriving DecidableEq, Repr, Inhabited

namespace Reference

/-- A reference that is not bound. -/
def unbound (name : String) : Reference :=
  { name, target := none }

/-- Splits characters at the first colon. -/
def splitColon : List Char → Option (List Char × List Char)
  | [] => none
  | c :: rest =>
    if c = ':' then some ([], rest)
    else (splitColon rest).map fun p => (c :: p.1, p.2)

/-- The prefix, if there is one, and the local name. -/
def parts (r : Reference) : Option String × String :=
  match splitColon r.name.toList with
  | some (p, l) => (some (String.ofList p), String.ofList l)
  | none => (none, r.name)

/-- The name without its prefix. -/
def localName (r : Reference) : String :=
  r.parts.2

/-- The entity that carries the symbol a reference is bound to. -/
def entity? (r : Reference) : Option EntityId :=
  r.target.map Symbol.owner

end Reference

/-- The references a value holds, in order, and their replacement. -/
class References (α : Type) where
  /-- The references, in the order of declaration. -/
  refs : α → List Reference
  /-- The value with the references replaced by a list of as many. -/
  putRefs : α → List Reference → α

export References (refs putRefs)

namespace References

/-- The references of a list of items, one item after another. -/
def refsAll {α : Type} [References α] : List α → List Reference
  | [] => []
  | a :: rest => refs a ++ refsAll rest

/-- Each item takes as many references as it holds. -/
def putAll {α : Type} [References α] : List α → List Reference → List α
  | [], _ => []
  | a :: rest, rs => putRefs a (rs.take (refs a).length) :: putAll rest (rs.drop (refs a).length)

end References

instance : References Reference where
  refs r := [r]
  putRefs r rs := rs.headD r

instance {α : Type} [References α] : References (List α) where
  refs := References.refsAll
  putRefs := References.putAll

instance {α : Type} [References α] : References (Option α) where
  refs
    | some a => refs a
    | none => []
  putRefs
    | some a, rs => some (putRefs a rs)
    | none, _ => none

instance {α β : Type} [References α] [References β] : References (α × β) where
  refs p := refs p.1 ++ refs p.2
  putRefs p rs := (putRefs p.1 (rs.take (refs p.1).length), putRefs p.2 (rs.drop (refs p.1).length))

end TravelModel
