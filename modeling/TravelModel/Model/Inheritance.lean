import TravelModel.Model.Basic

/-!
# TravelModel — inheritance

An entity inherits along its chain of supertypes, which stops where it would
come back. A contextual facet of a supertype that an object does not declare
anew is seen on the object as a ghost.
-/

namespace TravelModel

/-- A contextual facet seen through a subtype. -/
structure GhostFacet where
  /-- The object that inherits. -/
  owner : EntityId
  /-- The contextual facet that is inherited. -/
  source : EntityId
  kind : ContextualKind
  facetName : String
  /-- Whether the facet is declared in the library of the object. -/
  sameLibrary : Bool
deriving DecidableEq, Repr, Inhabited

namespace Model

/-- The direct supertype of an entity. -/
def supertype? (m : Model) (id : EntityId) : Option EntityId :=
  ((m.entity? id).bind fun e => e.body.extension?).bind Reference.entity?

/-- Follows supertypes until one was met before. -/
def chainFrom (m : Model) : Nat → List EntityId → EntityId → List EntityId
  | 0, _, _ => []
  | budget + 1, met, current =>
    match m.supertype? current with
    | none => []
    | some up => if met.contains up then [] else up :: chainFrom m budget (up :: met) up

/-- The supertypes of an entity, the nearest first. -/
def extensionChain (m : Model) (id : EntityId) : List EntityId :=
  m.chainFrom (m.entitySlots.size + 1) [id] id

/-- Whether following supertypes comes back to one met before. -/
def hasCircularExtension (m : Model) (id : EntityId) : Bool :=
  let chain := m.extensionChain id
  (m.supertype? (chain.getLast?.getD id)).any fun next => next = id || chain.contains next

/-- Kind and name of a contextual facet. -/
def facetKey? (m : Model) (id : EntityId) : Option (ContextualKind × String) :=
  match (m.entity? id).map NamedEntity.body with
  | some (.contextualFacet f) => some (f.facetKind, f.facetName)
  | _ => none

/-- Facets whose key has not been seen, each key once. -/
def unseenFacets (m : Model) (owner : NamedEntity) :
    List EntityId → List (ContextualKind × String) → List GhostFacet
  | [], _ => []
  | source :: rest, seen =>
    match m.facetKey? source with
    | none => unseenFacets m owner rest seen
    | some key =>
      if seen.contains key then unseenFacets m owner rest seen
      else
        { owner := owner.id, source, kind := key.1, facetName := key.2
          sameLibrary := (m.entity? source).map NamedEntity.library = some owner.library } ::
          unseenFacets m owner rest (key :: seen)

/-- The contextual facets an object inherits, the nearest supertype first. -/
def ghostFacets (m : Model) (id : EntityId) : List GhostFacet :=
  match m.entity? id with
  | none => []
  | some owner =>
    if owner.kind.isObject then
      m.unseenFacets owner ((m.extensionChain id).flatMap m.symbols.facetsOf)
        ((m.symbols.facetsOf id).filterMap m.facetKey?)
    else []

/-- The name of a ghost facet. -/
def ghostName (m : Model) (g : GhostFacet) : String :=
  g.kind.entityName (((m.entity? g.owner).map NamedEntity.name).getD "?") g.facetName

end Model

end TravelModel
