import TravelModel.Model.Assembly

/-!
# TravelModel — scope of a generation

A scope says which libraries and entities are generated: all that the roots
need, directly or through others, and the libraries whose documents these
extend or include.
-/

namespace TravelModel

/-- Which libraries and entities are generated, each list in the order of
numbers. -/
structure Scope where
  libraries : List LibraryId := []
  entities : List EntityId := []
  /-- Libraries that are in scope because others extend or include them. -/
  extended : List LibraryId := []
deriving DecidableEq, Repr, Inhabited

namespace Scope

/-- Whether nothing is in scope. -/
def isEmpty (s : Scope) : Bool :=
  s.libraries.isEmpty && s.entities.isEmpty

/-- What is in both scopes. -/
def and (a b : Scope) : Scope :=
  { libraries := a.libraries.filter b.libraries.contains
    entities := a.entities.filter b.entities.contains
    extended := a.extended.filter b.extended.contains }

/-- The scope of a whole model. -/
def everything (m : Model) : Scope :=
  { libraries := m.libraries.map Library.id, entities := m.entities.map NamedEntity.id }

end Scope

/-- Adds, layer by layer, what the last layer leads to and was not met before. -/
def closeLayers {α : Type} [DecidableEq α] (next : α → List α) : Nat → List α → List α → List α
  | 0, _, met => met
  | budget + 1, layer, met =>
    match ((layer.flatMap next).filter fun x => !met.contains x).eraseDups with
    | [] => met
    | fresh => closeLayers next budget fresh (met ++ fresh)

namespace Model

/-! ## Dependencies -/

/-- The entities a symbol leads to. -/
def symbolEntities : Symbol → List EntityId
  | .ghost owner source => [owner, source]
  | s => [s.owner]

/-- What an entity needs directly: the targets of its references, and for an
object its contextual facets, inherited ones included. -/
def dependencies (m : Model) (id : EntityId) : List EntityId :=
  match m.entity? id with
  | none => []
  | some e =>
    let named := ((refs e.body).filterMap Reference.target).flatMap symbolEntities
    let attached :=
      if e.kind.isObject then
        m.symbols.facetsOf id ++ (m.ghostFacets id).map GhostFacet.source
      else []
    (named ++ attached).filter (· ≠ id)

/-- All entities the roots need, the roots included. -/
def closure (m : Model) (roots : List EntityId) : List EntityId :=
  let roots := roots.eraseDups
  closeLayers m.dependencies (m.entitySlots.size + 1) roots roots

end Model

/-! ## Building -/

namespace Scope

/-- The entities that exist among some. -/
def liveEntities (m : Model) (ids : List EntityId) : List NamedEntity :=
  m.entities.filter fun e => ids.contains e.id

/-- The library of what an entity extends as an extension point. -/
def extendedLibrary? (m : Model) (e : NamedEntity) : Option LibraryId :=
  match e.body with
  | .extensionPointFacet f =>
    (f.extended.entity?.bind m.entity?).map NamedEntity.library
  | _ => none

/-- Whether a library is hosted by the namespace of one of some libraries. -/
def isHostedBy (m : Model) (libraries : List LibraryId) (chameleon : Library) : Bool :=
  libraries.any fun id =>
    ((m.library? id).bind Library.ns).any (m.symbols.hostsOf chameleon.id).contains

/-- The scope of all that some roots need. -/
def needed (m : Model) (roots : List EntityId) : Scope :=
  let live := liveEntities m (m.closure roots)
  let owning := live.map NamedEntity.library
  let extensions := live.filterMap (extendedLibrary? m)
  let extended := m.libraries.filter fun l =>
    extensions.contains l.id ||
      (l.isChameleon && isHostedBy m owning l && !owning.contains l.id)
  { entities := live.map NamedEntity.id
    libraries := (m.libraries.filter fun l => owning.contains l.id || extended.contains l).map
      Library.id
    extended := extended.map Library.id }

/-- Adds roots and their libraries. -/
def withRoots (m : Model) (roots : List EntityId) (s : Scope) : Scope :=
  let live := liveEntities m roots
  { s with
    entities := (m.entities.filter fun e => s.entities.contains e.id || live.contains e).map
      NamedEntity.id
    libraries := (m.libraries.filter fun l =>
      s.libraries.contains l.id || live.any fun e => e.library = l.id).map Library.id }

/-- The scope of some roots, limited to a global one; the roots always stay. -/
def build (m : Model) (roots : List EntityId) (global : Option Scope) : Scope :=
  let all := needed m roots
  withRoots m roots <|
    match global with
    | some g => all.and g
    | none => all

/-- All members of some libraries. -/
def membersOf (m : Model) (libraries : List LibraryId) : List EntityId :=
  (libraries.flatMap m.libraryEntities).map NamedEntity.id

end Scope

end TravelModel
