import TravelModel.Finding
import TravelModel.Library.Basic
import TravelModel.Model.SymbolTable

/-!
# TravelModel — models

A model holds libraries and their entities by number. Numbers are given in
the order of creation and never again; a removed library leaves its numbers
empty. Libraries are also kept by key, that is by namespace and name. The
symbol table is that of the last refresh.
-/

namespace TravelModel

/-- An entity of a model. -/
structure NamedEntity where
  id : EntityId
  library : LibraryId
  name : String
  documentation : Option String
  body : EntityBody
deriving DecidableEq, Repr, Inhabited

/-- The kind of an entity. -/
def NamedEntity.kind (e : NamedEntity) : EntityKind :=
  e.body.kind

/-- A library of a model. -/
structure Library where
  id : LibraryId
  name : String
  ns : Option String
  nsPrefix : Option String
  version : String
  status : LibraryStatus
  documentation : Option String
  url : Option Url
  grammar : Option Grammar
  builtIn : Bool
  imports : List ImportDecl
  includes : List String
  contexts : List ContextDecl
  members : List EntityId
deriving DecidableEq, Repr, Inhabited

namespace Library

/-- The namespace and the name of a library, which no other one may have. -/
def key (l : Library) : Option String × String :=
  (l.ns, l.name)

/-- Whether a library takes the namespaces of its hosts. -/
def isChameleon (l : Library) : Bool :=
  l.ns.isNone

/-- The name of the file a library comes from. -/
def fileName? (l : Library) : Option String :=
  (l.url.bind Url.lastSegment?).filter (· ≠ "")

/-- The namespace a prefix stands for in a library. -/
def namespaceForPrefix (l : Library) (p : String) : Option String :=
  if l.nsPrefix = some p then l.ns
  else (l.imports.find? fun i => i.nsPrefix = some p).bind ImportDecl.ns

/-- How a library is called in findings. -/
def identity (l : Library) : String :=
  match l.ns with
  | some ns => l.name ++ " (" ++ ns ++ ")"
  | none => l.name

end Library

/-- Libraries and entities with the symbol table of the last refresh. -/
structure Model where
  librarySlots : Array (Option Library) := #[]
  entitySlots : Array (Option NamedEntity) := #[]
  /-- The number of the library with each key. -/
  keys : List ((Option String × String) × LibraryId) := []
  symbols : SymbolTable := {}
  /-- Whether libraries changed since the last refresh. -/
  stale : Bool := false
deriving DecidableEq, Repr, Inhabited

/-- The name an entity gets: contextual facets are named for their owner, an
extension point without a name for what it extends. -/
def MemberDecl.entityName (m : MemberDecl) : String :=
  match m.body with
  | .contextualFacet f => f.facetKind.entityName f.owner.localName f.facetName
  | .extensionPointFacet f =>
    if m.name = "" then "ExtensionPoint_" ++ f.extended.localName else m.name
  | _ => m.name

namespace Model

/-! ## Reading -/

/-- The libraries, in order. -/
def libraries (m : Model) : List Library :=
  m.librarySlots.toList.filterMap fun x => x

/-- The libraries that do not come with the program. -/
def userLibraries (m : Model) : List Library :=
  m.libraries.filter fun l => !l.builtIn

/-- The library with a number. -/
def library? (m : Model) (id : LibraryId) : Option Library :=
  (m.librarySlots[id.index]?).join

/-- The entities, in order. -/
def entities (m : Model) : List NamedEntity :=
  m.entitySlots.toList.filterMap fun x => x

/-- The entity with a number. -/
def entity? (m : Model) (id : EntityId) : Option NamedEntity :=
  (m.entitySlots[id.index]?).join

/-- The library of a namespace and a name. -/
def findLibrary? (m : Model) (ns : Option String) (name : String) : Option LibraryId :=
  (m.keys.find? fun k => k.1 = (ns, name)).map Prod.snd

/-- The libraries of a namespace. -/
def librariesIn (m : Model) (ns : String) : List Library :=
  m.libraries.filter fun l => l.ns = some ns

/-- The library loaded from a location. -/
def libraryByUrl? (m : Model) (url : Url) : Option Library :=
  m.libraries.find? fun l => l.url = some url

/-- The entities of a library, in the order of declaration. -/
def libraryEntities (m : Model) (id : LibraryId) : List NamedEntity :=
  ((m.library? id).map Library.members).getD [] |>.filterMap m.entity?

/-- The library that declares an entity. -/
def owner? (m : Model) (id : EntityId) : Option Library :=
  (m.entity? id).bind fun e => m.library? e.library

/-- Whether an entity belongs to a library that comes with the program. -/
def isBuiltIn (m : Model) (id : EntityId) : Bool :=
  ((m.owner? id).map Library.builtIn).getD true

/-- Finds an entity by `Library:Name`, or by name among user entities. -/
def findEntity? (m : Model) (name : String) : Option EntityId :=
  match (Reference.unbound name).parts with
  | (some library, n) =>
    (((m.libraries.filter fun l => l.name = library).flatMap fun l => m.libraryEntities l.id).find?
      fun e => e.name = n).map NamedEntity.id
  | (none, n) => (m.entities.find? fun e => e.name = n && !m.isBuiltIn e.id).map NamedEntity.id

/-- How an entity is called in findings. -/
def entitySource (m : Model) (e : NamedEntity) : String :=
  ((m.owner? e.id).map Library.name).getD "?" ++ ":" ++ e.name

/-! ## Changing -/

/-- The entities of some members, numbered from a start. -/
def newEntities (library : LibraryId) (start : Nat) (members : List MemberDecl) :
    List NamedEntity :=
  members.zipIdx.map fun (d, i) =>
    { id := ⟨start + i⟩, library, name := d.entityName, documentation := d.documentation,
      body := d.body }

/-- The finding on a library that is there already. -/
def duplicateLibrary (l : Library) : Finding :=
  .report l.identity .duplicateLibrary [l.name, l.ns.getD ""]

/-- Adds a library with its members, unless its namespace has one of that name. -/
def addLibrary (m : Model) (l : Library) (members : List MemberDecl) :
    Model × Option LibraryId × Findings :=
  if (m.findLibrary? l.ns l.name).isSome then (m, none, [duplicateLibrary l])
  else
    let id : LibraryId := ⟨m.librarySlots.size⟩
    let es := newEntities id m.entitySlots.size members
    let l := { l with id, members := es.map NamedEntity.id }
    ({ m with
        librarySlots := m.librarySlots.push (some l)
        entitySlots := m.entitySlots ++ (es.map some).toArray
        keys := m.keys ++ [(l.key, id)]
        stale := true },
      some id, [])

/-- Empties the slots of some entities. -/
def clearEntities (slots : Array (Option NamedEntity)) (ids : List EntityId) :
    Array (Option NamedEntity) :=
  ids.foldl (fun s id => s.setIfInBounds id.index none) slots

/-- Removes a library with its entities. -/
def removeLibrary (m : Model) (id : LibraryId) : Model × Option Library :=
  match m.library? id with
  | none => (m, none)
  | some l =>
    ({ m with
        librarySlots := m.librarySlots.setIfInBounds id.index none
        entitySlots := clearEntities m.entitySlots l.members
        keys := m.keys.filter fun k => k.1 ≠ l.key
        stale := true },
      some l)

end Model

end TravelModel
