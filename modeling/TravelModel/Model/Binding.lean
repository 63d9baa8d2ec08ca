import TravelModel.Model.Names

/-!
# TravelModel — binding

A refresh builds the symbol table, binds every reference, attaches contextual
facets to their owners, enters the names of ghosts and checks extensions
and owners.
-/

namespace TravelModel

/-- The namespace of the primitive types. -/
def primitiveNamespace : String := "http://www.w3.org/2001/XMLSchema"

namespace Model

/-! ## References -/

/-- The namespaces in which a reference is looked up. -/
def candidates (m : Model) (t : SymbolTable) (l : Library) (id : EntityId) (r : Reference) :
    List String :=
  match r.parts.1 with
  | some p => ((l.namespaceForPrefix p).or (t.namespaceFor p)).toList
  | none => m.effectiveNamespaces t id ++ [primitiveNamespace]

/-- What a reference stands for: in the first namespace that has the name, or
among the library's own members if it has no namespace. -/
def resolve (m : Model) (t : SymbolTable) (l : Library) (id : EntityId) (r : Reference) :
    Option Symbol :=
  let name := r.localName
  match (m.candidates t l id r).findSome? fun ns => t.lookup ns name with
  | some s => some s
  | none =>
    if l.isChameleon then
      ((m.libraryEntities l.id).find? fun e => e.name = name).map fun e => .entity e.id
    else none

/-- The finding on a reference that stands for nothing. -/
def unresolvedFinding (m : Model) (t : SymbolTable) (l : Library) (e : NamedEntity)
    (r : Reference) : Finding :=
  let spaces := m.candidates t l e.id r
  let name := r.localName
  let hint :=
    if spaces.any fun ns => t.isAmbiguous ns name then none
    else spaces.findSome? fun ns => t.suggest ns name
  .report (l.name ++ ":" ++ e.name) .unresolvedReference (r.name :: hint.toList)

/-- What the references of an entity stand for, with findings. -/
def bindings (m : Model) (t : SymbolTable) (e : NamedEntity) : List (Option Symbol) × Findings :=
  match m.owner? e.id with
  | none => ([], [])
  | some l =>
    let targets := (refs e.body).map (m.resolve t l e.id)
    let unbound := (refs e.body).filter fun r => (m.resolve t l e.id r).isNone
    (targets, unbound.map (m.unresolvedFinding t l e))

/-- An entity with its references bound. -/
def bindEntity (m : Model) (t : SymbolTable) (e : NamedEntity) : NamedEntity :=
  { e with body := e.body.assign (m.bindings t e).1 }

/-- A model with all references bound. -/
def bindAll (m : Model) (t : SymbolTable) : Model :=
  { m with entitySlots := m.entitySlots.map (Option.map (m.bindEntity t)) }

/-! ## Facets and ghosts -/

/-- Attaches a facet to its owner. -/
def attach (index : List (EntityId × List EntityId)) (owner facet : EntityId) :
    List (EntityId × List EntityId) :=
  match index with
  | [] => [(owner, [facet])]
  | (o, fs) :: rest => if o = owner then (o, fs ++ [facet]) :: rest else (o, fs) :: attach rest owner facet

/-- The contextual facets of each owner, in the order of the entities. -/
def facetIndex (m : Model) : List (EntityId × List EntityId) :=
  m.entities.foldl
    (fun index e =>
      match e.body with
      | .contextualFacet f =>
        match f.owner.entity? with
        | some o => attach index o e.id
        | none => index
      | _ => index)
    []

/-- The names of ghosts in the namespaces of their objects. -/
def ghostNames (m : Model) : List (String × String × Symbol) :=
  (m.entities.filter fun e => e.kind.isObject).flatMap fun e =>
    (m.ghostFacets e.id).flatMap fun g =>
      (m.effectiveNamespaces m.symbols e.id).map fun ns =>
        (ns, m.ghostName g, .ghost g.owner g.source)

/-- Enters names that are neither taken nor ambiguous. -/
def enterDerived (t : SymbolTable) (names : List (String × String × Symbol)) : SymbolTable :=
  names.foldl
    (fun t (ns, n, s) => if t.isAmbiguous ns n || (t.lookup ns n).isSome then t else t.put ns n s) t

/-! ## Checks -/

/-- The finding on an entity whose supertypes come back. -/
def circularFindings (m : Model) (e : NamedEntity) : Findings :=
  if e.body.extension?.isSome && m.hasCircularExtension e.id then
    [.report (m.entitySource e) .circularExtension [e.name]]
  else []

/-- The finding on a contextual facet whose owner cannot have facets. -/
def ownerFindings (m : Model) (e : NamedEntity) : Findings :=
  match e.body with
  | .contextualFacet f =>
    match f.owner.entity?.bind m.entity? with
    | some o =>
      if o.kind.isObject || o.kind = e.kind then []
      else [.report (m.entitySource e) .invalidFacetOwner [f.owner.name, e.name]]
    | none => []
  | _ => []

/-- The findings on extensions and owners. -/
def checkStructure (m : Model) : Findings :=
  m.entities.flatMap fun e => m.circularFindings e ++ m.ownerFindings e

/-! ## Refresh -/

/-- Builds the symbol table anew and binds all references. -/
def refresh (m : Model) : Model × Findings :=
  let (t, nameFindings) := m.buildSymbols
  let bindFindings := m.entities.flatMap fun e => (m.bindings t e).2
  let bound := m.bindAll t
  let t := { t with facets := bound.facetIndex }
  let indexed := { bound with symbols := t }
  let m := { indexed with symbols := enterDerived t indexed.ghostNames, stale := false }
  (m, nameFindings ++ bindFindings ++ m.checkStructure)

end Model

end TravelModel
