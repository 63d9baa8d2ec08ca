import TravelModel.Proofs.Contributions
import TravelModel.Proofs.References

/-!
# TravelModel — what a model declares

The symbol table and the targets of references are computed from what the
entities of a model declare, not from the targets of an earlier refresh.
Here an entity is compared without its targets: `SameDeclarations` relates
models with the same libraries whose entities agree in that way, and every
step of a refresh up to the binding of references respects the relation.

Main results:

* `SameDeclarations.buildSymbols` — models that declare the same have the same
  table, with the same findings.
* `bindEntity_congr` — and their entities are bound alike.
* `sameDeclarations_refresh` — a refresh changes targets only.
-/

namespace TravelModel

/-! ## Entities without their targets -/

namespace EntityBody

theorem kind_declared (b : EntityBody) : b.declared.kind = b.kind := by
  cases b <;> rfl

theorem aliases_declared (b : EntityBody) : b.declared.aliases = b.aliases := by
  cases b <;> rfl

theorem fixedFacetKinds_declared (b : EntityBody) :
    b.declared.fixedFacetKinds = b.fixedFacetKinds := by
  cases b <;> rfl

end EntityBody

/-- What the names of an operation's messages are made of. -/
def Operation.outline (op : Operation) : String × List MessageKind :=
  (op.name, op.messages.map Prod.fst)

theorem Operation.outline_putRefs (op : Operation) (rs : List Reference) :
    (putRefs op rs).outline = op.outline := by
  obtain ⟨name, request, response, notification⟩ := op
  cases request <;> cases response <;> cases notification <;> rfl

theorem Operation.map_outline_putRefs (ops : List Operation) (rs : List Reference) :
    (putRefs ops rs).map Operation.outline = ops.map Operation.outline := by
  induction ops generalizing rs with
  | nil => rfl
  | cons op rest ih =>
    rw [References.putAll_cons, List.map_cons, List.map_cons, ih, outline_putRefs]

namespace NamedEntity

/-- An entity as declared, without targets. -/
def declared (e : NamedEntity) : NamedEntity :=
  { e with body := e.body.declared }

theorem symbolNames_declared (e : NamedEntity) : e.declared.symbolNames = e.symbolNames := by
  rw [symbolNames, symbolNames, declared, EntityBody.aliases_declared,
    EntityBody.fixedFacetKinds_declared]

end NamedEntity

namespace Model

/-- The names of messages are made of the outlines of the operations. -/
theorem messageNames_eq (name : String) (id : EntityId) (ops : List Operation) :
    (ops.zipIdx.flatMap fun x =>
      x.1.messages.map fun c => (x.1.messageName name c.1, (⟨id, x.2, c.1⟩ : OperationSymbol))) =
      (ops.map Operation.outline).zipIdx.flatMap fun x =>
        x.1.2.map fun k => (name ++ "_" ++ x.1.1 ++ "_" ++ k.suffix, ⟨id, x.2, k⟩) := by
  rw [List.zipIdx_map, List.flatMap_map]
  refine List.flatMap_congr fun x _ => ?_
  show x.1.messages.map _ = (x.1.messages.map Prod.fst).map _
  rw [List.map_map]
  rfl

theorem messageNames_declared (e : NamedEntity) : messageNames e.declared = messageNames e := by
  obtain ⟨id, library, name, documentation, body⟩ := e
  cases body with
  | service s =>
    refine (messageNames_eq name id _).trans ?_
    refine Eq.trans ?_ (messageNames_eq name id s.operations).symm
    rw [← Operation.map_outline_putRefs s.operations]
    rfl
  | _ => rfl

/-! ## Models that declare the same -/

/-- Two models have the same libraries and, at the same numbers, entities that
declare the same. -/
structure SameDeclarations (m m' : Model) : Prop where
  library? : ∀ id, m.library? id = m'.library? id
  entity? : ∀ id, (m.entity? id).map NamedEntity.declared = (m'.entity? id).map NamedEntity.declared

namespace SameDeclarations

variable {m m' m'' : Model}

theorem symm (h : SameDeclarations m m') : SameDeclarations m' m :=
  ⟨fun id => (h.library? id).symm, fun id => (h.entity? id).symm⟩

theorem trans (h : SameDeclarations m m') (h' : SameDeclarations m' m'') :
    SameDeclarations m m'' :=
  ⟨fun id => (h.library? id).trans (h'.library? id), fun id => (h.entity? id).trans (h'.entity? id)⟩

theorem libraries (h : SameDeclarations m m') : m.libraries = m'.libraries := by
  have hslots : ∀ i : Nat, (m.librarySlots.toList[i]?).join.map id =
      (m'.librarySlots.toList[i]?).join.map id := by
    intro i
    rw [Array.getElem?_toList, Array.getElem?_toList]
    exact congrArg (Option.map id) (h.library? ⟨i⟩)
  have hmap := map_slots_congr id hslots
  rw [List.map_id, List.map_id] at hmap
  exact hmap

theorem entities (h : SameDeclarations m m') :
    m.entities.map NamedEntity.declared = m'.entities.map NamedEntity.declared := by
  refine map_slots_congr NamedEntity.declared fun i => ?_
  rw [Array.getElem?_toList, Array.getElem?_toList]
  exact h.entity? ⟨i⟩

theorem libraryEntities (h : SameDeclarations m m') (id : LibraryId) :
    (m.libraryEntities id).map NamedEntity.declared =
      (m'.libraryEntities id).map NamedEntity.declared := by
  rw [Model.libraryEntities, Model.libraryEntities, h.library?, List.map_filterMap,
    List.map_filterMap]
  exact List.filterMap_congr fun x _ => h.entity? x

theorem owner? (h : SameDeclarations m m') (id : EntityId) : m.owner? id = m'.owner? id := by
  -- the library of an entity can be read off its declaration
  have hvia : ∀ m : Model,
      m.owner? id = ((m.entity? id).map NamedEntity.declared).bind fun e =>
        m.library? e.library := by
    intro m
    rw [Option.bind_map]
    rfl
  rw [hvia, hvia, h.entity?]
  refine Option.bind_congr fun e _ => ?_
  exact h.library? e.library

theorem effectiveNamespaces (h : SameDeclarations m m') (t : SymbolTable) (id : EntityId) :
    m.effectiveNamespaces t id = m'.effectiveNamespaces t id := by
  rw [Model.effectiveNamespaces, Model.effectiveNamespaces, h.owner?]

theorem broughtBy (h : SameDeclarations m m') (id : LibraryId) :
    m.broughtBy id = m'.broughtBy id := by
  have hvia : ∀ m : Model, m.broughtBy id =
      ((m.libraryEntities id).map NamedEntity.declared).flatMap NamedEntity.symbolNames := by
    intro m
    rw [List.flatMap_map, Model.broughtBy]
    exact List.flatMap_congr fun e _ => e.symbolNames_declared.symm
  rw [hvia, hvia, h.libraryEntities]

/-! ### The table -/

theorem nativeNames (h : SameDeclarations m m') : m.nativeNames = m'.nativeNames := by
  rw [nativeNames_eq, nativeNames_eq, h.libraries]
  simp only [h.broughtBy]

theorem chameleonHosts (h : SameDeclarations m m') : m.chameleonHosts = m'.chameleonHosts := by
  have hhosts : m.hostsFor = m'.hostsFor := by
    funext c
    rw [hostsFor, hostsFor, h.libraries]
  rw [Model.chameleonHosts, Model.chameleonHosts, h.libraries, hhosts]

theorem assignPrefixes (h : SameDeclarations m m') (t : SymbolTable) :
    m.assignPrefixes t = m'.assignPrefixes t := by
  rw [Model.assignPrefixes, Model.assignPrefixes, h.libraries]

theorem mergeHosted (h : SameDeclarations m m') (t : SymbolTable) :
    m.mergeHosted t = m'.mergeHosted t := by
  have hbrought : m.broughtBy = m'.broughtBy := funext h.broughtBy
  have hcontributions : m.contributions t.hosts = m'.contributions t.hosts := by
    rw [contributions_eq, contributions_eq, hbrought]
  have hnames : m.contributorNames = m'.contributorNames := by
    funext given native
    rw [contributorNames, contributorNames, funext h.library?, funext h.owner?]
  have hmerge : m.mergeName = m'.mergeName := by
    funext t ns name given
    unfold mergeName
    rw [hnames]
  rw [Model.mergeHosted, Model.mergeHosted, hcontributions, hmerge]

theorem indexOperations (h : SameDeclarations m m') (t : SymbolTable) :
    m.indexOperations t = m'.indexOperations t := by
  have hvia : ∀ m : Model, m.indexOperations t =
      (m.entities.map NamedEntity.declared).foldl (fun t e =>
        (m.effectiveNamespaces t e.id).foldl
          (fun t ns => (messageNames e).foldl (fun t x => t.putOperation ns x.1 x.2) t) t) t := by
    intro m
    rw [List.foldl_map]
    simp only [messageNames_declared]
    rfl
  have hspaces : m.effectiveNamespaces = m'.effectiveNamespaces := by
    funext t id
    exact h.effectiveNamespaces t id
  rw [hvia, hvia, h.entities, hspaces]

/-- Models that declare the same have the same table, with the same findings. -/
theorem buildSymbols (h : SameDeclarations m m') : m.buildSymbols = m'.buildSymbols := by
  rw [Model.buildSymbols, Model.buildSymbols, h.assignPrefixes, h.chameleonHosts, h.nativeNames]
  simp only [h.mergeHosted, h.indexOperations]

/-! ### References -/

theorem candidates (h : SameDeclarations m m') (t : SymbolTable) (l : Library) (id : EntityId)
    (r : Reference) : m.candidates t l id r = m'.candidates t l id r := by
  unfold Model.candidates
  rw [h.effectiveNamespaces]

theorem resolve (h : SameDeclarations m m') (t : SymbolTable) (l : Library) (id : EntityId)
    (r : Reference) : m.resolve t l id r = m'.resolve t l id r := by
  -- a member is found by its name, which a target cannot change
  have hmember : ∀ m : Model,
      ((m.libraryEntities l.id).find? fun e => e.name = r.localName).map
          (fun e => Symbol.entity e.id) =
        (((m.libraryEntities l.id).map NamedEntity.declared).find? fun e =>
          e.name = r.localName).map fun e => Symbol.entity e.id := by
    intro m
    rw [List.find?_map, Option.map_map]
    rfl
  rw [Model.resolve, Model.resolve, h.candidates, hmember, hmember, h.libraryEntities]

theorem unresolvedFinding (h : SameDeclarations m m') (t : SymbolTable) (l : Library)
    (e : NamedEntity) (r : Reference) :
    m.unresolvedFinding t l e r = m'.unresolvedFinding t l e r := by
  rw [Model.unresolvedFinding, Model.unresolvedFinding, h.candidates]

theorem bindings (h : SameDeclarations m m') (t : SymbolTable) (e : NamedEntity) :
    m.bindings t e = m'.bindings t e := by
  have hresolve : m.resolve t = m'.resolve t := by
    funext l id r
    exact h.resolve t l id r
  have hfinding : m.unresolvedFinding t = m'.unresolvedFinding t := by
    funext l e r
    exact h.unresolvedFinding t l e r
  rw [Model.bindings, Model.bindings, h.owner?, hresolve, hfinding]

end SameDeclarations

/-! ## Binding -/

/-- What is bound depends on the declared names only. -/
theorem bindings_declared (m : Model) (t : SymbolTable) (e : NamedEntity) :
    m.bindings t e.declared = m.bindings t e := by
  have hid : e.declared.id = e.id := rfl
  rw [bindings, bindings, hid]
  cases m.owner? e.id with
  | none => rfl
  | some l =>
    have hrefs : refs e.declared.body = (refs e.body).map fun r => .unbound r.name := by
      rw [NamedEntity.declared, EntityBody.refs_declared, EntityBody.refNames, List.map_map]
      rfl
    dsimp only
    rw [hrefs, List.map_map, List.filter_map, List.map_map]
    rfl

theorem length_bindings {m : Model} (hm : m.WellFormed) (t : SymbolTable) {id : EntityId}
    {e : NamedEntity} (he : m.entity? id = some e) :
    (m.bindings t e).1.length = (refs e.body).length := by
  obtain ⟨l, hl, -⟩ := hm.owner?_eq he
  rw [bindings, hm.entity_id he, hl]
  exact List.length_map ..

/-- Binding keeps what an entity declares. -/
theorem declared_bindEntity {m : Model} (hm : m.WellFormed) (t : SymbolTable) {id : EntityId}
    {e : NamedEntity} (he : m.entity? id = some e) :
    (m.bindEntity t e).declared = e.declared := by
  rw [bindEntity, NamedEntity.declared, EntityBody.declared_assign (length_bindings hm t he)]
  rfl

/-- Entities that declare the same, in models that do, are bound alike. -/
theorem bindEntity_congr {m m' : Model} (hm : m.WellFormed) (h : SameDeclarations m m')
    (t : SymbolTable) {id : EntityId} {e e' : NamedEntity} (he : m.entity? id = some e)
    (hdeclared : e.declared = e'.declared) : m.bindEntity t e = m'.bindEntity t e' := by
  have hbody : e.body.declared = e'.body.declared := congrArg NamedEntity.body hdeclared
  -- the targets are the same, and binding hides the ones that stood there
  have htargets : m.bindings t e = m'.bindings t e' := by
    rw [← bindings_declared m, hdeclared, bindings_declared, h.bindings]
  have hassign := EntityBody.assign_congr hbody (length_bindings hm t he)
  rw [bindEntity, bindEntity, hassign, htargets]
  -- the other fields are part of the declaration
  obtain ⟨id, library, name, documentation, body⟩ := e
  obtain ⟨id', library', name', documentation', body'⟩ := e'
  simp only [NamedEntity.declared, NamedEntity.mk.injEq] at hdeclared ⊢
  exact ⟨hdeclared.1, hdeclared.2.1, hdeclared.2.2.1, hdeclared.2.2.2.1, trivial⟩

/-! ## Refresh -/

/-- A model during its refresh: references are bound and facets attached, but
no ghost has a name yet. -/
def indexed (m : Model) : Model :=
  let bound := m.bindAll m.buildSymbols.1
  { bound with symbols := { m.buildSymbols.1 with facets := bound.facetIndex } }

theorem refresh_eq (m : Model) :
    m.refresh.1 =
      { m.indexed with
        symbols := enterDerived m.indexed.symbols m.indexed.ghostNames
        stale := false } :=
  rfl

/-- A refresh changes targets only. -/
theorem sameDeclarations_refresh {m : Model} (hm : m.WellFormed) :
    SameDeclarations m m.refresh.1 := by
  refine ⟨fun id => (library?_refresh m id).symm, fun id => ?_⟩
  rw [entity?_refresh, Option.map_map]
  cases he : m.entity? id with
  | none => rfl
  | some e => exact congrArg some (declared_bindEntity hm _ he).symm

end Model

end TravelModel
