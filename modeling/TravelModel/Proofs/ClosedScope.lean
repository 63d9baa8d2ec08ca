import TravelModel.Generation.Run
import TravelModel.Proofs.LibraryOrder
import TravelModel.Proofs.Lists
import TravelModel.Proofs.Needs

/-!
# TravelModel — generations with a closed scope

Without a global scope, all that an entity in scope needs is in scope too, and
the library of each is generated unless it comes with the program. What a
generation writes can then be looked for among what it generates.

Main results:

* `closed_context` — the context of some roots without a global scope is closed.
* `Closed.emitted` — what an entity reaches that is generated comes with the program
  or is generated too, in its own library.
* `entityNamespace?_some`, `entityNamespace?_none` — the namespace written for an
  entity is that of its library or of a host of it; it has none in its own
  library, and where nothing hosts it.
-/

namespace TravelModel

namespace GenerationContext

open Model

/-- The context of a whole generation from bound references: all that entities
in scope reach is in scope, and the libraries that own it are in the order. -/
structure Closed (c : GenerationContext) : Prop where
  settled : c.model.Settled
  registry : c.registry = .standard
  running : ∀ f id, c.cancelled f id = false
  reach : ∀ {x y e}, x ∈ c.scope.entities → c.model.Reaches x y → c.model.entity? y = some e →
    y ∈ c.scope.entities
  owner : ∀ {e l}, c.model.entity? e.id = some e → e.id ∈ c.scope.entities →
    c.model.library? e.library = some l → l.builtIn = false → l.id ∈ c.order
  user : ∀ {id}, id ∈ c.order → ∃ l, c.model.library? id = some l ∧ l.builtIn = false
  inScope : ∀ {id}, id ∈ c.order → id ∈ c.scope.libraries

theorem closed_context (cs : List Change) (roots : List EntityId) (options : GenerationOptions) :
    let m := run (cs ++ [.refresh])
    (({ model := m } : Generator).context options (Scope.build m roots none) false).Closed := by
  intro m
  have hm : m.Settled := settled_run cs
  refine ⟨hm, rfl, fun _ _ => rfl, ?_, ?_, ?_, fun hid => ((Scope.mem_order_iff hm.wellFormed).mp hid).1⟩
  · intro x y e hx hpath hy
    obtain ⟨-, r, hr, hlive, hroot⟩ := (Scope.mem_entities_build hm.wellFormed).mp hx
    exact (Scope.mem_entities_build hm.wellFormed).mpr
      ⟨⟨e, hy⟩, r, hr, hlive, Relation.ReflTransGen.trans hroot hpath⟩
  · -- an entity draws in its own library
    intro e l he hscope hl huser
    have hid := hm.wellFormed.library_id hl
    refine (Scope.mem_order_iff hm.wellFormed).mpr ⟨?_, l, hid ▸ hl, huser⟩
    exact (Scope.mem_libraries_build hm.wellFormed).mpr
      ⟨l, hid ▸ hl, e.id, e, (Scope.mem_entities_build hm.wellFormed).mp hscope, he,
        Or.inl hid.symm⟩
  · intro id hid
    obtain ⟨-, l, hl, huser⟩ := (Scope.mem_order_iff hm.wellFormed).mp hid
    exact ⟨l, hl, huser⟩

variable {c : GenerationContext}

theorem mem_emittedEntities (hm : c.model.WellFormed) {library : LibraryId} {e : NamedEntity} :
    e ∈ c.emittedEntities library ↔
      c.model.entity? e.id = some e ∧ e.library = library ∧ e.id ∈ c.scope.entities := by
  rw [emittedEntities, List.mem_filter, hm.mem_libraryEntities_iff, List.contains_iff_mem,
    and_assoc]

/-- An entity that an emitted one reaches is emitted too, or its library comes
with the program. -/
theorem Closed.emitted (hc : c.Closed) {library : LibraryId} {e o : NamedEntity}
    (he : e ∈ c.emittedEntities library) (hpath : c.model.Reaches e.id o.id)
    (ho : c.model.entity? o.id = some o) :
    ∃ l, c.model.owner? o.id = some l ∧ c.model.library? o.library = some l ∧ l.id = o.library ∧
      (l.builtIn = true ∨ l.id ∈ c.order ∧ o ∈ c.emittedEntities l.id) := by
  have hm := hc.settled.wellFormed
  obtain ⟨l, howner, hl⟩ := hm.owner?_eq ho
  have hid := hm.library_id hl
  have hscope := hc.reach ((mem_emittedEntities hm).mp he).2.2 hpath ho
  refine ⟨l, howner, hl, hid, ?_⟩
  cases hbuiltIn : l.builtIn with
  | true => exact Or.inl rfl
  | false =>
    exact Or.inr ⟨hc.owner ho hscope hl hbuiltIn, (mem_emittedEntities hm).mpr ⟨ho, hid.symm, hscope⟩⟩

/-! ## Namespaces -/

section

variable {id : EntityId} {l : Library} {viewer : LibraryId}

theorem libraryNamespace?_eq_none : c.libraryNamespace? l = none ↔ l.ns = none := by
  rw [libraryNamespace?, Option.map_eq_none_iff]

theorem libraryHosts_eq (h : l.ns = none) :
    c.libraryHosts l = (c.model.symbols.hostsOf l.id).map c.outputNamespace := by
  rw [libraryHosts, Library.isChameleon, h]
  rfl

theorem entityNamespace?_builtIn (hl : c.model.owner? id = some l) (hbuiltIn : l.builtIn = true)
    {ns : String} (hns : l.ns = some ns) {seenBy : Option LibraryId} :
    c.entityNamespace? id seenBy = some ns := by
  rw [entityNamespace?, hl, Option.bind_eq_bind, Option.bind_some, libraryNamespace?, hns,
    Option.map_some, if_pos hbuiltIn]
  rfl

/-- The namespace written for an entity without one of its library's own. -/
theorem entityNamespace?_eq (hl : c.model.owner? id = some l) (hns : l.ns = none) :
    c.entityNamespace? id (some viewer) =
      if (c.model.library? viewer).map Library.id = some l.id then none
      else
        ((((c.model.library? viewer).bind Library.ns).filter
          (c.model.symbols.hostsOf l.id).contains).or
            (c.model.symbols.hostsOf l.id).head?).map c.outputNamespace := by
  rw [entityNamespace?, hl, Option.bind_eq_bind, Option.bind_some,
    libraryNamespace?_eq_none.mpr hns]
  refine if_congr Iff.rfl rfl ?_
  rw [Option.map_eq_bind]
  rfl

/-- A written namespace is that of the library, or one of its hosts if it has
none. -/
theorem entityNamespace?_some (hl : c.model.owner? id = some l) {ns : String}
    (h : c.entityNamespace? id (some viewer) = some ns) :
    c.libraryNamespace? l = some ns ∨ l.ns = none ∧ ns ∈ c.libraryHosts l := by
  cases hns : l.ns with
  | some own =>
    left
    have hlibrary : c.libraryNamespace? l ≠ none := by
      rw [Ne, libraryNamespace?_eq_none, hns]
      exact Option.some_ne_none own
    obtain ⟨out, hout⟩ := Option.ne_none_iff_exists'.mp hlibrary
    rw [entityNamespace?, hl, Option.bind_eq_bind, Option.bind_some, hout] at h
    rw [hout]
    exact h
  | none =>
    right
    rw [entityNamespace?_eq hl hns] at h
    split at h
    · cases h
    · obtain ⟨host, hhost, rfl⟩ := Option.map_eq_some_iff.mp h
      refine ⟨rfl, ?_⟩
      rw [libraryHosts_eq hns]
      refine List.mem_map_of_mem ?_
      rcases Option.or_eq_some_iff.mp hhost with hseen | ⟨-, hfirst⟩
      · exact List.contains_iff_mem.mp (Option.filter_eq_some_iff.mp hseen).2
      · exact List.mem_of_head? hfirst

/-- An entity is written without a namespace in its own library, and elsewhere if
nothing hosts that. -/
theorem entityNamespace?_none (hm : c.model.WellFormed) (hl : c.model.owner? id = some l)
    (h : c.entityNamespace? id (some viewer) = none) :
    l.ns = none ∧ (viewer = l.id ∨ c.model.symbols.hostsOf l.id = []) := by
  have hns : l.ns = none := by
    by_contra hns
    obtain ⟨out, hout⟩ := Option.ne_none_iff_exists'.mp (mt libraryNamespace?_eq_none.mp hns)
    rw [entityNamespace?, hl, Option.bind_eq_bind, Option.bind_some, hout] at h
    cases h
  refine ⟨hns, ?_⟩
  rw [entityNamespace?_eq hl hns] at h
  split at h
  · next hsame =>
    obtain ⟨k, hk, hid⟩ := Option.map_eq_some_iff.mp hsame
    rw [← hid, hm.library_id hk]
    exact Or.inl rfl
  · right
    rw [Option.map_eq_none_iff, Option.or_eq_none_iff] at h
    exact List.head?_eq_none_iff.mp h.2

end

/-- Every user library has a file in the formats that are written by library. -/
theorem exists_libraryFile? (c : GenerationContext) {l : Library} (h : l.builtIn = false)
    {format : TargetFormat} (hformat : format = .xmlSchema ∨ format = .jsonSchema) :
    ∃ path, c.libraryFile? l format = some path := by
  rw [libraryFile?, h]
  rcases hformat with rfl | rfl
  · cases htemplate : c.options.template? .xmlSchema with
    | none => simp [htemplate]
    | some t => simp [htemplate]
  · cases htemplate : c.options.template? .jsonSchema with
    | none => simp [htemplate]
    | some t => simp [htemplate]

/-- The libraries in the order that have a file in a format, with that. -/
def libraryFiles (c : GenerationContext) (format : TargetFormat) : List (Library × String) :=
  c.order.flatMap fun id => (c.model.library? id).toList.flatMap fun l =>
    (c.libraryFile? l format).toList.map fun path => (l, path)

theorem mem_libraryFiles (hm : c.model.WellFormed) {format : TargetFormat} {l : Library}
    {path : String} :
    (l, path) ∈ c.libraryFiles format ↔ l.id ∈ c.order ∧ c.model.library? l.id = some l ∧
      c.libraryFile? l format = some path := by
  simp only [libraryFiles, List.mem_flatMap, List.mem_map, Option.mem_toList, Prod.mk.injEq]
  constructor
  · rintro ⟨id, hid, l', hl, path', hpath, rfl, rfl⟩
    have hlid := hm.library_id hl
    subst hlid
    exact ⟨hid, hl, hpath⟩
  · rintro ⟨hid, hl, hpath⟩
    exact ⟨l.id, hid, l, hl, path, hpath, rfl, rfl⟩

/-- A generation by library makes one document for each file. -/
theorem mapM_order_eq {β : Type} (hc : c.Closed) {format : TargetFormat}
    {f : Library → Except GenerationError (List β)} {g : Library × String → β}
    (h : ∀ l, f l = .ok ((c.libraryFile? l format).toList.map fun path => g (l, path)))
    {step : LibraryId → Except GenerationError (List β)}
    (hstep : ∀ id l, c.model.library? id = some l → step id = f l) :
    (do return (← c.order.mapM step).flatten) = Except.ok ((c.libraryFiles format).map g) := by
  rw [mapM_eq_ok (g := fun id => (c.model.library? id).toList.flatMap fun l =>
    (c.libraryFile? l format).toList.map fun path => g (l, path))]
  · show Except.ok _ = Except.ok _
    rw [libraryFiles, List.map_flatMap]
    simp only [List.map_flatMap, List.map_map]
    rfl
  · intro id hid
    obtain ⟨l, hl, -⟩ := hc.user hid
    rw [hstep id l hl, h, hl, Option.toList_some, List.flatMap_singleton]

/-! ## Type names -/

/-- A name of an entity stands for its declared type or for that of a fixed
facet. -/
theorem typeName?_cases {e : NamedEntity} (he : c.model.entity? e.id = some e) {name : String}
    {s : Symbol} (hs : (name, s) ∈ e.symbolNames) :
    c.typeName? s = some (c.declaredType e) ∨
      ∃ kind ∈ e.body.fixedFacetKinds, c.typeName? s = some (Naming.facetType e.name kind) := by
  rw [NamedEntity.symbolNames, List.mem_cons, List.mem_append, List.mem_map, List.mem_map] at hs
  rcases hs with hs | ⟨a, -, hs⟩ | ⟨kind, hkind, hs⟩
  · left
    rw [(Prod.mk.inj hs).2, typeName?, Symbol.owner, he]
    rfl
  · left
    rw [← (Prod.mk.inj hs).2, typeName?, Symbol.owner, he]
    rfl
  · right
    refine ⟨kind, hkind, ?_⟩
    rw [← (Prod.mk.inj hs).2, typeName?, Symbol.owner, he]
    rfl

/-- An entity of a kind that has no types. -/
def HasNoTypes (e : NamedEntity) : Prop :=
  e.kind = .resource ∨ e.kind = .service

instance (e : NamedEntity) : Decidable (HasNoTypes e) :=
  inferInstanceAs (Decidable (_ ∨ _))

end GenerationContext

/-! ## Hidden libraries -/

namespace Model

/-- No namespace shows a library: it has none of its own, and nothing hosts it. -/
def Hidden (m : Model) (l : Library) : Prop :=
  l.ns = none ∧ m.symbols.hostsOf l.id = []

/-- An object has or inherits a contextual facet. -/
def Adopts (m : Model) (y : NamedEntity) (z : EntityId) : Prop :=
  z ∈ m.symbols.facetsOf y.id ∨ ∃ g ∈ m.ghostFacets y.id, g.source = z

/-- An object of another library has or inherits a contextual facet that a hidden
library declares. -/
def AdoptedAbroad (m : Model) (l : Library) : Prop :=
  ∃ y z, m.entity? y.id = some y ∧ y.kind.isObject = true ∧ y.library ≠ l.id ∧
    m.entity? z.id = some z ∧ z.library = l.id ∧ m.Adopts y z.id

variable {m : Model}

theorem Hidden.effectiveNamespaces {l : Library} (h : m.Hidden l) {id : EntityId}
    (hl : m.owner? id = some l) : m.effectiveNamespaces m.symbols id = [] := by
  rw [Model.effectiveNamespaces, hl]
  dsimp only
  rw [h.1]
  exact h.2

/-- A hidden library is reached from outside in one way only: an object takes in
one of its contextual facets. -/
theorem adoptedAbroad_of_reaches (hm : m.Settled) {l : Library} (hidden : m.Hidden l)
    {id x : EntityId} {e o : NamedEntity} (hpath : m.Reaches id x) (he : m.entity? id = some e)
    (ho : m.entity? x = some o) (hl : m.library? o.library = some l) :
    e.library = l.id ∨ m.AdoptedAbroad l := by
  induction hpath generalizing o with
  | refl =>
    rw [he, Option.some.injEq] at ho
    rw [ho, hm.wellFormed.library_id hl]
    exact Or.inl rfl
  | @tail y x _ hstep ih =>
    have hlid := hm.wellFormed.library_id hl
    have hoid := hm.wellFormed.entity_id ho
    cases hy : m.entity? y with
    | none =>
      rw [dependencies_eq_nil hy] at hstep
      exact absurd hstep List.not_mem_nil
    | some b =>
      by_cases hinside : b.library = l.id
      · exact ih hy (by rw [hinside, hlid, hl])
      · -- the step goes into the library
        have hbid := hm.wellFormed.entity_id hy
        right
        rw [dependencies, hy] at hstep
        rcases List.mem_append.mp (List.mem_filter.mp hstep).1 with hnamed | hattached
        · -- a reference from outside would need a namespace
          obtain ⟨s, hs, hx⟩ := List.mem_flatMap.mp hnamed
          obtain ⟨r, hr, hs⟩ := List.mem_filterMap.mp hs
          obtain ⟨o', ho', ⟨name, hname⟩, hseen⟩ := hm.target hy hr hs
          have howner : x = s.owner := by
            cases s with
            | ghost owner source => cases not_isGhost_of_symbolNames hname
            | _ => exact List.mem_singleton.mp hx
          rw [← howner, ho, Option.some.injEq] at ho'
          subst ho'
          have hlibrary : m.owner? o.id = some l := by
            rw [owner?, hoid, ho]
            exact hl
          rcases hseen with hseen | hsame
          · exact absurd (hidden.effectiveNamespaces hlibrary) hseen
          · exact absurd (hsame.symm.trans hlid.symm) hinside
        · -- only objects have facets
          split at hattached
          · next hkind =>
            subst hbid hoid
            refine ⟨b, o, hy, hkind, hinside, ho, hlid.symm, ?_⟩
            rcases List.mem_append.mp hattached with hfacet | hghost
            · exact Or.inl hfacet
            · exact Or.inr (List.mem_map.mp hghost)
          · exact absurd hattached List.not_mem_nil

end Model

end TravelModel
