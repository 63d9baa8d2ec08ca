import TravelModel.Proofs.Search

/-!
# TravelModel — the scope of some roots

The scope of some roots without a global one holds exactly the entities that
the roots reach along dependencies, and the libraries these draw in: by
owning one of them, by owning what one of them extends, or by being hosted
where one of them is.

Main results:

* `mem_liveEntities_closure` — the entities of a closure are the reachable
  ones.
* `mem_entities_withRoots`, `mem_libraries_withRoots` — what putting back the
  roots does.
* `mem_entities_build`, `mem_libraries_build` — what is in scope.
* `build_congr` — order and repetition of the roots do not matter.
* `scope_is_reachable_part` — all of it for a refreshed model.
-/

namespace TravelModel

namespace Model

/-! ## What roots reach and draw in -/

/-- An entity that is there and that one of some roots, which is there too,
reaches along dependencies. -/
def Reachable (m : Model) (roots : List EntityId) (id : EntityId) : Prop :=
  (∃ e, m.entity? id = some e) ∧ ∃ r ∈ roots, (∃ e, m.entity? r = some e) ∧ m.Reaches r id

/-- An entity draws in its own library, the library of what it extends as an
extension point, and each library that the namespace of its own one hosts. -/
def Draws (m : Model) (e : NamedEntity) (l : Library) : Prop :=
  e.library = l.id ∨
  (∃ f x y, e.body = .extensionPointFacet f ∧ f.extended.entity? = some x ∧
    m.entity? x = some y ∧ y.library = l.id) ∨
  (l.isChameleon = true ∧ ∃ k ns, m.library? e.library = some k ∧ k.ns = some ns ∧
    ns ∈ m.symbols.hostsOf l.id)

/-- A root that reaches something else is there. -/
theorem Reaches.live {m : Model} {r id : EntityId} (h : m.Reaches r id)
    (hid : ∃ e, m.entity? id = some e) : ∃ e, m.entity? r = some e := by
  rcases Relation.ReflTransGen.cases_head h with rfl | ⟨x, hstep, -⟩
  · -- it reaches itself only
    exact hid
  · cases hr : m.entity? r with
    | some e => exact ⟨e, rfl⟩
    | none =>
      rw [dependencies_eq_nil hr] at hstep
      exact absurd hstep List.not_mem_nil

/-- A closure holds the reachable entities, and roots that are not there. -/
theorem reachable_iff {m : Model} {roots : List EntityId} {id : EntityId} :
    m.Reachable roots id ↔ (∃ e, m.entity? id = some e) ∧ id ∈ m.closure roots := by
  rw [mem_closure_iff]
  constructor
  · rintro ⟨hid, r, hr, -, hpath⟩
    exact ⟨hid, r, hr, hpath⟩
  · rintro ⟨hid, r, hr, hpath⟩
    exact ⟨hid, r, hr, hpath.live hid, hpath⟩

theorem reachable_append {m : Model} {a b : List EntityId} {id : EntityId} :
    m.Reachable (a ++ b) id ↔ m.Reachable a id ∨ m.Reachable b id := by
  constructor
  · rintro ⟨hid, r, hr, h⟩
    rcases List.mem_append.mp hr with hr | hr
    · exact Or.inl ⟨hid, r, hr, h⟩
    · exact Or.inr ⟨hid, r, hr, h⟩
  · rintro (⟨hid, r, hr, h⟩ | ⟨hid, r, hr, h⟩)
    · exact ⟨hid, r, List.mem_append_left _ hr, h⟩
    · exact ⟨hid, r, List.mem_append_right _ hr, h⟩

end Model

/-! ## What is in scope -/

namespace Scope

open Model

theorem mem_liveEntities {m : Model} (hm : m.WellFormed) {ids : List EntityId} {e : NamedEntity} :
    e ∈ liveEntities m ids ↔ m.entity? e.id = some e ∧ e.id ∈ ids := by
  rw [liveEntities, List.mem_filter, List.contains_iff_mem]
  refine and_congr_left fun _ => ⟨hm.entity?_of_mem, fun h => mem_entities.mpr ⟨e.id, h⟩⟩

/-- The entities of a closure are the reachable ones. -/
theorem mem_liveEntities_closure {m : Model} (hm : m.WellFormed) {roots : List EntityId}
    {e : NamedEntity} :
    e ∈ liveEntities m (m.closure roots) ↔ m.Reachable roots e.id ∧ m.entity? e.id = some e := by
  rw [mem_liveEntities hm, reachable_iff]
  constructor
  · rintro ⟨he, hclosure⟩
    exact ⟨⟨⟨e, he⟩, hclosure⟩, he⟩
  · rintro ⟨⟨-, hclosure⟩, he⟩
    exact ⟨he, hclosure⟩

theorem extendedLibrary?_eq_some {m : Model} {e : NamedEntity} {id : LibraryId} :
    extendedLibrary? m e = some id ↔
      ∃ f x y, e.body = .extensionPointFacet f ∧ f.extended.entity? = some x ∧
        m.entity? x = some y ∧ y.library = id := by
  rw [extendedLibrary?]
  constructor
  · intro h
    split at h
    · next f hbody =>
      obtain ⟨y, hy, rfl⟩ := Option.map_eq_some_iff.mp h
      obtain ⟨x, hx, hy⟩ := Option.bind_eq_some_iff.mp hy
      exact ⟨f, x, y, hbody, hx, hy, rfl⟩
    · cases h
  · rintro ⟨f, x, y, hbody, hx, hy, rfl⟩
    rw [hbody]
    dsimp only
    rw [hx, Option.bind_some, hy]
    rfl

/-- A library is hosted where one of some entities is. -/
theorem isHostedBy_iff {m : Model} {es : List NamedEntity} {chameleon : Library} :
    isHostedBy m (es.map NamedEntity.library) chameleon = true ↔
      ∃ e ∈ es, ∃ k ns, m.library? e.library = some k ∧ k.ns = some ns ∧
        ns ∈ m.symbols.hostsOf chameleon.id := by
  rw [isHostedBy, List.any_map, List.any_eq_true]
  refine exists_congr fun e => and_congr_right fun _ => ?_
  rw [Function.comp_apply, Option.any_eq_true]
  constructor
  · rintro ⟨ns, hns, hhost⟩
    obtain ⟨k, hk, hns⟩ := Option.bind_eq_some_iff.mp hns
    exact ⟨k, ns, hk, hns, List.contains_iff_mem.mp hhost⟩
  · rintro ⟨k, ns, hk, hns, hhost⟩
    exact ⟨ns, Option.bind_eq_some_iff.mpr ⟨k, hk, hns⟩, List.contains_iff_mem.mpr hhost⟩

theorem mem_entities_needed {m : Model} (hm : m.WellFormed) {roots : List EntityId}
    {id : EntityId} : id ∈ (needed m roots).entities ↔ m.Reachable roots id := by
  show id ∈ (liveEntities m (m.closure roots)).map NamedEntity.id ↔ _
  rw [List.mem_map]
  constructor
  · rintro ⟨e, he, rfl⟩
    exact ((mem_liveEntities_closure hm).mp he).1
  · intro h
    obtain ⟨e, he⟩ := h.1
    have hid := hm.entity_id he
    refine ⟨e, (mem_liveEntities_closure hm).mpr ⟨?_, ?_⟩, hid⟩
    · rw [hid]
      exact h
    · rw [hid]
      exact he

/-- For a library of the model the tests of the scope say whether one of some
entities draws it in. -/
theorem isDrawn_iff {m : Model} {es : List NamedEntity} {l : Library} (hl : l ∈ m.libraries) :
    ((es.map NamedEntity.library).contains l.id ||
      (m.libraries.filter fun l =>
        (es.filterMap (extendedLibrary? m)).contains l.id ||
          (l.isChameleon && isHostedBy m (es.map NamedEntity.library) l &&
            !(es.map NamedEntity.library).contains l.id)).contains l) = true ↔
      ∃ e ∈ es, m.Draws e l := by
  have howns : (es.map NamedEntity.library).contains l.id = true ↔
      ∃ e ∈ es, e.library = l.id := by
    rw [List.contains_iff_mem, List.mem_map]
  have hextends : (es.filterMap (extendedLibrary? m)).contains l.id = true ↔
      ∃ e ∈ es, ∃ f x y, e.body = .extensionPointFacet f ∧ f.extended.entity? = some x ∧
        m.entity? x = some y ∧ y.library = l.id := by
    rw [List.contains_iff_mem, List.mem_filterMap]
    exact exists_congr fun e => and_congr_right fun _ => extendedLibrary?_eq_some
  rw [Bool.or_eq_true, howns, List.contains_iff_mem, List.mem_filter, Bool.or_eq_true, hextends,
    Bool.and_eq_true, Bool.and_eq_true, isHostedBy_iff]
  constructor
  · rintro (⟨e, he, h⟩ | ⟨-, ⟨e, he, h⟩ | ⟨⟨hns, e, he, h⟩, -⟩⟩)
    · exact ⟨e, he, Or.inl h⟩
    · exact ⟨e, he, Or.inr (Or.inl h)⟩
    · exact ⟨e, he, Or.inr (Or.inr ⟨hns, h⟩)⟩
  · rintro ⟨e, he, h | h | ⟨hns, h⟩⟩
    · exact Or.inl ⟨e, he, h⟩
    · exact Or.inr ⟨hl, Or.inl ⟨e, he, h⟩⟩
    · -- a hosted library that owns one of the entities is there already
      by_cases hown : (es.map NamedEntity.library).contains l.id = true
      · exact Or.inl (howns.mp hown)
      · refine Or.inr ⟨hl, Or.inr ⟨⟨hns, e, he, h⟩, ?_⟩⟩
        rw [Bool.not_eq_true', Bool.eq_false_iff]
        exact hown

/-- The libraries that some roots need are those that reachable entities draw
in. -/
theorem mem_libraries_needed {m : Model} (hm : m.WellFormed) {roots : List EntityId}
    {id : LibraryId} :
    id ∈ (needed m roots).libraries ↔
      ∃ l, m.library? id = some l ∧
        ∃ x e, m.Reachable roots x ∧ m.entity? x = some e ∧ m.Draws e l := by
  have hdrawn : ∀ l, (∃ x e, m.Reachable roots x ∧ m.entity? x = some e ∧ m.Draws e l) ↔
      ∃ e ∈ liveEntities m (m.closure roots), m.Draws e l := by
    intro l
    constructor
    · rintro ⟨x, e, hreach, he, hdraws⟩
      rw [← hm.entity_id he] at hreach he
      exact ⟨e, (mem_liveEntities_closure hm).mpr ⟨hreach, he⟩, hdraws⟩
    · rintro ⟨e, he, hdraws⟩
      obtain ⟨hreach, he⟩ := (mem_liveEntities_closure hm).mp he
      exact ⟨e.id, e, hreach, he, hdraws⟩
  simp only [hdrawn]
  rw [needed]
  dsimp only
  rw [List.mem_map]
  constructor
  · rintro ⟨l, hl, rfl⟩
    obtain ⟨hmem, htest⟩ := List.mem_filter.mp hl
    exact ⟨l, hm.library?_of_mem hmem, (isDrawn_iff hmem).mp htest⟩
  · rintro ⟨l, hl, hdraws⟩
    have hmem : l ∈ m.libraries := mem_libraries.mpr ⟨id, hl⟩
    exact ⟨l, List.mem_filter.mpr ⟨hmem, (isDrawn_iff hmem).mpr hdraws⟩, hm.library_id hl⟩

/-! ## Roots that are put back -/

theorem mem_entities_withRoots {m : Model} (hm : m.WellFormed) (roots : List EntityId)
    (s : Scope) {id : EntityId} :
    id ∈ (withRoots m roots s).entities ↔
      (∃ e, m.entity? id = some e) ∧ (id ∈ roots ∨ id ∈ s.entities) := by
  rw [withRoots, List.mem_map]
  constructor
  · rintro ⟨e, he, rfl⟩
    rw [List.mem_filter, Bool.or_eq_true, List.contains_iff_mem, List.contains_iff_mem] at he
    have hlive := hm.entity?_of_mem he.1
    refine ⟨⟨e, hlive⟩, ?_⟩
    rcases he.2 with hmem | hroot
    · exact Or.inr hmem
    · exact Or.inl ((mem_liveEntities hm).mp hroot).2
  · rintro ⟨⟨e, he⟩, hmem⟩
    have hid : e.id = id := hm.entity_id he
    refine ⟨e, List.mem_filter.mpr ⟨mem_entities.mpr ⟨id, he⟩, ?_⟩, hid⟩
    rw [Bool.or_eq_true, List.contains_iff_mem, List.contains_iff_mem, mem_liveEntities hm, hid]
    rcases hmem with hroot | hmem
    · exact Or.inr ⟨he, hroot⟩
    · exact Or.inl hmem

theorem mem_libraries_withRoots {m : Model} (hm : m.WellFormed) (roots : List EntityId)
    (s : Scope) {id : LibraryId} :
    id ∈ (withRoots m roots s).libraries ↔
      (∃ r ∈ roots, ∃ e, m.entity? r = some e ∧ e.library = id) ∨
        (∃ l, m.library? id = some l) ∧ id ∈ s.libraries := by
  rw [withRoots, List.mem_map]
  constructor
  · rintro ⟨l, hl, rfl⟩
    rw [List.mem_filter, Bool.or_eq_true, List.contains_iff_mem, List.any_eq_true] at hl
    rcases hl.2 with hmem | ⟨e, he, hlibrary⟩
    · exact Or.inr ⟨⟨l, hm.library?_of_mem hl.1⟩, hmem⟩
    · obtain ⟨hlive, hroot⟩ := (mem_liveEntities hm).mp he
      exact Or.inl ⟨e.id, hroot, e, hlive, of_decide_eq_true hlibrary⟩
  · rintro (⟨r, hr, e, he, rfl⟩ | ⟨⟨l, hl⟩, hmem⟩)
    · -- the library of a root is there, since the root is
      obtain ⟨l, hl, -⟩ := hm.listed he
      have hroot : e ∈ liveEntities m roots := by
        rw [mem_liveEntities hm, hm.entity_id he]
        exact ⟨he, hr⟩
      refine ⟨l, List.mem_filter.mpr ⟨mem_libraries.mpr ⟨_, hl⟩, ?_⟩, hm.library_id hl⟩
      rw [Bool.or_eq_true, List.any_eq_true, hm.library_id hl]
      exact Or.inr ⟨e, hroot, decide_eq_true rfl⟩
    · refine ⟨l, List.mem_filter.mpr ⟨mem_libraries.mpr ⟨id, hl⟩, ?_⟩, hm.library_id hl⟩
      rw [Bool.or_eq_true, List.contains_iff_mem, hm.library_id hl]
      exact Or.inl hmem

/-! ## The built scope -/

/-- Without a global scope the roots are in scope already. -/
theorem mem_entities_build {m : Model} (hm : m.WellFormed) {roots : List EntityId}
    {id : EntityId} : id ∈ (build m roots none).entities ↔ m.Reachable roots id := by
  have hbuilt : id ∈ (build m roots none).entities ↔
      (∃ e, m.entity? id = some e) ∧ (id ∈ roots ∨ id ∈ (needed m roots).entities) :=
    mem_entities_withRoots hm roots _
  rw [hbuilt, mem_entities_needed hm]
  constructor
  · rintro ⟨hlive, hroot | hreach⟩
    · -- a root reaches itself
      exact ⟨hlive, id, hroot, hlive, .refl⟩
    · exact hreach
  · intro hreach
    exact ⟨hreach.1, Or.inr hreach⟩

theorem mem_libraries_build {m : Model} (hm : m.WellFormed) {roots : List EntityId}
    {id : LibraryId} :
    id ∈ (build m roots none).libraries ↔
      ∃ l, m.library? id = some l ∧
        ∃ x e, m.Reachable roots x ∧ m.entity? x = some e ∧ m.Draws e l := by
  have hbuilt : id ∈ (build m roots none).libraries ↔
      (∃ r ∈ roots, ∃ e, m.entity? r = some e ∧ e.library = id) ∨
        (∃ l, m.library? id = some l) ∧ id ∈ (needed m roots).libraries :=
    mem_libraries_withRoots hm roots _
  rw [hbuilt, mem_libraries_needed hm]
  constructor
  · rintro (⟨r, hr, e, he, rfl⟩ | ⟨-, hdrawn⟩)
    · -- the library of a root owns what the root reaches first, itself
      obtain ⟨l, hl, -⟩ := hm.listed he
      exact ⟨l, hl, r, e, ⟨⟨e, he⟩, r, hr, ⟨e, he⟩, .refl⟩, he, Or.inl (hm.library_id hl).symm⟩
    · exact hdrawn
  · rintro ⟨l, hl, hdrawn⟩
    exact Or.inr ⟨⟨l, hl⟩, l, hl, hdrawn⟩

theorem liveEntities_congr (m : Model) {a b : List EntityId} (h : ∀ id, id ∈ a ↔ id ∈ b) :
    liveEntities m a = liveEntities m b := by
  refine List.filter_congr fun e _ => ?_
  rw [Bool.eq_iff_iff, List.contains_iff_mem, List.contains_iff_mem, h]

/-- Order and repetition of the roots do not matter. -/
theorem build_congr (m : Model) {a b : List EntityId} (h : ∀ id, id ∈ a ↔ id ∈ b)
    (global : Option Scope) : build m a global = build m b global := by
  have hclosure : ∀ id, id ∈ m.closure a ↔ id ∈ m.closure b := by
    intro id
    simp only [mem_closure_iff, h]
  have hneeded : needed m a = needed m b := by
    rw [needed, needed, liveEntities_congr m hclosure]
  have hroots : withRoots m a = withRoots m b := by
    funext s
    rw [withRoots, withRoots, liveEntities_congr m h]
  unfold build
  rw [hneeded, hroots]

/-- After a refresh the scope of some roots without a global one is the
reachable part of the model: the entities that the roots reach and the
libraries these draw in. Order and repetition of the roots do not matter, and
the scope of several lists of roots is what their scopes hold together. -/
theorem scope_is_reachable_part (cs : List Change) (roots : List EntityId) :
    let m := run (cs ++ [.refresh])
    let s := build m roots none
    (∀ id, id ∈ s.entities ↔ m.Reachable roots id) ∧
    (∀ id, id ∈ s.libraries ↔ ∃ l, m.library? id = some l ∧
      ∃ x e, m.Reachable roots x ∧ m.entity? x = some e ∧ m.Draws e l) ∧
    (∀ roots', (∀ id, id ∈ roots' ↔ id ∈ roots) → build m roots' none = s) ∧
    (∀ roots',
      (∀ id, id ∈ (build m (roots ++ roots') none).entities ↔
        id ∈ s.entities ∨ id ∈ (build m roots' none).entities) ∧
      (∀ id, id ∈ (build m (roots ++ roots') none).libraries ↔
        id ∈ s.libraries ∨ id ∈ (build m roots' none).libraries)) := by
  intro m s
  have hm : m.WellFormed := wellFormed_run _
  refine ⟨fun id => mem_entities_build hm, fun id => mem_libraries_build hm,
    fun roots' h => build_congr m h none, fun roots' => ⟨fun id => ?_, fun id => ?_⟩⟩
  · rw [mem_entities_build hm, mem_entities_build hm, mem_entities_build hm, reachable_append]
  · rw [mem_libraries_build hm, mem_libraries_build hm, mem_libraries_build hm]
    simp only [reachable_append, or_and_right, and_or_left, exists_or]

/-- In the sample the derived object reaches the facet it inherits, and the two
hosted libraries are drawn in by where it is. -/
theorem sampleRun_scope :
    let m := run (sampleRun ++ [.refresh])
    m.Reachable [⟨3⟩] ⟨2⟩ ∧
      (∃ l, m.library? ⟨2⟩ = some l ∧
        ∃ x e, m.Reachable [⟨3⟩] x ∧ m.entity? x = some e ∧ m.Draws e l) ∧
      build m [⟨3⟩, ⟨3⟩] none = build m [⟨3⟩] none ∧
      ⟨5⟩ ∈ (build m ([⟨3⟩] ++ [⟨0⟩]) none).entities := by
  intro m
  obtain ⟨hentities, hlibraries, hsame, hunion⟩ := scope_is_reachable_part sampleRun [⟨3⟩]
  refine ⟨(hentities ⟨2⟩).mp (by decide +kernel), (hlibraries ⟨2⟩).mp (by decide +kernel),
    hsame [⟨3⟩, ⟨3⟩] (by simp), ?_⟩
  exact ((hunion [⟨0⟩]).1 ⟨5⟩).mpr (Or.inr (by decide +kernel))

end Scope

end TravelModel
