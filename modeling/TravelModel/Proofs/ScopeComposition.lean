import TravelModel.Proofs.RootScope

/-!
# TravelModel — scopes made of other scopes

Scopes are intersected, and one scope limits the scope of some roots. The three
parts of a scope are intersected each on its own, and the roots are put back
afterwards, so nothing in the code says that the parts still fit each other.
They do, however the scope was made.

Main results:

* `Coherent.and`, `Coherent.limited` — one step of making a scope keeps its
  parts together.
* `Obtainable.coherent` — so does every way to make one.
* `obtainable_scopes_coherent` — this for a refreshed model, with what a
  limited scope holds.
-/

namespace TravelModel.Scope

open Model

/-! ## Scopes whose parts fit -/

/-- The parts of a scope fit each other and the model: what it holds is there,
the library of each entity is in scope, and so is each extended library. -/
structure Coherent (m : Model) (s : Scope) : Prop where
  live : ∀ id ∈ s.entities, ∃ e, m.entity? id = some e
  known : ∀ id ∈ s.libraries, ∃ l, m.library? id = some l
  owning : ∀ id ∈ s.entities, ∀ e, m.entity? id = some e → e.library ∈ s.libraries
  extending : ∀ id ∈ s.extended, id ∈ s.libraries

/-- The scopes that can be made for a model: the empty one, that of the whole
model, what two scopes have in common, and the scope of some roots, limited to
another one or not. -/
inductive Obtainable (m : Model) : Scope → Prop
  | empty : Obtainable m {}
  | everything : Obtainable m (everything m)
  | and {a b : Scope} (ha : Obtainable m a) (hb : Obtainable m b) : Obtainable m (a.and b)
  | unlimited (roots : List EntityId) : Obtainable m (build m roots none)
  | limited (roots : List EntityId) {g : Scope} (hg : Obtainable m g) :
    Obtainable m (build m roots (some g))

/-! ## What is in both scopes -/

theorem mem_entities_and {a b : Scope} {id : EntityId} :
    id ∈ (a.and b).entities ↔ id ∈ a.entities ∧ id ∈ b.entities := by
  rw [Scope.and, List.mem_filter, List.contains_iff_mem]

theorem mem_libraries_and {a b : Scope} {id : LibraryId} :
    id ∈ (a.and b).libraries ↔ id ∈ a.libraries ∧ id ∈ b.libraries := by
  rw [Scope.and, List.mem_filter, List.contains_iff_mem]

theorem mem_extended_and {a b : Scope} {id : LibraryId} :
    id ∈ (a.and b).extended ↔ id ∈ a.extended ∧ id ∈ b.extended := by
  rw [Scope.and, List.mem_filter, List.contains_iff_mem]

/-! ## One step -/

section

variable {m : Model}

theorem coherent_empty : Coherent m {} :=
  ⟨fun _ h => absurd h List.not_mem_nil, fun _ h => absurd h List.not_mem_nil,
    fun _ h => absurd h List.not_mem_nil, fun _ h => absurd h List.not_mem_nil⟩

/-- What two scopes with fitting parts have in common has fitting parts. -/
theorem Coherent.and {a b : Scope} (ha : Coherent m a) (hb : Coherent m b) :
    Coherent m (a.and b) := by
  refine ⟨?_, ?_, ?_, ?_⟩
  · intro id hid
    exact ha.live id (mem_entities_and.mp hid).1
  · intro id hid
    exact ha.known id (mem_libraries_and.mp hid).1
  · intro id hid e he
    obtain ⟨hida, hidb⟩ := mem_entities_and.mp hid
    exact mem_libraries_and.mpr ⟨ha.owning id hida e he, hb.owning id hidb e he⟩
  · intro id hid
    obtain ⟨hida, hidb⟩ := mem_extended_and.mp hid
    exact mem_libraries_and.mpr ⟨ha.extending id hida, hb.extending id hidb⟩

variable (hm : m.WellFormed) (roots : List EntityId) {s : Scope}

include hm

theorem coherent_everything : Coherent m (everything m) := by
  have hlibrary : ∀ {id l}, m.library? id = some l → id ∈ (everything m).libraries := by
    intro id l hl
    exact List.mem_map.mpr ⟨l, mem_libraries.mpr ⟨id, hl⟩, hm.library_id hl⟩
  refine ⟨?_, ?_, ?_, fun _ h => absurd h List.not_mem_nil⟩
  · intro id hid
    obtain ⟨e, he, rfl⟩ := List.mem_map.mp hid
    exact ⟨e, hm.entity?_of_mem he⟩
  · intro id hid
    obtain ⟨l, hl, rfl⟩ := List.mem_map.mp hid
    exact ⟨l, hm.library?_of_mem hl⟩
  · intro id _ e he
    obtain ⟨l, hl, -⟩ := hm.listed he
    exact hlibrary hl

/-- All that some roots need has fitting parts. -/
theorem coherent_needed : Coherent m (needed m roots) := by
  refine ⟨?_, ?_, ?_, ?_⟩
  · intro id hid
    exact ((mem_entities_needed hm).mp hid).1
  · intro id hid
    obtain ⟨l, hl, -⟩ := (mem_libraries_needed hm).mp hid
    exact ⟨l, hl⟩
  · intro id hid e he
    -- an entity draws in its own library
    obtain ⟨l, hl, -⟩ := hm.listed he
    have hreach := (mem_entities_needed hm).mp hid
    exact (mem_libraries_needed hm).mpr
      ⟨l, hl, id, e, hreach, he, Or.inl (hm.library_id hl).symm⟩
  · intro id hid
    obtain ⟨l, hl, rfl⟩ := List.mem_map.mp hid
    refine List.mem_map.mpr ⟨l, List.mem_filter.mpr ⟨(List.mem_filter.mp hl).1, ?_⟩, rfl⟩
    rw [Bool.or_eq_true]
    exact Or.inr (List.contains_iff_mem.mpr hl)

/-- Putting back the roots keeps the parts together: each root comes with its
library. -/
theorem Coherent.withRoots (hs : Coherent m s) : Coherent m (withRoots m roots s) := by
  refine ⟨?_, ?_, ?_, ?_⟩
  · intro id hid
    exact ((mem_entities_withRoots hm roots s).mp hid).1
  · intro id hid
    rcases (mem_libraries_withRoots hm roots s).mp hid with ⟨r, -, e, he, rfl⟩ | ⟨hl, -⟩
    · obtain ⟨l, hl, -⟩ := hm.listed he
      exact ⟨l, hl⟩
    · exact hl
  · intro id hid e he
    rw [mem_libraries_withRoots hm]
    rcases ((mem_entities_withRoots hm roots s).mp hid).2 with hroot | hmem
    · exact Or.inl ⟨id, hroot, e, he, rfl⟩
    · have howner := hs.owning id hmem e he
      exact Or.inr ⟨hs.known _ howner, howner⟩
  · -- the extended libraries are those of the scope that was limited
    intro id hid
    have hmem : id ∈ s.libraries := hs.extending id hid
    exact (mem_libraries_withRoots hm roots s).mpr (Or.inr ⟨hs.known id hmem, hmem⟩)

theorem coherent_unlimited : Coherent m (build m roots none) :=
  (coherent_needed hm roots).withRoots hm roots

theorem Coherent.limited {g : Scope} (hg : Coherent m g) :
    Coherent m (build m roots (some g)) :=
  ((coherent_needed hm roots).and hg).withRoots hm roots

/-- However a scope is made, its parts fit. -/
theorem Obtainable.coherent (h : Obtainable m s) : Coherent m s := by
  -- by how it was made: each way to make a scope of others keeps their parts together
  induction h with
  | empty => exact coherent_empty
  | everything => exact coherent_everything hm
  | and _ _ iha ihb => exact iha.and ihb
  | unlimited roots => exact coherent_unlimited hm roots
  | limited roots _ ih => exact ih.limited hm roots

/-! ## What a limited scope holds -/

/-- A limited scope holds the roots that are there, and of all that they need
what the other scope holds. -/
theorem mem_entities_limited {g : Scope} {id : EntityId} :
    id ∈ (build m roots (some g)).entities ↔
      (id ∈ roots ∧ ∃ e, m.entity? id = some e) ∨
        id ∈ (build m roots none).entities ∧ id ∈ g.entities := by
  have hlimited : id ∈ (build m roots (some g)).entities ↔
      (∃ e, m.entity? id = some e) ∧ (id ∈ roots ∨ id ∈ ((needed m roots).and g).entities) :=
    mem_entities_withRoots hm roots _
  rw [hlimited, mem_entities_and, mem_entities_needed hm, mem_entities_build hm]
  constructor
  · rintro ⟨hlive, hroot | hboth⟩
    · exact Or.inl ⟨hroot, hlive⟩
    · exact Or.inr hboth
  · rintro (⟨hroot, hlive⟩ | hboth)
    · exact ⟨hlive, Or.inl hroot⟩
    · exact ⟨hboth.1.1, Or.inr hboth⟩

theorem mem_libraries_limited {g : Scope} {id : LibraryId} :
    id ∈ (build m roots (some g)).libraries ↔
      (∃ r ∈ roots, ∃ e, m.entity? r = some e ∧ e.library = id) ∨
        id ∈ (build m roots none).libraries ∧ id ∈ g.libraries := by
  have hlimited : id ∈ (build m roots (some g)).libraries ↔
      (∃ r ∈ roots, ∃ e, m.entity? r = some e ∧ e.library = id) ∨
        (∃ l, m.library? id = some l) ∧ id ∈ ((needed m roots).and g).libraries :=
    mem_libraries_withRoots hm roots _
  have hneeded : id ∈ (build m roots none).libraries ↔ id ∈ (needed m roots).libraries := by
    rw [mem_libraries_build hm, mem_libraries_needed hm]
  rw [hlimited, mem_libraries_and, hneeded]
  refine or_congr_right ⟨fun h => h.2, fun h => ⟨?_, h⟩⟩
  exact (coherent_needed hm roots).known id h.1

end

/-- Every scope that can be made for a refreshed model holds entities that are
there, with each of them its library, and the libraries it lists as extended.
The scope of some roots that is limited to another one holds an entity if it is
a root that is there or is held by both, and a library if it owns such a root or
is held by both. -/
theorem obtainable_scopes_coherent (cs : List Change) :
    let m := run (cs ++ [.refresh])
    (∀ s, Obtainable m s →
      (∀ id ∈ s.entities, ∃ e, m.entity? id = some e ∧ e.library ∈ s.libraries) ∧
      (∀ id ∈ s.libraries, ∃ l, m.library? id = some l) ∧
      ∀ id ∈ s.extended, id ∈ s.libraries) ∧
    ∀ (roots : List EntityId) (g : Scope),
      (∀ id, id ∈ (build m roots (some g)).entities ↔
        (id ∈ roots ∧ ∃ e, m.entity? id = some e) ∨
          id ∈ (build m roots none).entities ∧ id ∈ g.entities) ∧
      (∀ id, id ∈ (build m roots (some g)).libraries ↔
        (∃ r ∈ roots, ∃ e, m.entity? r = some e ∧ e.library = id) ∨
          id ∈ (build m roots none).libraries ∧ id ∈ g.libraries) := by
  intro m
  have hm : m.WellFormed := wellFormed_run _
  refine ⟨fun s hs => ?_, fun roots g => ⟨fun id => ?_, fun id => ?_⟩⟩
  · have hcoherent := hs.coherent hm
    refine ⟨fun id hid => ?_, hcoherent.known, hcoherent.extending⟩
    obtain ⟨e, he⟩ := hcoherent.live id hid
    exact ⟨e, he, hcoherent.owning id hid e he⟩
  · exact mem_entities_limited hm roots
  · exact mem_libraries_limited hm roots

/-- In the sample the derived object stays in a scope that is limited to what a
type needs, but what it inherits does not; the hosted libraries stay, since both
draw them in. -/
theorem sampleRun_limited :
    let m := run (sampleRun ++ [.refresh])
    let g := (everything m).and (build m [⟨0⟩] none)
    let s := build m [⟨3⟩] (some g)
    (∃ e, m.entity? ⟨3⟩ = some e ∧ e.library ∈ s.libraries) ∧
      ⟨3⟩ ∈ s.entities ∧ ⟨2⟩ ∉ s.entities ∧ ⟨2⟩ ∈ s.libraries := by
  intro m g s
  obtain ⟨hcoherent, hlimited⟩ := obtainable_scopes_coherent sampleRun
  obtain ⟨hentities, hlibraries⟩ := hlimited [⟨3⟩] g
  have hmade : Obtainable m s := .limited _ (.and .everything (.unlimited _))
  have hthere : ∃ e, m.entity? ⟨3⟩ = some e := Option.isSome_iff_exists.mp (by decide +kernel)
  have hroot : ⟨3⟩ ∈ s.entities :=
    (hentities ⟨3⟩).mpr (Or.inl ⟨List.mem_singleton_self _, hthere⟩)
  refine ⟨(hcoherent s hmade).1 ⟨3⟩ hroot, hroot, fun hmem => ?_, ?_⟩
  · rcases (hentities ⟨2⟩).mp hmem with ⟨h, -⟩ | ⟨-, h⟩
    · exact absurd h (by decide)
    · exact absurd h (by decide +kernel)
  · exact (hlibraries ⟨2⟩).mpr (Or.inr (by decide +kernel))

end TravelModel.Scope
