import TravelModel.Proofs.ClosedScope
import TravelModel.Proofs.Collisions
import TravelModel.Proofs.EmissionOrder
import TravelModel.Proofs.Faithful
import TravelModel.Proofs.Refresh

/-!
# TravelModel — names in a model without errors

An error is reported where two native symbols have one name in a namespace, and where
symbols of hosted libraries collide and one of them is an entity. So in a model
without errors two symbols with one name are the same, or a hosted library is in play
and nothing was reported.

Main results:

* `lookup_of_enterNative_nil` — if no native name is reported, each stands for its
  symbol.
* `clean_refresh` — a refresh without errors leaves a clean model.
* `Clean.eq_or_silent` — two symbols that have one name in a clean model.
* `orderly_context` — a generation from a clean model has each library and each
  entity once.
-/

namespace TravelModel

namespace Model

/-- No error is reported on the names of a model. -/
def Clean (m : Model) : Prop :=
  m.buildSymbols.2.hasErrors = false

instance (m : Model) : Decidable m.Clean :=
  inferInstanceAs (Decidable (_ = _))

theorem hasErrors_eq_false {fs : Findings} :
    fs.hasErrors = false ↔ ∀ f ∈ fs, f.severity ≠ .error := by
  rw [Findings.hasErrors, List.any_eq_false]
  simp

/-- The names that a refreshed model declares are those that were declared before. -/
theorem clean_refresh {m : Model} (hm : m.WellFormed) (h : m.refresh.2.hasErrors = false) :
    m.refresh.1.Clean := by
  rw [findings_refresh, hasErrors_eq_false] at h
  rw [Clean, ← (sameDeclarations_refresh hm).buildSymbols, hasErrors_eq_false]
  intro f hf
  exact h f (List.mem_append_left _ (List.mem_append_left _ hf))

theorem clean_run {cs : List Change} (h : (run cs).refresh.2.hasErrors = false) :
    (run (cs ++ [.refresh])).Clean := by
  have hrun : run (cs ++ [.refresh]) = (run cs).refresh.1 := run_append cs [.refresh]
  rw [hrun]
  exact clean_refresh (wellFormed_run cs) h

/-- After a refresh the table has the hosts of the model. -/
theorem hosts_run (cs : List Change) :
    (run (cs ++ [.refresh])).symbols.hosts = (run (cs ++ [.refresh])).chameleonHosts := by
  have hrun : run (cs ++ [.refresh]) = (run cs).refresh.1 := run_append cs [.refresh]
  rw [hrun, hosts_refresh]
  exact (built_refresh (wellFormed_run cs)).hosts

/-! ## Native names -/

/-- If no name is reported, each stands for its symbol. -/
theorem lookup_of_enterNative_nil {names : List (String × String × String × Symbol)}
    {t : SymbolTable} (h : (enterNative names t).2 = []) {source ns name : String} {s : Symbol}
    (hmem : (source, ns, name, s) ∈ names) : (enterNative names t).1.lookup ns name = some s := by
  fun_induction enterNative names t with
  | case1 t => exact absurd hmem List.not_mem_nil
  | case2 source' ns' name' s' rest t hnew ih =>
    rcases List.mem_cons.mp hmem with heq | hmem
    · cases heq
      rw [lookup_enterNative, SymbolTable.lookup_put, if_pos ⟨rfl, rfl⟩]
      rfl
    · exact ih h hmem
  | case3 source' ns' name' s' rest t existing hold t' fs heq ih =>
    rw [heq] at ih
    split at h
    · next hsame =>
      rcases List.mem_cons.mp hmem with hentry | hmem
      · -- the name was taken by the same symbol
        cases hentry
        have hlookup := lookup_enterNative rest t ns name
        rw [heq, hold] at hlookup
        rw [hlookup, hsame]
        rfl
      · exact ih h hmem
    · cases h

section

variable {m : Model} {ns name : String} {l l' : Library} {e e' : NamedEntity} {s s' : Symbol}

/-- What a namespace has under a name is the symbol of each entity that brings it. -/
theorem Clean.native? (h : m.Clean) (hl : l ∈ m.librariesIn ns) (he : e ∈ m.libraryEntities l.id)
    (hs : (name, s) ∈ e.symbolNames) : m.native? ns name = some s := by
  rw [Clean, findings_buildSymbols, hasErrors_eq_false] at h
  have hnil : (enterNative m.nativeNames
      { m.assignPrefixes {} with hosts := m.chameleonHosts }).2 = [] := by
    refine List.eq_nil_iff_forall_not_mem.mpr fun f hf => ?_
    exact h f (List.mem_append_left _ hf) (of_mem_enterNative hf).2
  rw [← lookup_nativeTable]
  obtain ⟨hmem, hns⟩ := List.mem_filter.mp hl
  rw [decide_eq_true_iff] at hns
  have hentry : (l.identity, ns, name, s) ∈ m.nativeNames := by
    rw [nativeNames, List.mem_flatMap]
    refine ⟨l, hmem, ?_⟩
    rw [hns]
    exact List.mem_flatMap.mpr ⟨e, he, List.mem_map.mpr ⟨(name, s), hs, rfl⟩⟩
  exact lookup_of_enterNative_nil hnil hentry

/-! ## Hosted names -/

/-- A name at which a hosted library brings an entity has no second library. -/
theorem Clean.not_collides (hm : m.WellFormed) (h : m.Clean) (hentity : m.HostedEntity ns name) :
    collides (m.hosted ns name) (m.native? ns name) = false := by
  rw [Bool.eq_false_iff]
  intro hcollides
  have hreports := collisionReports_buildSymbols hm ns name
  rw [collisionFindings, hcollides, any_isEntity_iff.mpr hentity] at hreports
  have hmem : m.collisionFinding ns name (m.hosted ns name) (m.native? ns name) ∈
      collisionReports m.buildSymbols.2 ns name := by
    rw [hreports]
    exact List.mem_singleton_self _
  have hfinding := (List.mem_filter.mp (List.mem_filter.mp hmem).1).1
  exact hasErrors_eq_false.mp h _ hfinding rfl

/-- Two libraries bring symbols under one name, and nothing is reported: both symbols
are of one hosted library, or one library is hosted and no hosted library brings an
entity first. -/
def Silent (m : Model) (ns name : String) (l l' : Library) : Prop :=
  l ∈ m.hostedIn ns ∧ l' = l ∨
    (l ∈ m.hostedIn ns ∨ l' ∈ m.hostedIn ns) ∧ ¬ m.HostedEntity ns name

/-- In a clean model two symbols that have one name in a namespace are the same, or
their collision is one of those that are not reported. -/
theorem Clean.eq_or_silent (hm : m.WellFormed) (h : m.Clean) (hl : m.Shows ns l)
    (hl' : m.Shows ns l') (he : e ∈ m.libraryEntities l.id) (he' : e' ∈ m.libraryEntities l'.id)
    (hs : (name, s) ∈ e.symbolNames) (hs' : (name, s') ∈ e'.symbolNames) :
    s = s' ∨ m.Silent ns name l l' := by
  have hbrings : m.Brings l name := ⟨e, he, s, hs⟩
  have hbrings' : m.Brings l' name := ⟨e', he', s', hs'⟩
  rcases hl with hl | hl
  · rcases hl' with hl' | hl'
    · left
      exact Option.some.inj ((h.native? hl he hs).symm.trans (h.native? hl' he' hs'))
    · refine Or.inr (Or.inr ⟨Or.inr hl', fun hentity => ?_⟩)
      refine absurd ?_ (Bool.eq_false_iff.mp (h.not_collides hm hentity))
      exact (collides_iff hm ns name).mpr ⟨l', hl', hbrings', Or.inr ⟨l, hl, hbrings⟩⟩
  · by_cases hsame : l' = l
    · exact Or.inr (Or.inl ⟨hl, hsame⟩)
    · -- a second library under a name with an entity would have been reported
      refine Or.inr (Or.inr ⟨Or.inl hl, fun hentity => ?_⟩)
      refine absurd ?_ (Bool.eq_false_iff.mp (h.not_collides hm hentity))
      refine (collides_iff hm ns name).mpr ⟨l, hl, hbrings, ?_⟩
      rcases hl' with hl' | hl'
      · exact Or.inr ⟨l', hl', hbrings'⟩
      · exact Or.inl ⟨l', hl', hsame, hbrings'⟩

/-- A library lists each entity once. -/
theorem Consistent.nodup_libraryEntities (h : m.Consistent) (hm : m.WellFormed)
    (id : LibraryId) : (m.libraryEntities id).Nodup := by
  rw [libraryEntities]
  cases hl : m.library? id with
  | none => exact List.nodup_nil
  | some l =>
    have hmembers : l.members.Nodup := by
      rw [List.nodup_iff_count_eq_one]
      intro x hx
      obtain ⟨e, he⟩ := h.member_live id l x hl hx
      obtain ⟨l', hl', hcount⟩ := h.listed_once x e he
      have howner := h.listed_only x e id l he hl hx
      rw [← howner, hl, Option.some.injEq] at hl'
      rwa [← hl'] at hcount
    refine hmembers.filterMap fun x y e hx hy => ?_
    rw [← hm.entity_id hx, hm.entity_id hy]

end

end Model

/-! ## Generations from clean models -/

namespace GenerationContext

open Model

/-- A closed context over a clean model, with each library once in the order. -/
structure Orderly (c : GenerationContext) : Prop extends c.Closed where
  consistent : c.model.Consistent
  clean : c.model.Clean
  hosts : c.model.symbols.hosts = c.model.chameleonHosts
  nodup : c.order.Nodup

theorem orderly_context (cs : List Change) (h : (run cs).refresh.2.hasErrors = false)
    (roots : List EntityId) (options : GenerationOptions) :
    let m := run (cs ++ [.refresh])
    (({ model := m } : Generator).context options (Scope.build m roots none) false).Orderly := by
  intro m
  have hm : m.WellFormed := wellFormed_run _
  have hnodup : ((Scope.build m roots none).order m).Nodup := by
    obtain ⟨bs, horder, hnodup, -⟩ :=
      Scope.exists_blocks hm (Scope.nodup_libraries_build hm roots none)
    rwa [horder]
  exact ⟨closed_context cs roots options, consistent_of_inStep hm (inStep_run _), clean_run h,
    hosts_run cs, hnodup⟩

/-- The libraries of a generation, in order. -/
def orderedLibraries (c : GenerationContext) : List Library :=
  c.order.filterMap c.model.library?

/-- The entities of a generation, library by library. -/
def generatedEntities (c : GenerationContext) : List NamedEntity :=
  c.order.flatMap c.emittedEntities

variable {c : GenerationContext}

theorem mem_orderedLibraries (hm : c.model.WellFormed) {l : Library} :
    l ∈ c.orderedLibraries ↔ l.id ∈ c.order ∧ c.model.library? l.id = some l := by
  rw [orderedLibraries, List.mem_filterMap]
  constructor
  · rintro ⟨id, hid, hl⟩
    rw [hm.library_id hl]
    exact ⟨hid, hl⟩
  · rintro ⟨hid, hl⟩
    exact ⟨l.id, hid, hl⟩

theorem mem_generatedEntities (hm : c.model.WellFormed) {e : NamedEntity} :
    e ∈ c.generatedEntities ↔
      c.model.entity? e.id = some e ∧ e.library ∈ c.order ∧ e.id ∈ c.scope.entities := by
  rw [generatedEntities, List.mem_flatMap]
  constructor
  · rintro ⟨id, hid, he⟩
    obtain ⟨hlive, rfl, hscope⟩ := (mem_emittedEntities hm).mp he
    exact ⟨hlive, hid, hscope⟩
  · rintro ⟨hlive, hid, hscope⟩
    exact ⟨_, hid, (mem_emittedEntities hm).mpr ⟨hlive, rfl, hscope⟩⟩

theorem Orderly.nodup_orderedLibraries (h : c.Orderly) : c.orderedLibraries.Nodup := by
  refine h.nodup.filterMap fun id id' l hl hl' => ?_
  rw [← h.settled.wellFormed.library_id hl, h.settled.wellFormed.library_id hl']

theorem Orderly.nodup_generatedEntities (h : c.Orderly) : c.generatedEntities.Nodup := by
  have hm := h.settled.wellFormed
  refine List.nodup_flatMap.mpr ⟨fun id _ => ?_, h.nodup.imp fun hne e he he' => ?_⟩
  · exact (h.consistent.nodup_libraryEntities hm id).filter _
  · rw [← ((mem_emittedEntities hm).mp he).2.1] at hne
    exact hne ((mem_emittedEntities hm).mp he').2.1

end GenerationContext

end TravelModel
