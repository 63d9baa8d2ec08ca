import TravelModel.Proofs.Declarations
import TravelModel.Proofs.Search

/-!
# TravelModel — what a refresh depends on

Two models with the same libraries whose entities declare the same are alike
after a refresh: the table is the same, every reference has the same target
and the same findings are reported. Targets of an earlier refresh, the
earlier table and freed slots leave no trace.

Main results:

* `Alike` — models that differ in free slots only.
* `refresh_congr` — models that declare the same are alike after a refresh.
* `refresh_refresh` — a second refresh changes nothing.
* `sameDeclarations_add_remove` — a library that was added last and removed
  leaves no trace in what is declared.
-/

namespace TravelModel.Model

/-! ## Models that are alike -/

/-- Two models have the same libraries, entities and table, and differ in free
slots only. -/
structure Alike (m m' : Model) : Prop where
  library? : ∀ id, m.library? id = m'.library? id
  entity? : ∀ id, m.entity? id = m'.entity? id
  symbols : m.symbols = m'.symbols

namespace Alike

variable {m m' : Model}

theorem sameDeclarations (h : Alike m m') : SameDeclarations m m' :=
  ⟨h.library?, fun id => by rw [h.entity?]⟩

theorem entities_eq {m m' : Model} (h : ∀ id, m.entity? id = m'.entity? id) :
    m.entities = m'.entities := by
  have hslots : ∀ i : Nat, (m.entitySlots.toList[i]?).join.map id =
      (m'.entitySlots.toList[i]?).join.map id := by
    intro i
    rw [Array.getElem?_toList, Array.getElem?_toList]
    exact congrArg (Option.map id) (h ⟨i⟩)
  have hmap := map_slots_congr id hslots
  rw [List.map_id, List.map_id] at hmap
  exact hmap

theorem supertype? (h : Alike m m') (id : EntityId) : m.supertype? id = m'.supertype? id := by
  rw [Model.supertype?, Model.supertype?, h.entity?]

theorem extensionChain (h : Alike m m') (id : EntityId) :
    m.extensionChain id = m'.extensionChain id :=
  extensionChain_congr h.supertype? id

theorem facetKey? (h : Alike m m') (id : EntityId) : m.facetKey? id = m'.facetKey? id := by
  rw [Model.facetKey?, Model.facetKey?, h.entity?]

theorem unseenFacets (h : Alike m m') (owner : NamedEntity) (sources : List EntityId)
    (seen : List (ContextualKind × String)) :
    m.unseenFacets owner sources seen = m'.unseenFacets owner sources seen := by
  induction sources generalizing seen with
  | nil => rfl
  | cons source rest ih =>
    rw [Model.unseenFacets, Model.unseenFacets, h.facetKey?, h.entity?]
    simp only [ih]

theorem ghostFacets (h : Alike m m') (id : EntityId) : m.ghostFacets id = m'.ghostFacets id := by
  have hkeys : m.facetKey? = m'.facetKey? := funext h.facetKey?
  rw [Model.ghostFacets, Model.ghostFacets, h.entity?, h.extensionChain, h.symbols, hkeys]
  simp only [h.unseenFacets]

theorem ghostNames (h : Alike m m') : m.ghostNames = m'.ghostNames := by
  have hghosts : m.ghostFacets = m'.ghostFacets := funext h.ghostFacets
  have hname : m.ghostName = m'.ghostName := by
    funext g
    rw [ghostName, ghostName, h.entity?]
  have hspaces : m.effectiveNamespaces = m'.effectiveNamespaces := by
    funext t id
    exact h.sameDeclarations.effectiveNamespaces t id
  rw [Model.ghostNames, Model.ghostNames, entities_eq h.entity?, hghosts, hname, hspaces,
    h.symbols]

theorem checkStructure (h : Alike m m') : m.checkStructure = m'.checkStructure := by
  have hsource : m.entitySource = m'.entitySource := by
    funext e
    rw [entitySource, entitySource, h.sameDeclarations.owner?]
  have hcircular : m.hasCircularExtension = m'.hasCircularExtension := by
    funext id
    rw [hasCircularExtension, hasCircularExtension, h.extensionChain]
    simp only [h.supertype?]
  have howner : m.ownerFindings = m'.ownerFindings := by
    funext e
    unfold ownerFindings
    rw [funext h.entity?, hsource]
  have hextension : m.circularFindings = m'.circularFindings := by
    funext e
    rw [circularFindings, circularFindings, hcircular, hsource]
  rw [Model.checkStructure, Model.checkStructure, entities_eq h.entity?, hextension, howner]

/-- Models that are alike are the same if their slots are as many and the same
keys are known. -/
theorem eq_of_size (h : Alike m m') (hlibraries : m.librarySlots.size = m'.librarySlots.size)
    (hentities : m.entitySlots.size = m'.entitySlots.size) (hkeys : m.keys = m'.keys)
    (hstale : m.stale = m'.stale) : m = m' := by
  have hlibrary : m.librarySlots = m'.librarySlots :=
    slots_ext hlibraries fun i => h.library? ⟨i⟩
  have hentity : m.entitySlots = m'.entitySlots := slots_ext hentities fun i => h.entity? ⟨i⟩
  have hsymbols := h.symbols
  cases m
  cases m'
  subst hlibrary hentity hkeys hsymbols hstale
  rfl

end Alike

/-! ## Refresh -/

/-- Models that declare the same are alike once their references are bound. -/
theorem indexed_congr {m m' : Model} (hm : m.WellFormed) (h : SameDeclarations m m') :
    Alike m.indexed m'.indexed := by
  have hentity : ∀ id, m.indexed.entity? id = m'.indexed.entity? id := by
    intro id
    show m.refresh.1.entity? id = m'.refresh.1.entity? id
    have hid := h.entity? id
    rw [entity?_refresh, entity?_refresh, ← h.buildSymbols]
    cases he : m.entity? id with
    | none =>
      rw [he, Option.map_none] at hid
      rw [Option.map_eq_none_iff.mp hid.symm]
      rfl
    | some e =>
      rw [he, Option.map_some] at hid
      obtain ⟨e', he', hdeclared⟩ := Option.map_eq_some_iff.mp hid.symm
      rw [he', Option.map_some, Option.map_some]
      exact congrArg some (bindEntity_congr hm h _ he hdeclared.symm)
  -- facets are attached by the targets of their owners, which are now the same
  have hfacets : m.indexed.facetIndex = m'.indexed.facetIndex := by
    rw [facetIndex, facetIndex, Alike.entities_eq hentity]
  refine ⟨h.library?, hentity, ?_⟩
  show { m.buildSymbols.1 with facets := m.indexed.facetIndex } = _
  rw [h.buildSymbols, hfacets]
  rfl

/-- The findings of a refresh, by the step that reports them. -/
theorem findings_refresh (m : Model) :
    m.refresh.2 = m.buildSymbols.2 ++
      ((m.entities.map NamedEntity.declared).flatMap fun e =>
        (m.bindings m.buildSymbols.1 e).2) ++ m.refresh.1.checkStructure := by
  rw [List.flatMap_map]
  simp only [bindings_declared]
  rfl

/-- Models that declare the same are alike after a refresh, with the same
findings. -/
theorem refresh_congr {m m' : Model} (hm : m.WellFormed) (h : SameDeclarations m m') :
    Alike m.refresh.1 m'.refresh.1 ∧ m.refresh.2 = m'.refresh.2 := by
  have hindexed := indexed_congr hm h
  -- ghosts are named by what the bound models say
  have halike : Alike m.refresh.1 m'.refresh.1 := by
    refine ⟨hindexed.library?, hindexed.entity?, ?_⟩
    rw [refresh_eq, refresh_eq]
    show enterDerived _ _ = enterDerived _ _
    rw [hindexed.symbols, hindexed.ghostNames]
  have hbindings : m.bindings = m'.bindings := by
    funext t e
    exact h.bindings t e
  refine ⟨halike, ?_⟩
  rw [findings_refresh, findings_refresh, h.buildSymbols, h.entities, hbindings,
    halike.checkStructure]

/-- A second refresh changes nothing. -/
theorem refresh_refresh {m : Model} (hm : m.WellFormed) : m.refresh.1.refresh = m.refresh := by
  obtain ⟨halike, hfindings⟩ := refresh_congr hm (sameDeclarations_refresh hm)
  have hlibraries : m.refresh.1.librarySlots.size = m.refresh.1.refresh.1.librarySlots.size := by
    rw [librarySlots_refresh m.refresh.1]
  have hentities : m.refresh.1.entitySlots.size = m.refresh.1.refresh.1.entitySlots.size := by
    rw [entitySlots_refresh m.refresh.1, Array.size_map]
  have hkeys : m.refresh.1.keys = m.refresh.1.refresh.1.keys := by
    rw [keys_refresh m.refresh.1]
  have hstale : m.refresh.1.stale = m.refresh.1.refresh.1.stale := by
    rw [stale_refresh, stale_refresh]
  have hmodel := halike.eq_of_size hlibraries hentities hkeys hstale
  exact Prod.ext hmodel.symm hfindings.symm

/-! ## A library that comes and goes -/

/-- A library that was added last and removed leaves no trace in what is
declared. -/
theorem sameDeclarations_add_remove {m m' : Model} {l : Library} {members : List MemberDecl}
    {id : LibraryId} {fs : Findings} (h : m.addLibrary l members = (m', some id, fs)) :
    SameDeclarations (m'.removeLibrary id).1 m := by
  obtain ⟨hid, -⟩ := addLibrary_some h
  have hadded : m'.library? id = some (m.numbered l members) := by
    rw [library?_addLibrary h, if_pos rfl]
  refine ⟨fun k => ?_, fun k => congrArg (Option.map NamedEntity.declared) ?_⟩
  · rw [library?_removeLibrary hadded, library?_addLibrary h]
    by_cases hk : k = id
    · -- the number was not given before
      rw [if_pos hk]
      cases hold : m.library? k with
      | none => rfl
      | some l' =>
        have hlt := library?_lt hold
        rw [hk, hid] at hlt
        exact absurd hlt (Nat.lt_irrefl _)
    · rw [if_neg hk, if_neg hk]
  · rw [entity?_removeLibrary hadded, entity?_addLibrary h]
    have hmembers : (m.numbered l members).members = (m.added members).map NamedEntity.id := rfl
    by_cases hk : k.index < m.entitySlots.size
    · -- an old entity is no member of the new library
      have hnot : k ∉ (m.numbered l members).members := by
        rw [hmembers, List.mem_map]
        rintro ⟨e, he, heq⟩
        obtain ⟨i, hi⟩ := List.mem_iff_getElem?.mp he
        rw [← heq, (added_id hi).1] at hk
        exact absurd hk (Nat.not_lt.mpr (Nat.le_add_right _ _))
      rw [if_neg hnot, if_pos hk]
    · -- a new number has an entity only while the library is there
      have hold : m.entity? k = none := by
        cases he : m.entity? k with
        | none => rfl
        | some e => exact absurd (entity?_lt he) hk
      rw [hold, if_neg hk]
      cases hnew : (m.added members)[k.index - m.entitySlots.size]? with
      | none => split <;> rfl
      | some e =>
        have heq : e.id = k := by
          rw [(added_id hnew).1, Nat.add_sub_cancel' (Nat.not_lt.mp hk)]
        have hmem : k ∈ (m.numbered l members).members := by
          rw [hmembers, ← heq]
          exact List.mem_map_of_mem (List.mem_of_getElem? hnew)
        rw [if_pos hmem]

/-- A refresh depends on the libraries and on what the entities declare, and on
nothing else: models that agree in them are alike afterwards, with the same
findings. So a second refresh changes nothing, and a library that was added
last and removed leaves no trace. -/
theorem refresh_determined_by_declarations (cs : List Change) :
    (∀ ds : List Change, SameDeclarations (run cs) (run ds) →
      Alike (run cs).refresh.1 (run ds).refresh.1 ∧ (run cs).refresh.2 = (run ds).refresh.2) ∧
    (run cs).refresh.1.refresh = (run cs).refresh ∧
    (∀ l members m id fs, (run cs).addLibrary l members = (m, some id, fs) →
      Alike (m.removeLibrary id).1.refresh.1 (run cs).refresh.1 ∧
        (m.removeLibrary id).1.refresh.2 = (run cs).refresh.2) := by
  refine ⟨fun ds h => refresh_congr (wellFormed_run cs) h, refresh_refresh (wellFormed_run cs), ?_⟩
  intro l members m id fs h
  have hm : m.WellFormed := by
    have := wellFormed_addLibrary (wellFormed_run cs) l members
    rw [h] at this
    exact this
  exact refresh_congr (wellFormed_removeLibrary hm id) (sameDeclarations_add_remove h)

/-- A library that visits the sample between two refreshes does not show after
the second. -/
theorem sampleRun_visited :
    let visited := run (sampleRun ++
      [.refresh, .add (sampleLibrary "Visitor" (some "urn:host") []) [], .remove ⟨3⟩])
    Alike (run sampleRun).refresh.1 visited.refresh.1 ∧
      (run sampleRun).refresh.2 = visited.refresh.2 := by
  intro visited
  have hadd : (run sampleRun).refresh.1.addLibrary
      (sampleLibrary "Visitor" (some "urn:host") []) [] =
        (((run sampleRun).refresh.1.addLibrary
          (sampleLibrary "Visitor" (some "urn:host") []) []).1, some ⟨3⟩, []) := by
    refine Prod.ext rfl ?_
    decide +kernel
  have hvisited : visited = (((run sampleRun).refresh.1.addLibrary
      (sampleLibrary "Visitor" (some "urn:host") []) []).1.removeLibrary ⟨3⟩).1 :=
    run_append sampleRun _
  have hsame : SameDeclarations (run sampleRun) visited := by
    rw [hvisited]
    exact (sameDeclarations_refresh (wellFormed_run sampleRun)).trans
      (sameDeclarations_add_remove hadd).symm
  exact (refresh_determined_by_declarations sampleRun).1 _ hsame

end TravelModel.Model
