import TravelModel.Proofs.Contributions

/-!
# TravelModel — merging hosted names

The names of hosted libraries are merged into the namespaces of their hosts
after the native names stand there. Merging goes name by name, and a name is
merged once, so its outcome depends only on what hosted libraries bring under
it and on the native symbol.

Main results:

* `mergeAll_spec` — a name is merged once, with the symbol it stood for.
* `built_buildSymbols` — what the table of a model says of a name, by `merged`
  and `collides`.
* `isAmbiguous_iff_collision` — the same in terms of who brings the name.
-/

namespace TravelModel.Model

/-! ## One name -/

/-- What a name stands for once hosted libraries bring their symbols to it. -/
def merged : List (LibraryId × Symbol) → Option Symbol → Option Symbol
  | [], native => native
  | [(_, s)], none => some s
  | _, _ => none

/-- Hosted libraries collide under a name, with each other or a native symbol. -/
def collides : List (LibraryId × Symbol) → Option Symbol → Bool
  | [], _ => false
  | [_], none => false
  | _, _ => true

theorem merged_of_collides {given : List (LibraryId × Symbol)} {native : Option Symbol}
    (h : collides given native = true) : merged given native = none := by
  rcases given with - | ⟨g, - | ⟨g', rest⟩⟩
  · cases h
  · cases native with
    | none => cases h
    | some s => rfl
  · rfl

/-- Merging a name either puts the one symbol brought, or makes the name
ambiguous. -/
theorem mergeName_cases (m : Model) (t : SymbolTable) (ns name : String)
    {given : List (LibraryId × Symbol)} (hgiven : given ≠ []) :
    (∃ s, merged given (t.lookup ns name) = some s ∧
        collides given (t.lookup ns name) = false ∧
        (m.mergeName t ns name given).1 = t.put ns name s) ∨
      (collides given (t.lookup ns name) = true ∧
        (m.mergeName t ns name given).1 =
          { t.erase ns name with ambiguous := t.ambiguous ++ [(ns, name)] }) := by
  have hambiguous : (t.erase ns name).ambiguous = t.ambiguous := by
    obtain ⟨symbols, heq⟩ := t.erase_frame ns name
    rw [heq]
  rw [← hambiguous]
  unfold mergeName
  generalize t.lookup ns name = native
  rcases given with - | ⟨g, - | ⟨g', rest⟩⟩
  · exact absurd rfl hgiven
  · cases native with
    | none => exact Or.inl ⟨g.2, rfl, rfl, rfl⟩
    | some s => exact Or.inr ⟨rfl, rfl⟩
  · exact Or.inr ⟨rfl, rfl⟩

section

variable (m : Model) (t : SymbolTable) (ns name ns' name' : String)
  {given : List (LibraryId × Symbol)}

theorem lookup_mergeName (hgiven : given ≠ []) :
    (m.mergeName t ns name given).1.lookup ns' name' =
      if ns' = ns ∧ name' = name then merged given (t.lookup ns name)
      else t.lookup ns' name' := by
  rcases m.mergeName_cases t ns name hgiven with ⟨s, hmerged, -, heq⟩ | ⟨hcollides, heq⟩
  · rw [heq, SymbolTable.lookup_put, hmerged]
  · rw [heq, merged_of_collides hcollides]
    exact t.lookup_erase ns name ns' name'

theorem isAmbiguous_mergeName (hgiven : given ≠ []) :
    (m.mergeName t ns name given).1.isAmbiguous ns' name' =
      (t.isAmbiguous ns' name' ||
        (decide (ns' = ns ∧ name' = name) && collides given (t.lookup ns name))) := by
  rcases m.mergeName_cases t ns name hgiven with ⟨s, -, hcollides, heq⟩ | ⟨hcollides, heq⟩
  · rw [heq, hcollides, Bool.and_false, Bool.or_false]
    rfl
  · rw [heq, hcollides, Bool.and_true]
    simp [SymbolTable.isAmbiguous]

/-- Merging a name touches names only, and keeps them ordered. -/
theorem mergeName_frame (hgiven : given ≠ []) :
    ∃ symbols ambiguous, (m.mergeName t ns name given).1 = { t with symbols, ambiguous } ∧
      (t.Ordered → Keyed.OrderedPairs symbols) := by
  rcases m.mergeName_cases t ns name hgiven with ⟨s, -, -, heq⟩ | ⟨-, heq⟩
  · -- the names are those of `put`
    exact ⟨_, t.ambiguous, heq, fun h => SymbolTable.ordered_put h ns name s⟩
  · obtain ⟨symbols, herase⟩ := t.erase_frame ns name
    refine ⟨symbols, t.ambiguous ++ [(ns, name)], by rw [heq, herase], ?_⟩
    intro h
    have hordered := SymbolTable.ordered_erase h ns name
    rw [herase] at hordered
    exact hordered

end

/-! ## All names -/

/-- Merges names one after the other, without what is reported. -/
def mergeAll (m : Model) (all : List (String × String × List (LibraryId × Symbol)))
    (t : SymbolTable) : SymbolTable :=
  all.foldl (fun t x => (m.mergeName t x.1 x.2.1 x.2.2).1) t

/-- What stands under a name in a list of names to be merged. -/
def listed (all : List (String × String × List (LibraryId × Symbol))) (ns name : String) :
    List (LibraryId × Symbol) :=
  ((all.find? fun x => x.1 = ns ∧ x.2.1 = name).map fun x => x.2.2).getD []

theorem listed_cons (x : String × String × List (LibraryId × Symbol))
    (rest : List (String × String × List (LibraryId × Symbol))) (ns name : String) :
    listed (x :: rest) ns name =
      if ns = x.1 ∧ name = x.2.1 then x.2.2 else listed rest ns name := by
  rw [listed, List.find?_cons]
  by_cases hkey : ns = x.1 ∧ name = x.2.1
  · rw [if_pos hkey, hkey.1, hkey.2]
    simp
  · have hnot : ¬ (x.1 = ns ∧ x.2.1 = name) := fun h => hkey ⟨h.1.symm, h.2.symm⟩
    rw [if_neg hkey]
    simp only [hnot, decide_false]
    rfl

theorem listed_eq_nil {all : List (String × String × List (LibraryId × Symbol))}
    {ns name : String} (h : ∀ x ∈ all, ¬ (ns = x.1 ∧ name = x.2.1)) :
    listed all ns name = [] := by
  induction all with
  | nil => rfl
  | cons x rest ih =>
    rw [listed_cons, if_neg (h x List.mem_cons_self)]
    exact ih fun y hy => h y (List.mem_cons_of_mem _ hy)

section

variable (m : Model) {all : List (String × String × List (LibraryId × Symbol))}
  (hkeys : all.Pairwise fun a b => ¬ (a.1 = b.1 ∧ a.2.1 = b.2.1)) (hgiven : ∀ x ∈ all, x.2.2 ≠ [])

include hkeys hgiven

/-- A name is merged once, with the symbol it stood for before. -/
theorem mergeAll_spec (t : SymbolTable) (ns name : String) :
    (m.mergeAll all t).lookup ns name = merged (listed all ns name) (t.lookup ns name) ∧
      (m.mergeAll all t).isAmbiguous ns name =
        (t.isAmbiguous ns name || collides (listed all ns name) (t.lookup ns name)) := by
  induction all generalizing t with
  | nil => exact ⟨rfl, (Bool.or_false _).symm⟩
  | cons x rest ih =>
    obtain ⟨hhead, hrest⟩ := List.pairwise_cons.mp hkeys
    have hx := hgiven x List.mem_cons_self
    obtain ⟨hlookup, hambiguous⟩ :=
      ih hrest (fun y hy => hgiven y (List.mem_cons_of_mem _ hy)) (m.mergeName t x.1 x.2.1 x.2.2).1
    rw [mergeAll, List.foldl_cons, ← mergeAll, hlookup, hambiguous, listed_cons,
      m.lookup_mergeName t x.1 x.2.1 ns name hx, m.isAmbiguous_mergeName t x.1 x.2.1 ns name hx]
    by_cases hkey : ns = x.1 ∧ name = x.2.1
    · -- this name is merged now, and no later step comes back to it
      have hlater : listed rest ns name = [] := by
        refine listed_eq_nil fun y hy hsame => hhead y hy ?_
        exact ⟨hkey.1.symm.trans hsame.1, hkey.2.symm.trans hsame.2⟩
      rw [if_pos hkey, if_pos hkey, hlater, hkey.1, hkey.2]
      simp [merged, collides]
    · rw [if_neg hkey, if_neg hkey]
      simp [hkey]

omit hkeys in
theorem mergeAll_frame (t : SymbolTable) :
    ∃ symbols ambiguous, m.mergeAll all t = { t with symbols, ambiguous } ∧
      (t.Ordered → Keyed.OrderedPairs symbols) := by
  induction all generalizing t with
  | nil => exact ⟨t.symbols, t.ambiguous, rfl, fun h => h⟩
  | cons x rest ih =>
    obtain ⟨symbols, ambiguous, hfirst, hord⟩ :=
      m.mergeName_frame t x.1 x.2.1 (hgiven x List.mem_cons_self)
    obtain ⟨symbols', ambiguous', heq, hord'⟩ :=
      ih (fun y hy => hgiven y (List.mem_cons_of_mem _ hy)) { t with symbols, ambiguous }
    refine ⟨symbols', ambiguous', ?_, fun h => hord' (hord h)⟩
    rw [mergeAll, List.foldl_cons, ← mergeAll, hfirst, heq]

end

/-- The findings of merging go along with the table and do not change it. -/
theorem foldl_mergeName_fst (m : Model)
    (all : List (String × String × List (LibraryId × Symbol))) (t : SymbolTable) (fs : Findings) :
    (all.foldl (fun p x =>
      ((m.mergeName p.1 x.1 x.2.1 x.2.2).1, p.2 ++ (m.mergeName p.1 x.1 x.2.1 x.2.2).2))
      (t, fs)).1 = m.mergeAll all t := by
  induction all generalizing t fs with
  | nil => rfl
  | cons x rest ih => exact ih _ _

theorem mergeHosted_eq (m : Model) (t : SymbolTable) :
    (m.mergeHosted t).1 = m.mergeAll (m.contributions t.hosts).triples t :=
  foldl_mergeName_fst m (m.contributions t.hosts).triples t []

/-- No name is collected for which nothing is brought. -/
theorem given_of_mem_triples (m : Model) :
    ∀ x ∈ (m.contributions m.chameleonHosts).triples, x.2.2 ≠ [] := by
  intro x hx
  have hcollected := m.collected_contributions m.chameleonHosts
  exact hcollected.given x.1 x.2.1 x.2.2 ((Keyed.mem_triples hcollected.ordered).mp hx)

/-- Native names and merging leave all but the symbols and the ambiguous names. -/
theorem exists_buildSymbols (m : Model) :
    ∃ symbols ambiguous, m.buildSymbols.1 = m.indexOperations
      { m.assignPrefixes {} with hosts := m.chameleonHosts, symbols, ambiguous } := by
  let start : SymbolTable := { m.assignPrefixes {} with hosts := m.chameleonHosts }
  obtain ⟨symbols, hnative, -⟩ := enterNative_frame m.nativeNames start
  obtain ⟨symbols', ambiguous, hmerged, -⟩ :=
    m.mergeAll_frame m.given_of_mem_triples { start with symbols }
  refine ⟨symbols', ambiguous, ?_⟩
  show m.indexOperations (m.mergeHosted (enterNative m.nativeNames start).1).1 = _
  rw [hnative, mergeHosted_eq]
  show m.indexOperations (m.mergeAll (m.contributions m.chameleonHosts).triples _) = _
  rw [hmerged]

/-- Building the rest of a table leaves its prefixes. -/
theorem prefixes_buildSymbols (m : Model) :
    m.buildSymbols.1.prefixes = (m.assignPrefixes {}).prefixes := by
  obtain ⟨symbols, ambiguous, hbuild⟩ := m.exists_buildSymbols
  obtain ⟨operations, hoperations⟩ := m.indexOperations_frame
    { m.assignPrefixes {} with hosts := m.chameleonHosts, symbols, ambiguous }
  rw [hbuild, hoperations]

theorem listed_triples {cs : Contributions} (h : Collected cs) (ns name : String) :
    listed cs.triples ns name = given cs ns name := by
  rw [listed, given]
  cases hfind : cs.triples.find? fun x => x.1 = ns ∧ x.2.1 = name with
  | some x =>
    have hx := List.find?_some hfind
    obtain ⟨hns, hname⟩ : x.1 = ns ∧ x.2.1 = name := of_decide_eq_true hx
    have hmem : (ns, name, x.2.2) ∈ cs.triples := by
      rw [← hns, ← hname]
      exact List.mem_of_find?_eq_some hfind
    rw [(Keyed.mem_triples h.ordered).mp hmem]
    rfl
  | none =>
    -- nothing is listed under the keys, so nothing is found under them
    cases hpair : cs.findPair? ns name with
    | none => rfl
    | some g =>
      have hmem := (Keyed.mem_triples h.ordered).mpr hpair
      exact absurd (decide_eq_true ⟨rfl, rfl⟩) (List.find?_eq_none.mp hfind _ hmem)

/-! ## The table of a model -/

/-- What a table says that is built from a model. -/
structure Built (m : Model) (t : SymbolTable) : Prop where
  lookup : ∀ ns name, t.lookup ns name = merged (m.hosted ns name) (m.native? ns name)
  isAmbiguous : ∀ ns name,
    t.isAmbiguous ns name = collides (m.hosted ns name) (m.native? ns name)
  hosts : t.hosts = m.chameleonHosts
  prefixes : ∀ l ∈ m.libraries, ∀ ns, l.ns = some ns → t.prefixes.contains ns = true
  ordered : t.Ordered

/-- The table of a consistent model: every name is entered natively, then
merged. -/
theorem built_buildSymbols {m : Model} (hm : m.WellFormed) : Built m m.buildSymbols.1 := by
  obtain ⟨prefixes, hprefixes, hall⟩ := m.assignPrefixes_frame {}
  -- the native names enter a table without names
  let start : SymbolTable := { prefixes, hosts := m.chameleonHosts }
  obtain ⟨symbols, hnative, hordered⟩ := enterNative_frame m.nativeNames start
  have hlookup : ∀ ns name,
      SymbolTable.lookup { start with symbols } ns name = m.native? ns name := by
    intro ns name
    rw [← hnative, lookup_enterNative, first?_nativeNames]
    rfl
  -- the hosted names are merged into it
  let all := (m.contributions m.chameleonHosts).triples
  have hcollected := m.collected_contributions m.chameleonHosts
  have hgiven : ∀ x ∈ all, x.2.2 ≠ [] := m.given_of_mem_triples
  have hspec := m.mergeAll_spec (Keyed.pairwise_triples hcollected.ordered) hgiven
    { start with symbols }
  obtain ⟨symbols', ambiguous, hmerged, hordered'⟩ := m.mergeAll_frame hgiven { start with symbols }
  obtain ⟨operations, hoperations⟩ :=
    m.indexOperations_frame { start with symbols := symbols', ambiguous }
  have hbuild : m.buildSymbols.1 = { start with symbols := symbols', ambiguous, operations } := by
    have hmerge : (m.mergeHosted { start with symbols }).1 =
        { start with symbols := symbols', ambiguous } := by
      rw [mergeHosted_eq]
      exact hmerged
    rw [buildSymbols, hprefixes]
    show m.indexOperations (m.mergeHosted (enterNative m.nativeNames start).1).1 = _
    rw [hnative, hmerge, hoperations]
  have hlisted : ∀ ns name, listed all ns name = m.hosted ns name := fun ns name =>
    (listed_triples hcollected ns name).trans (given_contributions hm ns name)
  rw [hbuild]
  refine ⟨?_, ?_, rfl, hall, hordered' (hordered Keyed.orderedPairs_nil)⟩
  · intro ns name
    rw [← hlisted, ← hlookup, ← (hspec ns name).1, hmerged]
    rfl
  · intro ns name
    have hambiguous := (hspec ns name).2
    rw [hlisted, hlookup, hmerged] at hambiguous
    exact hambiguous

/-! ## Who brings a name -/

theorem native?_eq_none_iff {m : Model} {ns name : String} :
    m.native? ns name = none ↔ ∀ l ∈ m.librariesIn ns, ¬ m.Brings l name := by
  rw [native?, List.findSome?_eq_none_iff]
  exact forall₂_congr fun l _ => contributed?_eq_none_iff

theorem mem_hosted {m : Model} {ns name : String} {g : LibraryId × Symbol} :
    g ∈ m.hosted ns name ↔
      ∃ c ∈ m.hostedIn ns, m.contributed? c name = some g.2 ∧ c.id = g.1 := by
  rw [hosted, List.mem_filterMap]
  refine exists_congr fun c => and_congr_right fun _ => ?_
  rw [Option.map_eq_some_iff]
  constructor
  · rintro ⟨s, hs, rfl⟩
    exact ⟨hs, rfl⟩
  · rintro ⟨hs, hid⟩
    exact ⟨g.2, hs, by rw [hid]⟩

/-- No library stands twice under a name. -/
theorem nodup_hosted {m : Model} (hm : m.WellFormed) (ns name : String) :
    ((m.hosted ns name).map Prod.fst).Nodup := by
  have hids : (m.hostedIn ns).Pairwise fun a b => a.id ≠ b.id :=
    List.Pairwise.filter _ (List.pairwise_map.mp hm.nodup_libraries)
  rw [List.Nodup, List.pairwise_map, hosted, List.pairwise_filterMap]
  refine hids.imp ?_
  intro a b hne g hg g' hg'
  obtain ⟨s, -, rfl⟩ := Option.map_eq_some_iff.mp hg
  obtain ⟨s', -, rfl⟩ := Option.map_eq_some_iff.mp hg'
  exact hne

/-- None, one or several hosted libraries bring a name. -/
theorem hosted_cases {m : Model} (hm : m.WellFormed) (ns name : String) :
    (m.hosted ns name = [] ∧ ∀ c ∈ m.hostedIn ns, ¬ m.Brings c name) ∨
    (∃ c ∈ m.hostedIn ns, ∃ s, m.hosted ns name = [(c.id, s)] ∧
      m.contributed? c name = some s ∧ ∀ d ∈ m.hostedIn ns, m.Brings d name → d = c) ∨
    (∃ g g' rest, m.hosted ns name = g :: g' :: rest ∧
      ∃ c ∈ m.hostedIn ns, ∃ d ∈ m.hostedIn ns, d ≠ c ∧ m.Brings c name ∧ m.Brings d name) := by
  have hbrings : ∀ c ∈ m.hostedIn ns, m.Brings c name → ∃ g ∈ m.hosted ns name, c.id = g.1 := by
    intro c hc hbrings
    obtain ⟨s, hs⟩ := brings_iff.mp hbrings
    exact ⟨(c.id, s), mem_hosted.mpr ⟨c, hc, hs, rfl⟩, rfl⟩
  have hnodup := nodup_hosted hm ns name
  -- by the length of the list: none, one or at least two libraries
  rcases hcase : m.hosted ns name with - | ⟨g, - | ⟨g', rest⟩⟩
  · refine Or.inl ⟨rfl, fun c hc hb => ?_⟩
    obtain ⟨g, hg, -⟩ := hbrings c hc hb
    rw [hcase] at hg
    exact List.not_mem_nil hg
  · obtain ⟨c, hc, hs, hid⟩ := mem_hosted.mp (hcase ▸ List.mem_singleton.mpr rfl : g ∈ _)
    refine Or.inr (Or.inl ⟨c, hc, g.2, by rw [hid], hs, fun d hd hb => ?_⟩)
    obtain ⟨g', hg', hid'⟩ := hbrings d hd hb
    rw [hcase, List.mem_singleton] at hg'
    -- one number, one library
    have hsame := hm.library?_of_mem (List.mem_filter.mp hd).1
    rw [hid', hg', ← hid, hm.library?_of_mem (List.mem_filter.mp hc).1] at hsame
    exact (Option.some.inj hsame).symm
  · rw [hcase] at hnodup
    obtain ⟨c, hc, hs, hid⟩ := mem_hosted.mp (hcase ▸ List.mem_cons_self : g ∈ _)
    obtain ⟨d, hd, hs', hid'⟩ :=
      mem_hosted.mp (hcase ▸ List.mem_cons_of_mem _ List.mem_cons_self : g' ∈ _)
    refine Or.inr (Or.inr ⟨g, g', rest, rfl, c, hc, d, hd, ?_, brings_iff.mpr ⟨_, hs⟩,
      brings_iff.mpr ⟨_, hs'⟩⟩)
    -- the same library would stand there twice
    rintro rfl
    refine (List.nodup_cons.mp hnodup).1 ?_
    rw [← hid, hid']
    exact List.mem_cons_self

/-- Hosted libraries collide under a name if and only if one brings it and so does
another one or a library of the namespace. -/
theorem collides_iff {m : Model} (hm : m.WellFormed) (ns name : String) :
    collides (m.hosted ns name) (m.native? ns name) = true ↔
      ∃ c ∈ m.hostedIn ns, m.Brings c name ∧
        ((∃ d ∈ m.hostedIn ns, d ≠ c ∧ m.Brings d name) ∨
          ∃ l ∈ m.librariesIn ns, m.Brings l name) := by
  rcases hosted_cases hm ns name with ⟨heq, hnone⟩ | ⟨c, hc, s, heq, hs, hone⟩ |
    ⟨g, g', rest, heq, c, hc, d, hd, hne, hbc, hbd⟩
  · rw [heq]
    constructor
    · intro h
      cases h
    · rintro ⟨c, hc, hb, -⟩
      exact absurd hb (hnone c hc)
  · -- one library alone collides with native symbols only
    rw [heq]
    constructor
    · intro h
      refine ⟨c, hc, brings_iff.mpr ⟨s, hs⟩, Or.inr ?_⟩
      by_contra hno
      have hnative : m.native? ns name = none :=
        native?_eq_none_iff.mpr fun l hl hb => hno ⟨l, hl, hb⟩
      rw [hnative] at h
      cases h
    · rintro ⟨c', hc', hb', ⟨d, hd, hne, hbd⟩ | ⟨l, hl, hbl⟩⟩
      · exact absurd ((hone d hd hbd).trans (hone c' hc' hb').symm) hne
      · cases hnative : m.native? ns name with
        | none => exact absurd hbl (native?_eq_none_iff.mp hnative l hl)
        | some s' => rfl
  · rw [heq]
    exact ⟨fun _ => ⟨c, hc, hbc, Or.inl ⟨d, hd, hne, hbd⟩⟩, fun _ => rfl⟩

/-- One hosted library alone brings its own symbol. -/
theorem merged_of_single {m : Model} (hm : m.WellFormed) {ns name : String} {c : Library}
    (hc : c ∈ m.hostedIn ns) (hb : m.Brings c name)
    (hone : ∀ d ∈ m.hostedIn ns, m.Brings d name → d = c)
    (hnative : ∀ l ∈ m.librariesIn ns, ¬ m.Brings l name) :
    merged (m.hosted ns name) (m.native? ns name) = m.contributed? c name := by
  rw [native?_eq_none_iff.mpr hnative]
  rcases hosted_cases hm ns name with ⟨-, hnone⟩ | ⟨c', hc', s, heq, hs, -⟩ |
    ⟨g, g', rest, -, c', hc', d, hd, hne, hbc, hbd⟩
  · exact absurd hb (hnone c hc)
  · rw [heq, ← hone c' hc' (brings_iff.mpr ⟨s, hs⟩), hs]
    rfl
  · exact absurd ((hone d hd hbd).trans (hone c' hc' hbc).symm) hne

/-- A name that no hosted library brings keeps its native symbol. -/
theorem merged_of_none {m : Model} {ns name : String}
    (hnone : ∀ c ∈ m.hostedIn ns, ¬ m.Brings c name) :
    merged (m.hosted ns name) (m.native? ns name) = m.native? ns name := by
  have heq : m.hosted ns name = [] := by
    rw [hosted, List.filterMap_eq_nil_iff]
    intro c hc
    rw [contributed?_eq_none_iff.mpr (hnone c hc)]
    rfl
  rw [heq]
  rfl

/-- The merging of hosted names is exact: a name is ambiguous in a namespace if
and only if a hosted library brings it and so does another hosted library or a
library of the namespace, and then it stands for nothing; a name that one
hosted library alone brings stands for the first symbol of that library, and
a name that none brings for the native symbol. -/
theorem isAmbiguous_iff_collision (cs : List Change) (ns name : String) :
    let m := run cs
    let t := m.buildSymbols.1
    (t.isAmbiguous ns name = true ↔
      ∃ c ∈ m.hostedIn ns, m.Brings c name ∧
        ((∃ d ∈ m.hostedIn ns, d ≠ c ∧ m.Brings d name) ∨
          ∃ l ∈ m.librariesIn ns, m.Brings l name)) ∧
    (t.isAmbiguous ns name = true → t.lookup ns name = none) ∧
    (∀ c ∈ m.hostedIn ns, m.Brings c name →
      (∀ d ∈ m.hostedIn ns, m.Brings d name → d = c) →
      (∀ l ∈ m.librariesIn ns, ¬ m.Brings l name) →
      t.lookup ns name = m.contributed? c name) ∧
    ((∀ c ∈ m.hostedIn ns, ¬ m.Brings c name) → t.lookup ns name = m.native? ns name) := by
  intro m t
  have hm : m.WellFormed := wellFormed_run cs
  have ht : Built m t := built_buildSymbols hm
  rw [ht.isAmbiguous, ht.lookup]
  refine ⟨collides_iff hm ns name, merged_of_collides, ?_, merged_of_none⟩
  intro c hc hb hone hnative
  exact merged_of_single hm hc hb hone hnative

/-- In the sample both hosted libraries bring one name, the first one alone
another, and none of them the native one. -/
theorem sampleRun_merging :
    let m := run sampleRun
    let t := m.buildSymbols.1
    let left := { sampleLibrary "Left" none [] with id := ⟨1⟩, members := [⟨4⟩, ⟨5⟩] }
    t.isAmbiguous "urn:host" "Shared" = true ∧ t.lookup "urn:host" "Shared" = none ∧
      t.lookup "urn:host" "Alone" = m.contributed? left "Alone" ∧
      t.lookup "urn:host" "Native" = m.native? "urn:host" "Native" := by
  intro m t left
  have hshared : t.isAmbiguous "urn:host" "Shared" = true := by
    refine (isAmbiguous_iff_collision sampleRun "urn:host" "Shared").1.mpr ?_
    exact ⟨left, by decide +kernel, by decide +kernel, by decide +kernel⟩
  refine ⟨hshared, (isAmbiguous_iff_collision sampleRun _ _).2.1 hshared, ?_, ?_⟩
  · refine (isAmbiguous_iff_collision sampleRun "urn:host" "Alone").2.2.1 left ?_ ?_ ?_ ?_
      <;> decide +kernel
  · exact (isAmbiguous_iff_collision sampleRun "urn:host" "Native").2.2.2 (by decide +kernel)

end TravelModel.Model
