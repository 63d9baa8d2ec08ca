import TravelModel.Proofs.Collisions
import TravelModel.Proofs.Ownership

/-!
# TravelModel — native names and their duplicates

The names that libraries bring to their own namespaces are entered in the order of
libraries, members and declarations. Entities, aliases and fixed facets share one table: the
first symbol under a name stays, and every later one is reported. A report is held back only
where the very same symbol comes again, and it never does, because no symbol is brought
twice.

Main results:

* `nodup_nativeSymbols` — no symbol is brought twice.
* `findings_enterNative` — exactly the names that come too late are reported.
* `length_repeats` — of the names under one key all but one come too late.
* `native_names_first_wins` — all of it for the table of a model.
-/

namespace TravelModel

/-! ## No symbol is brought twice -/

theorem EntityBody.nodup_fixedFacetKinds (b : EntityBody) : b.fixedFacetKinds.Nodup := by
  unfold fixedFacetKinds
  split <;> decide

theorem NamedEntity.owner_of_symbolNames {e : NamedEntity} {s : Symbol}
    (h : s ∈ e.symbolNames.map Prod.snd) : s.owner = e.id := by
  rw [symbolNames, List.map_cons, List.map_append, List.map_map, List.map_map, List.mem_cons,
    List.mem_append, List.mem_map, List.mem_map] at h
  rcases h with rfl | ⟨p, -, rfl⟩ | ⟨k, -, rfl⟩
  · rfl
  · rfl
  · rfl

/-- An entity brings itself, aliases by number and facets by kind. -/
theorem NamedEntity.nodup_symbolNames (e : NamedEntity) : (e.symbolNames.map Prod.snd).Nodup := by
  -- two aliases may have one name, but not one number
  have haliases : (e.body.aliases.zipIdx.map fun p => Symbol.aliasOf e.id p.2).Nodup := by
    have hindex : (e.body.aliases.zipIdx.map Prod.snd).Nodup := by
      rw [List.zipIdx_map_snd]
      exact List.nodup_range'
    rw [← Function.comp_def (Symbol.aliasOf e.id), ← List.map_map]
    exact hindex.map fun i j hij => by injection hij
  have hfacets : (e.body.fixedFacetKinds.map (Symbol.facet e.id)).Nodup :=
    e.body.nodup_fixedFacetKinds.map fun k k' hk => by injection hk
  rw [symbolNames, List.map_cons, List.map_append, List.map_map, List.map_map, List.nodup_cons,
    List.nodup_append]
  refine ⟨?_, haliases, hfacets, ?_⟩
  · simp
  · rintro s hs t ht rfl
    obtain ⟨p, -, rfl⟩ := List.mem_map.mp hs
    obtain ⟨k, -, hk⟩ := List.mem_map.mp ht
    cases hk

namespace Model

/-- The entities of the libraries that have a namespace, in order. -/
def nativeEntities (m : Model) : List NamedEntity :=
  (m.libraries.filter fun l => l.ns.isSome).flatMap fun l => m.libraryEntities l.id

theorem map_symbol_nativeNames (m : Model) :
    (m.nativeNames.map fun x => x.2.2.2) =
      m.nativeEntities.flatMap fun e => e.symbolNames.map Prod.snd := by
  rw [nativeNames_eq, nativeEntities, List.map_flatMap, List.flatMap_assoc]
  induction m.libraries with
  | nil => rfl
  | cons l rest ih =>
    cases hns : l.ns with
    | none =>
      rw [List.flatMap_cons, List.filter_cons_of_neg (by simp [hns]), ← ih]
      simp [hns]
    | some ns =>
      rw [List.flatMap_cons, List.filter_cons_of_pos (by simp [hns]), List.flatMap_cons, ← ih]
      simp [hns, broughtBy, List.map_flatMap, Function.comp_def]

/-- The entities of a library are its members. -/
theorem WellFormed.map_id_libraryEntities {m : Model} (hm : m.WellFormed) {l : Library}
    (hl : l ∈ m.libraries) : (m.libraryEntities l.id).map NamedEntity.id = l.members := by
  have hlibrary := hm.library?_of_mem hl
  rw [libraryEntities, hlibrary, Option.map_some, Option.getD_some, List.map_filterMap]
  refine (List.filterMap_congr fun x hx => ?_).trans List.filterMap_some
  obtain ⟨e, he, -⟩ := hm.member hlibrary hx
  rw [he, Option.map_some, hm.entity_id he]

theorem nodup_nativeEntities {m : Model} (hm : m.WellFormed) (h : m.InStep) :
    (m.nativeEntities.map NamedEntity.id).Nodup := by
  rw [nativeEntities, List.map_flatMap, List.nodup_flatMap]
  have hmember : ∀ l ∈ m.libraries.filter fun l => l.ns.isSome, ∀ x,
      x ∈ (m.libraryEntities l.id).map NamedEntity.id →
        ∃ e, m.entity? x = some e ∧ e.library = l.id := by
    intro l hl x hx
    rw [hm.map_id_libraryEntities (List.mem_of_mem_filter hl)] at hx
    exact hm.member (hm.library?_of_mem (List.mem_of_mem_filter hl)) hx
  refine ⟨fun l hl => ?_, ?_⟩
  · rw [hm.map_id_libraryEntities (List.mem_of_mem_filter hl)]
    exact h.nodup_members (hm.library?_of_mem (List.mem_of_mem_filter hl))
  · -- an entity belongs to one library
    have hids : (m.libraries.filter fun l => l.ns.isSome).Pairwise fun a b => a.id ≠ b.id :=
      (List.pairwise_map.mp hm.nodup_libraries).filter _
    refine hids.imp_of_mem fun {a b} ha hb hne x hxa hxb => ?_
    obtain ⟨e, he, hlibrary⟩ := hmember a ha x hxa
    obtain ⟨e', he', hlibrary'⟩ := hmember b hb x hxb
    rw [he] at he'
    rw [← hlibrary, ← hlibrary', Option.some.inj he'] at hne
    exact hne rfl

/-- No symbol is brought twice. -/
theorem nodup_nativeSymbols {m : Model} (hm : m.WellFormed) (h : m.InStep) :
    (m.nativeNames.map fun x => x.2.2.2).Nodup := by
  rw [map_symbol_nativeNames, List.nodup_flatMap]
  refine ⟨fun e _ => e.nodup_symbolNames, ?_⟩
  refine (List.pairwise_map.mp (nodup_nativeEntities hm h)).imp fun hne s hs hs' => hne ?_
  rw [← NamedEntity.owner_of_symbolNames hs, NamedEntity.owner_of_symbolNames hs']

/-! ## Names that come too late -/

/-- The namespace and the name under which a symbol is brought. -/
def nativeKey (x : String × String × String × Symbol) : String × String :=
  (x.2.1, x.2.2.1)

/-- The finding on a native name that comes too late. -/
def duplicateFinding (x : String × String × String × Symbol) : Finding :=
  .report x.1 .duplicateSymbol [x.2.2.1, x.2.1]

/-- The names of a list whose namespace and name an earlier one has, in order. -/
def repeats (names : List (String × String × String × Symbol)) :
    List (String × String × String × Symbol) :=
  (names.zipIdx.filter fun p =>
    (names.take p.2).any fun y => nativeKey y = nativeKey p.1).map Prod.fst

theorem repeats_concat (names : List (String × String × String × Symbol))
    (x : String × String × String × Symbol) :
    repeats (names ++ [x]) =
      repeats names ++ if names.any fun y => nativeKey y = nativeKey x then [x] else [] := by
  -- the names before a position of the shorter list are the same in both
  have hbefore : ((names.zipIdx.filter fun p =>
      ((names ++ [x]).take p.2).any fun y => nativeKey y = nativeKey p.1)) =
        names.zipIdx.filter fun p => (names.take p.2).any fun y => nativeKey y = nativeKey p.1 := by
    refine List.filter_congr fun p hp => ?_
    rw [List.take_append_of_le_length (Nat.le_of_lt (List.snd_lt_of_mem_zipIdx hp))]
  rw [repeats, List.zipIdx_append, List.filter_append, hbefore, List.map_append]
  congr 1
  rw [List.zipIdx_singleton, List.filter_cons]
  simp only [Nat.zero_add, List.take_left]
  split
  · rfl
  · rfl

theorem first?_ne_none_iff {names : List (String × String × String × Symbol)} {ns name : String} :
    first? names ns name ≠ none ↔ names.any (fun y => nativeKey y = (ns, name)) = true := by
  rw [first?, Ne, Option.map_eq_none_iff, List.find?_eq_none, List.any_eq_true]
  simp [nativeKey]

theorem mem_of_first? {names : List (String × String × String × Symbol)} {ns name : String}
    {s : Symbol} (h : first? names ns name = some s) : s ∈ names.map fun x => x.2.2.2 := by
  obtain ⟨x, hx, rfl⟩ := Option.map_eq_some_iff.mp h
  exact List.mem_map_of_mem (List.mem_of_find?_eq_some hx)

theorem enterNative_append (names more : List (String × String × String × Symbol))
    (t : SymbolTable) :
    enterNative (names ++ more) t =
      ((enterNative more (enterNative names t).1).1,
        (enterNative names t).2 ++ (enterNative more (enterNative names t).1).2) := by
  induction names generalizing t with
  | nil => rfl
  | cons x rest ih =>
    obtain ⟨source, ns, name, s⟩ := x
    rw [List.cons_append, enterNative, enterNative]
    cases t.lookup ns name with
    | none => exact ih _
    | some existing =>
      dsimp only
      rw [ih]
      split
      · rfl
      · rfl

/-- Of names that bring different symbols to a table without names, exactly those that come
too late are reported, in order. -/
theorem findings_enterNative {names : List (String × String × String × Symbol)}
    (hnodup : (names.map fun x => x.2.2.2).Nodup) {t : SymbolTable}
    (ht : ∀ ns name, t.lookup ns name = none) :
    (enterNative names t).2 = (repeats names).map duplicateFinding := by
  induction names using List.reverseRecOn with
  | nil => rfl
  | append_singleton names x ih =>
    obtain ⟨source, ns, name, s⟩ := x
    rw [List.map_append, List.nodup_append] at hnodup
    obtain ⟨hbefore, -, hnew⟩ := hnodup
    rw [enterNative_append, ih hbefore, repeats_concat, List.map_append]
    refine congrArg ((repeats names).map duplicateFinding ++ ·) ?_
    -- what stands under the name is what was brought first
    have hlookup := lookup_enterNative names t ns name
    rw [ht, Option.none_or] at hlookup
    rw [enterNative, hlookup, show nativeKey (source, ns, name, s) = (ns, name) from rfl]
    cases hfirst : first? names ns name with
    | none =>
      rw [if_neg fun hany => first?_ne_none_iff.mpr hany hfirst]
      rfl
    | some existing =>
      -- so it is another symbol, and the report is not held back
      have hne : existing ≠ s := hnew existing (mem_of_first? hfirst) s List.mem_cons_self
      have hthere : first? names ns name ≠ none := by simp [hfirst]
      rw [if_pos (first?_ne_none_iff.mp hthere)]
      dsimp only
      rw [if_neg hne]
      rfl

/-- Of the names under one key all but one come too late. -/
theorem length_repeats (names : List (String × String × String × Symbol)) (k : String × String) :
    ((repeats names).filter fun x => nativeKey x = k).length =
      (names.filter fun x => nativeKey x = k).length - 1 := by
  induction names using List.reverseRecOn with
  | nil => rfl
  | append_singleton names x ih =>
    rw [repeats_concat, List.filter_append, List.length_append, ih, List.filter_append,
      List.length_append]
    by_cases hk : nativeKey x = k
    · subst hk
      -- the first of its key is not a repeat, each one after it is
      have hin : ([x].filter fun y => nativeKey y = nativeKey x) = [x] := by simp
      rw [hin]
      split
      · next hbefore =>
        have hpos : 0 < (names.filter fun y => nativeKey y = nativeKey x).length := by
          simpa [List.length_pos_iff_exists_mem] using hbefore
        rw [hin, List.length_singleton]
        omega
      · next hbefore =>
        have hnone : (names.filter fun y => nativeKey y = nativeKey x) = [] := by
          simpa using hbefore
        rw [hnone]
        rfl
    · have hout : ([x].filter fun y => nativeKey y = k) = [] := by simp [hk]
      rw [hout]
      split
      · rw [hout]
        rfl
      · rfl

/-! ## The table of a model -/

/-- The findings on native names are those on the names that come too late. -/
theorem duplicates_buildSymbols {m : Model} (hm : m.WellFormed) (h : m.InStep) :
    m.buildSymbols.2.withCode .duplicateSymbol = (repeats m.nativeNames).map duplicateFinding := by
  obtain ⟨prefixes, hprefixes, -⟩ := m.assignPrefixes_frame {}
  -- prefixes and hosts are there before the first name is
  have hnative : (enterNative m.nativeNames
      { m.assignPrefixes {} with hosts := m.chameleonHosts }).2 =
        (repeats m.nativeNames).map duplicateFinding := by
    rw [hprefixes]
    exact findings_enterNative (nodup_nativeSymbols hm h) fun ns name => rfl
  -- merging reports under a code of its own
  have hmerging : Findings.withCode (m.mergeHosted m.nativeTable).2 .duplicateSymbol = [] := by
    refine withCode_eq_nil fun f hf => ?_
    rw [findings_mergeHosted] at hf
    obtain ⟨x, -, hx⟩ := List.mem_flatMap.mp hf
    rw [eq_of_mem_collisionFindings hx]
    show FindingCode.duplicateChameleonSymbols ≠ .duplicateSymbol
    decide
  rw [findings_buildSymbols, withCode_append, hmerging, List.append_nil, hnative]
  refine List.filter_eq_self.mpr fun f hf => ?_
  obtain ⟨x, -, rfl⟩ := List.mem_map.mp hf
  rfl

/-- The findings on native names that come too late under a name of a namespace. -/
def duplicateReports (fs : Findings) (ns name : String) : Findings :=
  (fs.withCode .duplicateSymbol).filter fun f => f.args.take 2 = [name, ns]

theorem length_duplicateReports {m : Model} (hm : m.WellFormed) (h : m.InStep)
    (ns name : String) :
    (duplicateReports m.buildSymbols.2 ns name).length =
      (m.nativeNames.filter fun x => nativeKey x = (ns, name)).length - 1 := by
  rw [duplicateReports, duplicates_buildSymbols hm h, List.filter_map, List.length_map,
    ← length_repeats]
  congr 2
  funext x
  simp [duplicateFinding, Finding.report, nativeKey, and_comm]

/-- Of native names the first declaration wins, and the others are counted exactly. The names
of a model are listed by library, member, and then entity, aliases and fixed facets. Building
the table reports, in this order and once each, the names whose namespace and name an earlier
one has, and no others under this code; so a name that is declared several times has one
finding less than declarations. A name that no hosted library brings stands for the symbol
that is declared first. -/
theorem native_names_first_wins (cs : List Change) :
    let m := run cs
    m.buildSymbols.2.withCode .duplicateSymbol = (repeats m.nativeNames).map duplicateFinding ∧
    (∀ ns name, (duplicateReports m.buildSymbols.2 ns name).length =
      (m.nativeNames.filter fun x => nativeKey x = (ns, name)).length - 1) ∧
    ∀ ns name, (∀ c ∈ m.hostedIn ns, ¬ m.Brings c name) →
      m.buildSymbols.1.lookup ns name = first? m.nativeNames ns name := by
  intro m
  have hm : m.WellFormed := wellFormed_run cs
  have hstep : m.InStep := inStep_run cs
  refine ⟨duplicates_buildSymbols hm hstep, length_duplicateReports hm hstep, ?_⟩
  intro ns name hnone
  rw [(built_buildSymbols hm).lookup, merged_of_none hnone, first?_nativeNames]

/-- In one namespace an alias has the name of an entity, and another library declares the
entity once more and an entity with the name of a facet. -/
def shadowRun : List Change :=
  [.add (sampleLibrary "First" (some "urn:a") [])
      [sampleMember "Code" (.simpleType {}),
        sampleMember "Order" (.choiceObject { (default : ChoiceObject) with aliases := ["Code"] })],
    .add (sampleLibrary "Second" (some "urn:a") [])
      [sampleMember "Code" (.simpleType {}), sampleMember "Order_Shared" (.simpleType {})]]

/-- The alias and both entities of the second library come too late. -/
theorem shadowRun_duplicates :
    let m := run shadowRun
    (∀ c ∈ m.hostedIn "urn:a", ¬ m.Brings c "Order_Shared") ∧
      m.buildSymbols.1.lookup "urn:a" "Order_Shared" = some (.facet ⟨1⟩ .shared) ∧
      (duplicateReports m.buildSymbols.2 "urn:a" "Code").length = 2 ∧
      (m.buildSymbols.2.withCode .duplicateSymbol).map Finding.source =
        ["First (urn:a)", "Second (urn:a)", "Second (urn:a)"] := by
  intro m
  obtain ⟨hreports, hcount, hlookup⟩ := native_names_first_wins shadowRun
  have hnone : ∀ c ∈ m.hostedIn "urn:a", ¬ m.Brings c "Order_Shared" := by decide +kernel
  refine ⟨hnone, ?_, ?_, ?_⟩
  · rw [hlookup "urn:a" "Order_Shared" hnone]
    decide +kernel
  · rw [hcount]
    decide +kernel
  · rw [hreports]
    decide +kernel

end Model

end TravelModel
