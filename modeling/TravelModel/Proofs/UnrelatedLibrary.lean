import TravelModel.Model.Assembly
import TravelModel.Proofs.Binding

/-!
# TravelModel — a library that has nothing to do with the others

A library with a namespace of its own that takes in none of the libraries without one
is added to a model. Numbers, prefixes, names and ambiguities of the others stay. The
references stay bound as they were, but for one kind: in a library without a namespace a
name that is found nowhere stands for a member of the library, whatever its prefix, and
the new library can answer to that prefix.

Main results:

* `hosted_addLibrary`, `native?_addLibrary` — what the libraries bring to the other
  namespaces stays.
* `candidates_addLibrary`, `found?_addLibrary` — where a reference is looked up, and
  what is found there.
* `resolve_addLibrary` — when a reference stands for what it stood for.
* `assemble_unrelated` — all of it for assembled models.
* `waresModules_diverted` — a reference that changes its target.
-/

namespace TravelModel

namespace Model

/-! ## The library and its namespace -/

/-- A library has a namespace that no library of a model has, and takes in none of the
libraries that have none. -/
structure Unrelated (m : Model) (l : Library) (ns : String) : Prop where
  own : l.ns = some ns
  fresh : ∀ k ∈ m.libraries, k.ns ≠ some ns
  apart : ∀ c ∈ m.libraries, c.isChameleon = true →
    ∀ hint ∈ chameleonHints l, hintMatches l hint c = false

section

variable {m m' : Model} {l : Library} {members : List MemberDecl} {id : LibraryId}
  {fs : Findings} {ns : String} (hadd : m.addLibrary l members = (m', some id, fs))

include hadd

/-! ## What was there stays -/

theorem library?_of_addLibrary {k : LibraryId} {l₀ : Library} (h : m.library? k = some l₀) :
    m'.library? k = some l₀ := by
  have hne : k ≠ id := by
    rintro rfl
    have hlt := library?_lt h
    rw [(addLibrary_some hadd).1] at hlt
    exact Nat.lt_irrefl _ hlt
  rw [library?_addLibrary hadd, if_neg hne, h]

theorem entity?_of_addLibrary {x : EntityId} {e : NamedEntity} (h : m.entity? x = some e) :
    m'.entity? x = some e := by
  rw [entity?_addLibrary hadd, if_pos (entity?_lt h), h]

theorem owner?_of_addLibrary {x : EntityId} {k : Library} (h : m.owner? x = some k) :
    m'.owner? x = some k := by
  obtain ⟨e, he, hk⟩ := Option.bind_eq_some_iff.mp h
  rw [owner?, entity?_of_addLibrary hadd he]
  exact library?_of_addLibrary hadd hk

variable (hm : m.WellFormed)

include hm

theorem libraryEntities_addLibrary {c : Library} (hc : c ∈ m.libraries) :
    m'.libraryEntities c.id = m.libraryEntities c.id := by
  have hlibrary := hm.library?_of_mem hc
  rw [libraryEntities, libraryEntities, library?_of_addLibrary hadd hlibrary, hlibrary]
  refine List.filterMap_congr fun x hx => ?_
  obtain ⟨e, he, -⟩ := hm.member hlibrary hx
  rw [entity?_of_addLibrary hadd he, he]

theorem contributed?_addLibrary {c : Library} (hc : c ∈ m.libraries) (name : String) :
    m'.contributed? c name = m.contributed? c name := by
  rw [contributed?, contributed?, broughtBy, broughtBy, libraryEntities_addLibrary hadd hm hc]

variable (hnew : m.Unrelated l ns)

include hnew

/-! ## What libraries bring -/

omit hadd hm in
theorem isChameleon_numbered (members : List MemberDecl) :
    (m.numbered l members).isChameleon = false := by
  show l.ns.isNone = false
  rw [hnew.own]
  rfl

omit hm in
/-- The new library is no host of the others. -/
theorem hostsFor_addLibrary {c : Library} (hc : c ∈ m.libraries) (hns : c.isChameleon = true) :
    m'.hostsFor c = m.hostsFor c := by
  have hnone : ¬ ((chameleonHints l).any fun hint => hintMatches l hint c) = true := by
    intro hany
    obtain ⟨hint, hhint, hmatch⟩ := List.any_eq_true.mp hany
    rw [hnew.apart c hc hns hint hhint] at hmatch
    cases hmatch
  have hlast : [m.numbered l members].filterMap (fun k =>
      if (chameleonHints k).any fun hint => hintMatches k hint c then k.ns else none) = [] :=
    List.filterMap_cons_none (if_neg hnone)
  rw [hostsFor, hostsFor, libraries_addLibrary hadd, List.filterMap_append, hlast,
    List.append_nil]

omit hm in
theorem chameleonHosts_addLibrary : m'.chameleonHosts = m.chameleonHosts := by
  have hlast : [m.numbered l members].filter Library.isChameleon = [] :=
    List.filter_cons_of_neg (by rw [isChameleon_numbered hnew]; decide)
  rw [chameleonHosts, chameleonHosts, libraries_addLibrary hadd, List.filter_append, hlast,
    List.append_nil]
  refine congrArg (List.filter _) (List.map_congr_left fun c hc => ?_)
  obtain ⟨hc, hns⟩ := List.mem_filter.mp hc
  rw [hostsFor_addLibrary hadd hnew hc hns]

omit hm in
theorem hostedIn_addLibrary (n : String) : m'.hostedIn n = m.hostedIn n := by
  have hlast : [m.numbered l members].filter
      (fun k => k.isChameleon && (m'.hostsFor k).contains n) = [] :=
    List.filter_cons_of_neg (by rw [isChameleon_numbered hnew, Bool.false_and]; decide)
  rw [hostedIn, hostedIn, libraries_addLibrary hadd, List.filter_append, hlast, List.append_nil]
  refine List.filter_congr fun c hc => ?_
  cases hns : c.isChameleon with
  | false => rfl
  | true => rw [hostsFor_addLibrary hadd hnew hc hns]

/-- Hosted libraries bring to each namespace what they brought. -/
theorem hosted_addLibrary (n name : String) : m'.hosted n name = m.hosted n name := by
  rw [hosted, hosted, hostedIn_addLibrary hadd hnew]
  refine List.filterMap_congr fun c hc => ?_
  rw [contributed?_addLibrary hadd hm (List.mem_filter.mp hc).1]

/-- A namespace other than the new one has the libraries that it had, with what they
brought. -/
theorem native?_addLibrary {n : String} (hne : n ≠ ns) (name : String) :
    m'.native? n name = m.native? n name := by
  have hlast : [m.numbered l members].filter (fun k => k.ns = some n) = [] := by
    refine List.filter_cons_of_neg ?_
    show ¬ decide (l.ns = some n) = true
    rw [hnew.own, decide_eq_true_eq, Option.some.injEq]
    exact hne.symm
  rw [native?, native?, librariesIn, librariesIn, libraries_addLibrary hadd, List.filter_append,
    hlast, List.append_nil]
  refine findSome?_congr fun c hc => ?_
  exact contributed?_addLibrary hadd hm (List.mem_filter.mp hc).1 name

omit hadd hm in
/-- The new namespace shows none of the old libraries. -/
theorem not_shows_of_unrelated (k : Library) : ¬ m.Shows ns k := by
  intro hshows
  obtain ⟨k, hk, hns⟩ := hshows.exists_native
  exact hnew.fresh k hk hns

/-! ## The table -/

theorem lookup_addLibrary {n : String} (hne : n ≠ ns) (name : String) :
    m'.buildSymbols.1.lookup n name = m.buildSymbols.1.lookup n name := by
  rw [(built_buildSymbols (wellFormed_added hm hadd)).lookup, (built_buildSymbols hm).lookup,
    hosted_addLibrary hadd hm hnew, native?_addLibrary hadd hm hnew hne]

theorem isAmbiguous_addLibrary {n : String} (hne : n ≠ ns) (name : String) :
    m'.buildSymbols.1.isAmbiguous n name = m.buildSymbols.1.isAmbiguous n name := by
  rw [(built_buildSymbols (wellFormed_added hm hadd)).isAmbiguous,
    (built_buildSymbols hm).isAmbiguous, hosted_addLibrary hadd hm hnew,
    native?_addLibrary hadd hm hnew hne]

omit hadd in
/-- Before it is added, nothing is found in the new namespace. -/
theorem lookup_unrelated (name : String) : m.buildSymbols.1.lookup ns name = none := by
  cases hfound : m.buildSymbols.1.lookup ns name with
  | none => rfl
  | some s =>
    rw [(built_buildSymbols hm).lookup] at hfound
    obtain ⟨k, hshows, -⟩ := provided_of_merged hfound
    exact absurd hshows (not_shows_of_unrelated hnew k)

/-- What is found in the new namespace belongs to an entity of the new library. -/
theorem owner_of_lookup_own {name : String} {s : Symbol}
    (h : m'.buildSymbols.1.lookup ns name = some s) :
    ∃ e, m'.entity? s.owner = some e ∧ m.entity? s.owner = none := by
  have hm' := wellFormed_added hm hadd
  rw [(built_buildSymbols hm').lookup] at h
  obtain ⟨k, hshows, hbrings⟩ := provided_of_merged h
  obtain ⟨e, he, hname⟩ := mem_of_contributed? hbrings
  obtain ⟨hlive, hlibrary⟩ := hm'.mem_libraryEntities_iff.mp he
  rw [(localName?_of_symbolNames hlive hname).1]
  refine ⟨e, hlive, ?_⟩
  -- an old entity has an old library, and those do not show in the namespace
  cases hold : m.entity? e.id with
  | none => rfl
  | some e₀ =>
    have hsame := entity?_of_addLibrary hadd hold
    rw [hlive, Option.some.injEq] at hsame
    subst hsame
    obtain ⟨k₀, hk₀, -⟩ := hm.listed hold
    have hk := hm'.library?_of_mem hshows.mem_libraries
    rw [← hlibrary, library?_of_addLibrary hadd hk₀, Option.some.injEq] at hk
    subst hk
    refine absurd ?_ (not_shows_of_unrelated hnew k₀)
    have hmem : k₀ ∈ m.libraries := mem_libraries.mpr ⟨_, hk₀⟩
    rcases hshows with hshows | hshows
    · exact Or.inl (List.mem_filter.mpr ⟨hmem, (List.mem_filter.mp hshows).2⟩)
    · rw [hostedIn_addLibrary hadd hnew] at hshows
      exact Or.inr hshows

omit hm in
theorem assignPrefixes_addLibrary :
    m'.assignPrefixes {} = (m.assignPrefixes {}).assignPrefix ns l.nsPrefix := by
  have hns : (m.numbered l members).ns = some ns := hnew.own
  rw [assignPrefixes, assignPrefixes, libraries_addLibrary hadd, List.foldl_append]
  simp only [List.foldl_cons, List.foldl_nil, hns]
  rfl

omit hm in
/-- The other namespaces keep their prefixes. -/
theorem prefixFor_addLibrary {n : String} (hne : n ≠ ns) :
    m'.buildSymbols.1.prefixFor n = m.buildSymbols.1.prefixFor n := by
  rw [SymbolTable.prefixFor, SymbolTable.prefixFor, prefixes_buildSymbols, prefixes_buildSymbols,
    assignPrefixes_addLibrary hadd hnew]
  exact SymbolTable.prefixFor_assignPrefix hne _

omit hm in
/-- A prefix keeps its namespace, and one that had none can only get the new one. -/
theorem namespaceFor_addLibrary (p : String) :
    m'.buildSymbols.1.namespaceFor p = m.buildSymbols.1.namespaceFor p ∨
      (m.buildSymbols.1.namespaceFor p = none ∧ m'.buildSymbols.1.namespaceFor p = some ns) := by
  rw [SymbolTable.namespaceFor, SymbolTable.namespaceFor, prefixes_buildSymbols,
    prefixes_buildSymbols, assignPrefixes_addLibrary hadd hnew]
  exact SymbolTable.namespaceFor_assignPrefix _ ns l.nsPrefix p

/-! ## References -/

theorem effectiveNamespaces_addLibrary {x : EntityId} {k : Library} (hx : m.owner? x = some k) :
    m'.effectiveNamespaces m'.buildSymbols.1 x = m.effectiveNamespaces m.buildSymbols.1 x := by
  have hhosts : m'.buildSymbols.1.hosts = m.buildSymbols.1.hosts := by
    rw [(built_buildSymbols (wellFormed_added hm hadd)).hosts, (built_buildSymbols hm).hosts,
      chameleonHosts_addLibrary hadd hnew]
  rw [m'.effectiveNamespaces_congr hhosts, effectiveNamespaces, effectiveNamespaces, hx,
    owner?_of_addLibrary hadd hx]

/-- A reference is looked up where it was, or in the new namespace where it was looked up
nowhere. -/
theorem candidates_addLibrary {x : EntityId} {k : Library} (hx : m.owner? x = some k)
    (r : Reference) :
    m'.candidates m'.buildSymbols.1 k x r = m.candidates m.buildSymbols.1 k x r ∨
      (m.candidates m.buildSymbols.1 k x r = [] ∧
        m'.candidates m'.buildSymbols.1 k x r = [ns]) := by
  rw [candidates, candidates]
  cases r.parts.1 with
  | none =>
    left
    dsimp only
    rw [effectiveNamespaces_addLibrary hadd hm hnew hx]
  | some p =>
    dsimp only
    -- a prefix that the library declares does not depend on the others
    cases k.namespaceForPrefix p with
    | some n => exact Or.inl rfl
    | none =>
      rw [Option.none_or, Option.none_or]
      rcases namespaceFor_addLibrary hadd hnew p with hsame | ⟨hnone, hown⟩
      · exact Or.inl (congrArg Option.toList hsame)
      · rw [hnone, hown]
        exact Or.inr ⟨rfl, rfl⟩

omit hadd in
/-- No other namespace comes after the new one. -/
theorem not_mem_dropLast_candidates {x : EntityId} {k : Library} (hx : m.owner? x = some k)
    (r : Reference) : ns ∉ (m.candidates m.buildSymbols.1 k x r).dropLast := by
  rw [candidates]
  cases r.parts.1 with
  | none =>
    dsimp only
    rw [List.dropLast_concat, mem_effectiveNamespaces hm (built_buildSymbols hm).hosts hx]
    exact not_shows_of_unrelated hnew k
  | some p =>
    dsimp only
    cases (k.namespaceForPrefix p).or (m.buildSymbols.1.namespaceFor p) with
    | none => exact List.not_mem_nil
    | some n => exact List.not_mem_nil

/-- For a reference is found what was found, or else what the new namespace has, if it is
looked up there. -/
theorem found?_addLibrary {x : EntityId} {k : Library} (hx : m.owner? x = some k)
    (r : Reference) :
    m'.found? m'.buildSymbols.1 k x r = (m.found? m.buildSymbols.1 k x r).or
      (if ns ∈ m'.candidates m'.buildSymbols.1 k x r then
        m'.buildSymbols.1.lookup ns r.localName
      else none) := by
  rw [found?, found?]
  rcases candidates_addLibrary hadd hm hnew hx r with hsame | ⟨hnone, hown⟩
  · rw [hsame]
    exact findSome?_eq_or (not_mem_dropLast_candidates hm hnew hx r)
      (lookup_unrelated hm hnew r.localName)
      fun n hne => lookup_addLibrary hadd hm hnew hne r.localName
  · rw [hnone, hown, if_pos (List.mem_singleton_self ns), List.findSome?_singleton]
    rfl

/-- A bound reference stands for what it stood for, unless nothing was found for it and the
new namespace, in which it is looked up now, has its name. -/
theorem resolve_addLibrary {x : EntityId} {k : Library} (hx : m.owner? x = some k)
    {r : Reference} {s : Symbol} (h : m.resolve m.buildSymbols.1 k x r = some s) :
    m'.resolve m'.buildSymbols.1 k x r = some s ↔
      ¬ (m.found? m.buildSymbols.1 k x r = none ∧
        ns ∈ m'.candidates m'.buildSymbols.1 k x r ∧
        m'.buildSymbols.1.lookup ns r.localName ≠ none) := by
  have hk : k ∈ m.libraries := by
    obtain ⟨e, -, hk⟩ := Option.bind_eq_some_iff.mp hx
    exact mem_libraries.mpr ⟨_, hk⟩
  have hlive := (resolve_spec hm (built_buildSymbols hm) h).1
  rw [resolve_eq] at h
  rw [resolve_eq, found?_addLibrary hadd hm hnew hx, libraryEntities_addLibrary hadd hm hk]
  cases hfound : m.found? m.buildSymbols.1 k x r with
  | some s₀ =>
    rw [hfound] at h
    exact ⟨fun _ hnone => absurd hnone.1 (by simp), fun _ => h⟩
  | none =>
    rw [hfound, Option.none_or] at h
    rw [Option.none_or, h]
    by_cases hasked : ns ∈ m'.candidates m'.buildSymbols.1 k x r
    · rw [if_pos hasked]
      cases hown : m'.buildSymbols.1.lookup ns r.localName with
      | none => exact ⟨fun _ hne => hne.2.2 rfl, fun _ => rfl⟩
      | some s' =>
        -- the new symbol belongs to the new library, so it is another one
        obtain ⟨e, -, hnone⟩ := owner_of_lookup_own hadd hm hnew hown
        refine ⟨fun heq => ?_, fun hne => absurd ⟨rfl, hasked, by simp⟩ hne⟩
        rw [Option.some_or, Option.some.injEq] at heq
        obtain ⟨e₀, he₀⟩ := hlive
        rw [← heq, hnone] at he₀
        cases he₀
    · rw [if_neg hasked]
      exact ⟨fun _ hne => hasked hne.2.1, fun _ => rfl⟩

end

/-! ## Refreshed models -/

/-- A reference of a library without a namespace that is found in no namespace of one model,
but in a given namespace of another one. -/
structure Diverted (old new : Model) (ns : String) (l : Library) (id : EntityId)
    (r : Reference) : Prop where
  chameleon : l.isChameleon = true
  missing : ∀ n ∈ old.candidates old.symbols l id r, old.plainLookup n r.localName = none
  asked : ns ∈ new.candidates new.symbols l id r
  answered : new.plainLookup ns r.localName ≠ none

theorem candidates_of_refresh {m : Model} (hm : m.WellFormed) (l : Library) (id : EntityId)
    (r : Reference) :
    m.refresh.1.candidates m.refresh.1.symbols l id r = m.candidates m.buildSymbols.1 l id r := by
  rw [candidates_refresh, ← (sameDeclarations_refresh hm).candidates]

theorem diverted_refresh_iff {m m' : Model} (hm : m.WellFormed) (hm' : m'.WellFormed) {ns : String}
    {l : Library} {id : EntityId} {r : Reference} :
    Diverted m.refresh.1 m'.refresh.1 ns l id r ↔
      l.isChameleon = true ∧ m.found? m.buildSymbols.1 l id r = none ∧
        ns ∈ m'.candidates m'.buildSymbols.1 l id r ∧
        m'.buildSymbols.1.lookup ns r.localName ≠ none := by
  have hmissing : m.found? m.buildSymbols.1 l id r = none ↔
      ∀ n ∈ m.refresh.1.candidates m.refresh.1.symbols l id r,
        m.refresh.1.plainLookup n r.localName = none := by
    rw [found?, List.findSome?_eq_none_iff, candidates_of_refresh hm]
    simp only [plainLookup_refresh hm]
  rw [hmissing, ← candidates_of_refresh hm', ← plainLookup_refresh hm']
  constructor
  · intro h
    exact ⟨h.chameleon, h.missing, h.asked, h.answered⟩
  · rintro ⟨hns, hmissing, hasked, hanswered⟩
    exact ⟨hns, hmissing, hasked, hanswered⟩

section

variable {m m' : Model} {l : Library} {members : List MemberDecl} {id : LibraryId}
  {fs : Findings} {ns : String} (hm : m.WellFormed)
  (hadd : m.addLibrary l members = (m', some id, fs)) (hnew : m.Unrelated l ns)

include hm hadd hnew

/-- After a refresh the references of an entity have the names that they had, and a bound
one has the target that it had if and only if it is not diverted. -/
theorem refs_refresh_addLibrary {x : EntityId} {e : NamedEntity}
    (he : m.refresh.1.entity? x = some e) :
    ∃ e' k, m'.refresh.1.entity? x = some e' ∧ e'.declared = e.declared ∧
      m.refresh.1.library? e.library = some k ∧
      List.Forall₂ (fun r r' => r'.name = r.name ∧ ∀ s, r.target = some s →
        (r'.target = some s ↔ ¬ Diverted m.refresh.1 m'.refresh.1 ns k x r))
        (refs e.body) (refs e'.body) := by
  have hm' := wellFormed_added hm hadd
  rw [entity?_refresh] at he
  obtain ⟨e₀, he₀, rfl⟩ := Option.map_eq_some_iff.mp he
  obtain ⟨k, howner, hlibrary⟩ := hm.owner?_eq he₀
  have he₀' := entity?_of_addLibrary hadd he₀
  refine ⟨m'.bindEntity m'.buildSymbols.1 e₀, k, ?_, ?_, hlibrary, ?_⟩
  · rw [entity?_refresh, he₀']
    rfl
  · rw [declared_bindEntity hm' _ he₀', declared_bindEntity hm _ he₀]
  · -- both lists are made of the declared references, one by one
    rw [refs_bindEntity hm _ he₀ howner,
      refs_bindEntity hm' _ he₀' (owner?_of_addLibrary hadd howner), List.forall₂_map_left_iff,
      List.forall₂_map_right_iff]
    refine List.forall₂_same.mpr fun r _ => ⟨rfl, fun s hs => ?_⟩
    have hkept := resolve_addLibrary hadd hm hnew howner (r := r) hs
    refine hkept.trans (not_congr ?_)
    refine Iff.trans ?_ (diverted_refresh_iff hm hm').symm
    refine ⟨fun h => ⟨?_, h⟩, fun h => h.2⟩
    -- where nothing is found, only a library without a namespace binds a reference
    by_contra hns
    rw [resolve_eq, h.1, if_neg hns] at hs
    cases hs

/-- After a refresh the other namespaces have the prefixes, names and ambiguities that they
had. -/
theorem table_refresh_addLibrary {n : String} (hne : n ≠ ns) :
    m'.refresh.1.symbols.prefixFor n = m.refresh.1.symbols.prefixFor n ∧
      ∀ name, m'.refresh.1.plainLookup n name = m.refresh.1.plainLookup n name ∧
        m'.refresh.1.symbols.isAmbiguous n name = m.refresh.1.symbols.isAmbiguous n name := by
  have hm' := wellFormed_added hm hadd
  refine ⟨?_, fun name => ⟨?_, ?_⟩⟩
  · rw [prefixFor_refresh, prefixFor_refresh, prefixFor_addLibrary hadd hnew hne]
  · rw [plainLookup_refresh hm', plainLookup_refresh hm, lookup_addLibrary hadd hm hnew hne]
  · rw [isAmbiguous_refresh, isAmbiguous_refresh, isAmbiguous_addLibrary hadd hm hnew hne]

end

/-! ## Assembled models -/

/-- The additions that some modules stand for. -/
def additions (builtIn : Bool) (ms : List LibraryModule) : List Change :=
  ms.map fun m => .add (libraryOf m builtIn) m.members

theorem addModules_eq (model : Model) (builtIn : Bool) (ms : List LibraryModule) :
    (model.addModules builtIn ms).1 = (additions builtIn ms).foldl Change.apply model := by
  -- the findings go along and do not matter
  have hrun : ∀ r : Model × Findings,
      (ms.foldl (fun r m =>
        ((r.1.addModule m builtIn).1, r.2 ++ (r.1.addModule m builtIn).2.2)) r).1 =
        (additions builtIn ms).foldl Change.apply r.1 := by
    induction ms with
    | nil => exact fun r => rfl
    | cons m rest ih => exact fun r => ih _
  exact hrun (model, [])

/-- An assembled model is a refreshed run of additions. -/
theorem assemble_eq (ms builtIns : List LibraryModule) :
    (assemble ms builtIns).1 = (run (additions true builtIns ++ additions false ms)).refresh.1 := by
  rw [run_append, run, ← addModules_eq, ← addModules_eq]
  rfl

/-- A library with a new namespace is not refused. -/
theorem exists_addLibrary_of_unrelated {cs : List Change} {l : Library} {ns : String}
    (h : (run cs).Unrelated l ns) (members : List MemberDecl) :
    ∃ m', (run cs).addLibrary l members = (m', some (run cs).nextLibrary, []) := by
  rcases (run cs).addLibrary_eq l members with ⟨htaken, -⟩ | ⟨-, haccepted⟩
  · obtain ⟨k, hfound⟩ := Option.ne_none_iff_exists'.mp htaken
    obtain ⟨k, hk, hns, -⟩ :=
      (findLibrary?_eq_some_iff (wellFormed_run cs) (inStep_run cs)).mp hfound
    exact absurd (hns.trans h.own) (h.fresh k (mem_libraries.mpr ⟨_, hk⟩))
  · exact haccepted

/-- A module that has nothing to do with those before it changes nothing of what was
assembled from them, but for diverted references. Libraries and entities keep their numbers
and what they declare; a bound reference keeps its target if and only if it is not diverted;
and each namespace keeps its prefix, what its names stand for, ghosts apart, and which of
them are ambiguous. -/
theorem assemble_unrelated (ms builtIns : List LibraryModule) (m : LibraryModule) (ns : String)
    (hnew : (assemble ms builtIns).1.Unrelated (libraryOf m false) ns) :
    let old := (assemble ms builtIns).1
    let new := (assemble (ms ++ [m]) builtIns).1
    (∀ id l, old.library? id = some l → new.library? id = some l) ∧
    (∀ id e, old.entity? id = some e → ∃ e' l, new.entity? id = some e' ∧
      e'.declared = e.declared ∧ old.library? e.library = some l ∧
      List.Forall₂ (fun r r' => r'.name = r.name ∧ ∀ s, r.target = some s →
        (r'.target = some s ↔ ¬ Diverted old new ns l id r)) (refs e.body) (refs e'.body)) ∧
    ∀ l ∈ old.libraries, ∀ n, l.ns = some n →
      new.symbols.prefixFor n = old.symbols.prefixFor n ∧
      ∀ name, new.plainLookup n name = old.plainLookup n name ∧
        new.symbols.isAmbiguous n name = old.symbols.isAmbiguous n name := by
  intro old new
  have hold : old = _ := assemble_eq ms builtIns
  have hnew' : new = _ := assemble_eq (ms ++ [m]) builtIns
  generalize hcs : additions true builtIns ++ additions false ms = cs at hold
  have hmore : additions true builtIns ++ additions false (ms ++ [m]) =
      cs ++ [.add (libraryOf m false) m.members] := by
    rw [← hcs, additions, additions, additions, List.map_append, List.append_assoc]
    rfl
  rw [hmore, run_append] at hnew'
  have hm := wellFormed_run cs
  have hlibraries : old.libraries = (run cs).libraries := by
    rw [hold, (sameDeclarations_refresh hm).libraries]
  have hunrelated : (run cs).Unrelated (libraryOf m false) ns :=
    ⟨hnew.own, hlibraries ▸ hnew.fresh, hlibraries ▸ hnew.apart⟩
  obtain ⟨m', hadd⟩ := exists_addLibrary_of_unrelated hunrelated m.members
  have happly : [Change.add (libraryOf m false) m.members].foldl Change.apply (run cs) = m' :=
    congrArg Prod.fst hadd
  rw [happly] at hnew'
  rw [hold, hnew']
  refine ⟨fun id l hl => library?_of_addLibrary hadd hl,
    fun id e he => refs_refresh_addLibrary hm hadd hunrelated he, fun l hl n hn => ?_⟩
  refine table_refresh_addLibrary hm hadd hunrelated ?_
  rintro rfl
  rw [← hold] at hl
  exact hnew.fresh l hl hn

/-! ### A diverted reference -/

/-- A module in a file of its name. -/
def sampleModule (name : String) (ns : Option String) (imports : List ImportDecl)
    (includes : List String) (members : List MemberDecl) : LibraryModule :=
  { url := { scheme := "file", authority := none, path := .rooted [name ++ ".otm"], query := none
             fragment := none }
    grammar := .v1_6
    header := { name, ns, nsPrefix := some name, version := none, status := .draft
                documentation := none }
    imports, includes, contexts := [], members }

/-- A shop takes in a library without a namespace. There an item is based on a code of a
namespace that is not loaded, and a stock on the code of the library itself. -/
def waresModules : List LibraryModule :=
  [sampleModule "Shop" (some "urn:shop") [] ["Wares.otm"] [],
    sampleModule "Wares" none
      [{ ns := some "urn:codes", nsPrefix := some "c", fileHints := [] }] []
      [sampleMember "Code" (.simpleType {}),
        sampleMember "Item" (.simpleType { base := some (.unbound "c:Code") }),
        sampleMember "Stock" (.simpleType { base := some (.unbound "Code") })]]

/-- The module of the codes. -/
def codesModule : LibraryModule :=
  sampleModule "Codes" (some "urn:codes") [] ["Marks.otm"] [sampleMember "Code" (.simpleType {})]

theorem unrelated_codesModule :
    (assemble waresModules []).1.Unrelated (libraryOf codesModule false) "urn:codes" :=
  ⟨rfl, by decide +kernel, by decide +kernel⟩

/-- The stock is based on the code of its library with and without the module of the codes,
and the shop keeps its prefix and its code. -/
theorem waresModules_kept :
    let old := (assemble waresModules []).1
    let new := (assemble (waresModules ++ [codesModule]) []).1
    old.Unrelated (libraryOf codesModule false) "urn:codes" ∧
      (∃ e, new.entity? ⟨2⟩ = some e ∧
        refs e.body = [{ name := "Code", target := some (.entity ⟨0⟩) }]) ∧
      new.symbols.prefixFor "urn:shop" = some "Shop" ∧
      new.plainLookup "urn:shop" "Code" = some (.entity ⟨0⟩) := by
  intro old new
  obtain ⟨-, hrefs, htable⟩ := assemble_unrelated waresModules [] codesModule "urn:codes"
    unrelated_codesModule
  let code : Reference := { name := "Code", target := some (.entity ⟨0⟩) }
  let stock : NamedEntity :=
    { id := ⟨2⟩, library := ⟨1⟩, name := "Stock", documentation := none
      body := .simpleType { base := some code } }
  have hcode : old.plainLookup "urn:shop" "Code" = some (.entity ⟨0⟩) := by decide +kernel
  obtain ⟨e, l, he, -, hl, hsame⟩ := hrefs ⟨2⟩ stock (by decide +kernel)
  refine ⟨unrelated_codesModule, ⟨e, he, ?_⟩, ?_⟩
  · -- the reference is found in the namespace of the shop, so it is not diverted
    have hkept : ¬ Diverted old new "urn:codes" l ⟨2⟩ code := by
      intro hdiverted
      have hseen : "urn:shop" ∈ old.effectiveNamespaces old.symbols ⟨2⟩ := by decide +kernel
      have hasked : "urn:shop" ∈ old.candidates old.symbols l ⟨2⟩ code := by
        rw [candidates, show code.parts = (none, "Code") by decide +kernel]
        exact List.mem_append_left _ hseen
      have hmissing := hdiverted.missing "urn:shop" hasked
      rw [show code.localName = "Code" by decide +kernel, hcode] at hmissing
      cases hmissing
    obtain ⟨r', hr', hname, htarget⟩ : ∃ r', refs e.body = [r'] ∧ r'.name = "Code" ∧
        r'.target = some (.entity ⟨0⟩) := by
      generalize refs e.body = rs at hsame
      obtain _ | ⟨⟨hname, htarget⟩, _ | _⟩ := hsame
      exact ⟨_, rfl, hname, (htarget _ rfl).mpr hkept⟩
    rw [hr']
    cases r'
    cases hname
    cases htarget
    rfl
  · have hshop : ∃ k ∈ old.libraries, k.ns = some "urn:shop" := by decide +kernel
    obtain ⟨k, hk, hns⟩ := hshop
    obtain ⟨hshown, hnames⟩ := htable k hk "urn:shop" hns
    refine ⟨hshown.trans (by decide +kernel), (hnames "Code").1.trans hcode⟩

/-- The item is based on the code of its own library, although the reference names another
namespace, and on the other code once that namespace is there. -/
theorem waresModules_diverted :
    let old := (assemble waresModules []).1
    let new := (assemble (waresModules ++ [codesModule]) []).1
    old.Unrelated (libraryOf codesModule false) "urn:codes" ∧
      (old.entity? ⟨1⟩).map (fun e => refs e.body) =
        some [{ name := "c:Code", target := some (.entity ⟨0⟩) }] ∧
      (new.entity? ⟨1⟩).map (fun e => refs e.body) =
        some [{ name := "c:Code", target := some (.entity ⟨3⟩) }] := by
  refine ⟨unrelated_codesModule, ?_, ?_⟩
  · decide +kernel
  · decide +kernel

end Model

end TravelModel
