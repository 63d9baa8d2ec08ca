import TravelModel.Proofs.Arena
import TravelModel.Proofs.SymbolTable

/-!
# TravelModel — what libraries bring to namespaces

A library brings the names of its members to its own namespace, or, if it
has none, to the namespaces of its hosts. The program collects what hosted
libraries bring in one keyed list; here that list is computed exactly: under
each namespace and name stands, for each hosted library that brings the
name, the first symbol it brings, in the order of the libraries.

Main results:

* `given_contributions` — the collected list, name by name, is
  `Model.hosted`.
* `first?_nativeNames` — the first native name is `Model.native?`.
-/

namespace TravelModel.Model

/-! ## Brought names -/

/-- What a library brings, in the order of declaration. -/
def broughtBy (m : Model) (id : LibraryId) : Keyed Symbol :=
  (m.libraryEntities id).flatMap NamedEntity.symbolNames

/-- What a library brings under a name: the first symbol it declares. -/
def contributed? (m : Model) (l : Library) (name : String) : Option Symbol :=
  (m.broughtBy l.id).find? name

/-- A library brings a name: one of its members has it as name, alias or fixed
facet. -/
def Brings (m : Model) (l : Library) (name : String) : Prop :=
  ∃ e ∈ m.libraryEntities l.id, ∃ s, (name, s) ∈ e.symbolNames

/-- The libraries without a namespace that a namespace hosts. -/
def hostedIn (m : Model) (ns : String) : List Library :=
  m.libraries.filter fun l => l.isChameleon && (m.hostsFor l).contains ns

/-- What a namespace has under a name from its own libraries: the first symbol,
in the order of libraries and declarations. -/
def native? (m : Model) (ns name : String) : Option Symbol :=
  (m.librariesIn ns).findSome? fun l => m.contributed? l name

/-- What the hosted libraries bring to a namespace under a name, by library. -/
def hosted (m : Model) (ns name : String) : List (LibraryId × Symbol) :=
  (m.hostedIn ns).filterMap fun l => (m.contributed? l name).map fun s => (l.id, s)

theorem brings_iff {m : Model} {l : Library} {name : String} :
    m.Brings l name ↔ ∃ s, m.contributed? l name = some s := by
  have hmem : m.Brings l name ↔ ∃ s, (name, s) ∈ m.broughtBy l.id := by
    constructor
    · rintro ⟨e, he, s, hs⟩
      exact ⟨s, List.mem_flatMap.mpr ⟨e, he, hs⟩⟩
    · rintro ⟨s, hs⟩
      obtain ⟨e, he, hs⟩ := List.mem_flatMap.mp hs
      exact ⟨e, he, s, hs⟩
  rw [hmem, ← Option.isSome_iff_exists, Option.isSome_iff_ne_none, Ne, contributed?,
    Keyed.find?_eq_none_iff, not_forall]
  simp only [not_not]

theorem contributed?_eq_none_iff {m : Model} {l : Library} {name : String} :
    m.contributed? l name = none ↔ ¬ m.Brings l name := by
  rw [brings_iff, ← Option.isSome_iff_exists, Option.not_isSome_iff_eq_none]

instance (m : Model) (l : Library) (name : String) : Decidable (m.Brings l name) :=
  decidable_of_iff ((m.contributed? l name).isSome = true) <| by
    rw [brings_iff, Option.isSome_iff_exists]

/-- What is found of a library comes from one of its members. -/
theorem mem_of_contributed? {m : Model} {l : Library} {name : String} {s : Symbol}
    (h : m.contributed? l name = some s) :
    ∃ e ∈ m.libraryEntities l.id, (name, s) ∈ e.symbolNames :=
  List.mem_flatMap.mp (Keyed.mem_of_find? h)

/-! ## Native names -/

theorem first?_append (a b : List (String × String × String × Symbol)) (ns name : String) :
    first? (a ++ b) ns name = (first? a ns name).or (first? b ns name) := by
  rw [first?, List.find?_append, Option.map_or]
  rfl

/-- Names entered for one namespace are found in it and in no other. -/
theorem first?_map (source ns ns' name : String) (xs : Keyed Symbol) :
    first? (xs.map fun p => (source, ns, p.1, p.2)) ns' name =
      if ns' = ns then xs.find? name else none := by
  induction xs with
  | nil => simp [first?, Keyed.find?]
  | cons x rest ih =>
    rw [List.map_cons, first?_cons, ih, Keyed.find?_cons]
    by_cases hns : ns' = ns
    · simp only [hns, if_true, true_and]
    · simp only [hns, if_false, false_and]

/-- The native names of a library are what it brings, under its namespace. -/
theorem nativeNames_eq (m : Model) :
    m.nativeNames = m.libraries.flatMap fun l =>
      match l.ns with
      | none => []
      | some ns => (m.broughtBy l.id).map fun p => (l.identity, ns, p.1, p.2) := by
  refine List.flatMap_congr fun l _ => ?_
  cases l.ns with
  | none => rfl
  | some ns =>
    dsimp only
    rw [broughtBy, List.map_flatMap]

/-- The first native name is found library by library. -/
theorem first?_nativeNames (m : Model) (ns name : String) :
    first? m.nativeNames ns name = m.native? ns name := by
  rw [nativeNames_eq, native?, librariesIn]
  induction m.libraries with
  | nil => rfl
  | cons l rest ih =>
    rw [List.flatMap_cons, first?_append, ih]
    cases hns : l.ns with
    | none =>
      rw [List.filter_cons_of_neg (by simp [hns])]
      rfl
    | some ns' =>
      dsimp only
      rw [first?_map]
      by_cases heq : ns = ns'
      · rw [if_pos heq, List.filter_cons_of_pos (by simp [hns, heq]), List.findSome?_cons]
        show (m.contributed? l name).or _ = _
        cases m.contributed? l name with
        | none => rfl
        | some s => rfl
      · rw [if_neg heq, List.filter_cons_of_neg (by simp [hns, Ne.symm heq])]
        rfl

/-! ## Collected names -/

/-- What is collected under a namespace and a name. -/
def given (cs : Contributions) (ns name : String) : List (LibraryId × Symbol) :=
  (cs.findPair? ns name).getD []

/-- Adds what a library brings under a name, unless the library is there. -/
def extend (given : List (LibraryId × Symbol)) (library : LibraryId) (s : Option Symbol) :
    List (LibraryId × Symbol) :=
  if given.any fun g => g.1 = library then given
  else given ++ (s.map fun s => (library, s)).toList

theorem extend_none (given : List (LibraryId × Symbol)) (library : LibraryId) :
    extend given library none = given := by
  rw [extend]
  split
  · rfl
  · exact List.append_nil given

theorem extend_extend_some (given : List (LibraryId × Symbol)) (library : LibraryId)
    (s : Symbol) (o : Option Symbol) :
    extend (extend given library (some s)) library o = extend given library (some s) := by
  have hany : ((extend given library (some s)).any fun g => g.1 = library) = true := by
    rw [extend]
    split
    · next h => exact h
    · simp
  generalize extend given library (some s) = added at hany ⊢
  rw [extend, if_pos hany]

theorem extend_extend (given : List (LibraryId × Symbol)) (library : LibraryId)
    (o : Option Symbol) : extend (extend given library o) library o = extend given library o := by
  cases o with
  | none => rw [extend_none, extend_none]
  | some s => exact extend_extend_some given library s (some s)

/-- Collecting one name adds to what is collected under it and nothing else. -/
theorem given_contribute (cs : Contributions) (ns name ns' name' : String) (library : LibraryId)
    (s : Symbol) :
    given (contribute cs ns name library s) ns' name' =
      if ns' = ns ∧ name' = name then extend (given cs ns name) library (some s)
      else given cs ns' name' := by
  have hstep : contribute cs ns name library s =
      if (given cs ns name).any fun g => g.1 = library then cs
      else cs.insert ns
        (((cs.find? ns).getD []).insert name (given cs ns name ++ [(library, s)])) := by
    rw [given, Keyed.findPair?_eq]
    rfl
  rw [hstep, extend]
  split
  · split
    · next hkey => rw [hkey.1, hkey.2]
    · rfl
  · rw [given, Keyed.findPair?_insert]
    split
    · rfl
    · rfl

/-- Collecting the names of a library for one namespace. -/
theorem given_names (xs : Keyed Symbol) (cs : Contributions) (ns ns' name : String)
    (library : LibraryId) :
    given (xs.foldl (fun cs (n, s) => contribute cs ns n library s) cs) ns' name =
      if ns' = ns then extend (given cs ns' name) library (xs.find? name)
      else given cs ns' name := by
  induction xs generalizing cs with
  | nil =>
    rw [List.foldl_nil, Keyed.find?, extend_none]
    split <;> rfl
  | cons x rest ih =>
    obtain ⟨n, s⟩ := x
    rw [List.foldl_cons, ih, given_contribute, Keyed.find?_cons]
    by_cases hns : ns' = ns
    · subst hns
      by_cases hname : name = n
      · -- once the library stands there, later symbols under the name are passed over
        simp only [hname, and_self, if_true]
        exact extend_extend_some _ _ _ _
      · simp only [hname, and_false, if_false]
    · simp only [hns, false_and, if_false]

/-- Collecting the names of a library for several namespaces. -/
theorem given_spaces (spaces : List String) (xs : Keyed Symbol) (cs : Contributions)
    (ns name : String) (library : LibraryId) :
    given (spaces.foldl (fun cs ns =>
        xs.foldl (fun cs (n, s) => contribute cs ns n library s) cs) cs) ns name =
      if ns ∈ spaces then extend (given cs ns name) library (xs.find? name)
      else given cs ns name := by
  induction spaces generalizing cs with
  | nil => rw [List.foldl_nil, if_neg List.not_mem_nil]
  | cons ns' rest ih =>
    rw [List.foldl_cons, ih, given_names]
    by_cases hns : ns = ns'
    · have hmem : ns ∈ ns' :: rest := hns ▸ List.mem_cons_self
      rw [if_pos hns, if_pos hmem]
      split
      · exact extend_extend _ _ _
      · rfl
    · rw [if_neg hns]
      simp only [List.mem_cons, hns, false_or]

theorem contributions_eq (m : Model) (hosts : List (LibraryId × List String)) :
    m.contributions hosts = hosts.foldl (fun cs (library, spaces) =>
      spaces.foldl (fun cs ns =>
        (m.broughtBy library).foldl (fun cs (n, s) => contribute cs ns n library s) cs) cs) [] :=
  rfl

/-- Collecting the names of several libraries: each that has the namespace adds
what it brings. -/
theorem given_hosts (m : Model) (hosts : List (LibraryId × List String)) (cs : Contributions)
    (ns name : String) (hnodup : (hosts.map Prod.fst).Nodup)
    (hfresh : ∀ g ∈ given cs ns name, g.1 ∉ hosts.map Prod.fst) :
    given (hosts.foldl (fun cs (library, spaces) =>
        spaces.foldl (fun cs ns =>
          (m.broughtBy library).foldl (fun cs (n, s) => contribute cs ns n library s) cs) cs)
        cs) ns name =
      given cs ns name ++ hosts.filterMap fun p =>
        if ns ∈ p.2 then ((m.broughtBy p.1).find? name).map fun s => (p.1, s) else none := by
  induction hosts generalizing cs with
  | nil => exact (List.append_nil _).symm
  | cons p rest ih =>
    obtain ⟨library, spaces⟩ := p
    obtain ⟨hhead, hrest⟩ := List.nodup_cons.mp hnodup
    -- no library comes twice, so the first one does not stand there yet
    have habsent : ¬ ((given cs ns name).any fun g => g.1 = library) = true := by
      rw [List.any_eq_true]
      rintro ⟨g, hg, heq⟩
      rw [decide_eq_true_eq] at heq
      exact hfresh g hg (heq ▸ List.mem_cons_self)
    -- what the first library adds
    have hfirst := given_spaces spaces (m.broughtBy library) cs ns name library
    rw [extend, if_neg habsent] at hfirst
    rw [List.foldl_cons, ih _ hrest, hfirst, List.filterMap_cons]
    · by_cases hns : ns ∈ spaces
      · simp only [hns, if_true]
        cases (m.broughtBy library).find? name with
        | none => simp
        | some s => simp
      · simp only [hns, if_false]
    · -- what stands there afterwards is still not of the rest
      intro g hg
      rw [hfirst] at hg
      have hold : ∀ g ∈ given cs ns name, g.1 ∉ rest.map Prod.fst := by
        intro g hg hmem
        exact hfresh g hg (List.mem_cons_of_mem _ hmem)
      split at hg
      · rcases List.mem_append.mp hg with hg | hg
        · exact hold g hg
        · obtain ⟨s, -, rfl⟩ := Option.map_eq_some_iff.mp (Option.mem_toList.mp hg)
          exact hhead
      · exact hold g hg

/-! ## The whole list -/

/-- The keys are in order and nothing stands under a name that no library
brings. -/
structure Collected (cs : Contributions) : Prop where
  ordered : Keyed.OrderedPairs cs
  given : ∀ ns name g, cs.findPair? ns name = some g → g ≠ []

theorem collected_nil : Collected [] :=
  ⟨Keyed.orderedPairs_nil, fun _ _ _ h => nomatch h⟩

theorem collected_contribute {cs : Contributions} (h : Collected cs) (ns name : String)
    (library : LibraryId) (s : Symbol) : Collected (contribute cs ns name library s) := by
  rw [contribute]
  split
  · exact h
  · refine ⟨h.ordered.insert ns (Keyed.ordered_insert (h.ordered.getD ns) name _), ?_⟩
    intro ns' name' g hg
    rw [Keyed.findPair?_insert] at hg
    split at hg
    · rw [← Option.some.inj hg]
      exact List.append_ne_nil_of_right_ne_nil _ (List.cons_ne_nil _ _)
    · exact h.given ns' name' g hg

/-- What every step of a fold keeps, the fold keeps. -/
theorem collected_foldl {β : Type} (f : Contributions → β → Contributions)
    (hf : ∀ cs b, Collected cs → Collected (f cs b)) (bs : List β) {cs : Contributions}
    (h : Collected cs) : Collected (bs.foldl f cs) := by
  induction bs generalizing cs with
  | nil => exact h
  | cons b rest ih => exact ih (hf cs b h)

theorem collected_contributions (m : Model) (hosts : List (LibraryId × List String)) :
    Collected (m.contributions hosts) := by
  refine collected_foldl _ ?_ hosts collected_nil
  intro cs p hcs
  refine collected_foldl _ ?_ p.2 hcs
  intro cs ns hcs
  refine collected_foldl _ ?_ _ hcs
  intro cs q hcs
  exact collected_contribute hcs ns q.1 p.1 q.2

theorem chameleonHosts_eq (m : Model) :
    m.chameleonHosts =
      (m.libraries.filter fun l => !(m.hostsFor l).isEmpty && l.isChameleon).map
        fun l => (l.id, m.hostsFor l) := by
  rw [chameleonHosts, List.filter_map, List.filter_filter]
  rfl

/-- The hosts of a library are found by its number. -/
theorem hostsOf_eq {m : Model} (hm : m.WellFormed) {t : SymbolTable}
    (ht : t.hosts = m.chameleonHosts) {l : Library} (hl : l ∈ m.libraries)
    (hns : l.isChameleon = true) : t.hostsOf l.id = m.hostsFor l := by
  rw [SymbolTable.hostsOf, ht, chameleonHosts_eq]
  cases hfind : List.find? (fun e => decide (e.1 = l.id))
      ((m.libraries.filter fun l => !(m.hostsFor l).isEmpty && l.isChameleon).map
        fun l => (l.id, m.hostsFor l)) with
  | some p =>
    obtain ⟨c, hc, rfl⟩ := List.mem_map.mp (List.mem_of_find?_eq_some hfind)
    have hfound := List.find?_some hfind
    have hid : c.id = l.id := of_decide_eq_true hfound
    have hsame := hm.library?_of_mem (List.mem_filter.mp hc).1
    rw [hid, hm.library?_of_mem hl] at hsame
    rw [Option.some.inj hsame]
    rfl
  | none =>
    -- a library that is not listed has no hosts
    have hnone := List.find?_eq_none.mp hfind (l.id, m.hostsFor l)
    by_cases hempty : (m.hostsFor l).isEmpty = true
    · rw [List.isEmpty_iff.mp hempty]
      rfl
    · refine absurd (decide_eq_true rfl) (hnone (List.mem_map.mpr ⟨l, ?_, rfl⟩))
      exact List.mem_filter.mpr ⟨hl, by simp [hempty, hns]⟩

/-- Under each namespace and name stands what the hosted libraries bring. -/
theorem given_contributions {m : Model} (hm : m.WellFormed) (ns name : String) :
    given (m.contributions m.chameleonHosts) ns name = m.hosted ns name := by
  have hnodup : (m.chameleonHosts.map Prod.fst).Nodup := by
    rw [chameleonHosts_eq, List.map_map]
    exact (List.filter_sublist.map Library.id).nodup hm.nodup_libraries
  have hfold := given_hosts m m.chameleonHosts [] ns name hnodup (fun _ hg => nomatch hg)
  rw [← contributions_eq] at hfold
  refine hfold.trans ?_
  -- a library without hosts is hosted nowhere, so it does not matter that it is left out
  rw [chameleonHosts_eq, List.filterMap_map, List.filterMap_filter, hosted, hostedIn,
    List.filterMap_filter]
  refine List.filterMap_congr fun l _ => ?_
  by_cases hns : ns ∈ m.hostsFor l
  · have hne : (m.hostsFor l).isEmpty = false := by
      rw [List.isEmpty_eq_false_iff]
      exact List.ne_nil_of_mem hns
    simp only [Function.comp_apply, hns, hne, List.contains_iff_mem.mpr hns, contributed?,
      Bool.not_false, Bool.true_and, Bool.and_true, if_true]
  · simp [hns]

end TravelModel.Model
