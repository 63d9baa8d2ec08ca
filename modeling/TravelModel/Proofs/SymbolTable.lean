import TravelModel.Proofs.Keyed
import TravelModel.Model.Binding

/-!
# TravelModel — laws of the symbol table

The symbol table is read by `lookup` and `isAmbiguous`. Each step of its
construction is described here by what it does to these two views and by
the part of the table it leaves alone.

Main results:

* `lookup_put`, `lookup_erase` — one name changes, all others stay.
* `mem_entries` — the entries of an ordered table are what is looked up.
* `freshPrefix_not_mem`, `freshPrefix_cases` — a chosen prefix is the wanted one, or the one
  with the first number that is free.
* `lookup_enterNative` — of native names the first stays.
* `lookup_enterDerived` — a derived name is entered where nothing stands
  and nothing is ambiguous.
* `assignPrefixes_frame` — the namespace of every library gets a prefix.
-/

namespace TravelModel

namespace SymbolTable

/-! ## Single names -/

theorem lookup_eq (t : SymbolTable) (ns name : String) :
    t.lookup ns name = t.symbols.findPair? ns name :=
  rfl

theorem lookup_put (t : SymbolTable) (ns name ns' name' : String) (s : Symbol) :
    (t.put ns name s).lookup ns' name' =
      if ns' = ns ∧ name' = name then some s else t.lookup ns' name' := by
  rw [lookup_eq, put, Keyed.findPair?_insert]
  rfl

theorem lookup_erase (t : SymbolTable) (ns name ns' name' : String) :
    (t.erase ns name).lookup ns' name' =
      if ns' = ns ∧ name' = name then none else t.lookup ns' name' := by
  rw [erase]
  cases h : t.symbols.find? ns with
  | none =>
    -- the namespace has no names, so nothing is taken out
    by_cases hkey : ns' = ns ∧ name' = name
    · rw [if_pos hkey, lookup, hkey.1, h]
      rfl
    · rw [if_neg hkey]
  | some names =>
    show ((t.symbols.insert ns _).find? ns').bind _ = _
    rw [Keyed.find?_insert]
    by_cases hns : ns' = ns
    · subst hns
      rw [if_pos rfl, Option.bind_some, Keyed.find?_filter_ne, lookup, h, Option.bind_some]
      by_cases hname : name' = name
      · rw [if_pos hname, if_pos ⟨rfl, hname⟩]
      · rw [if_neg hname, if_neg fun hkey => hname hkey.2]
    · rw [if_neg hns, if_neg fun hkey => hns hkey.1]
      rfl

/-- Taking a name out touches the names only. -/
theorem erase_frame (t : SymbolTable) (ns name : String) :
    ∃ symbols, t.erase ns name = { t with symbols } := by
  rw [erase]
  split
  · exact ⟨_, rfl⟩
  · exact ⟨t.symbols, rfl⟩

/-! ## Entries -/

/-- The names of a table are ordered by namespace and name. -/
def Ordered (t : SymbolTable) : Prop :=
  Keyed.OrderedPairs t.symbols

theorem ordered_put {t : SymbolTable} (h : t.Ordered) (ns name : String) (s : Symbol) :
    (t.put ns name s).Ordered :=
  Keyed.OrderedPairs.insert h ns (Keyed.ordered_insert (Keyed.OrderedPairs.getD h ns) name s)

theorem ordered_erase {t : SymbolTable} (h : t.Ordered) (ns name : String) :
    (t.erase ns name).Ordered := by
  rw [erase]
  split
  · next names hnames =>
    exact Keyed.OrderedPairs.insert h ns
      (Keyed.ordered_filter (Keyed.OrderedPairs.inner h _ (Keyed.mem_of_find? hnames)) _)
  · exact h

/-! ## Prefixes -/

/-- A chosen prefix is not in use. -/
theorem freshPrefix_not_mem (base : String) (used : List String) :
    freshPrefix base used ∉ used := by
  -- candidates differ, as the digits of a number give the number back
  have hnodup : (prefixCandidates base used.length).Nodup := by
    rw [prefixCandidates, List.nodup_cons]
    constructor
    · intro hmem
      obtain ⟨n, -, hn⟩ := List.mem_map.mp hmem
      have hlist := congrArg String.toList hn
      simp at hlist
    · refine List.Nodup.map (fun a b hab => ?_) List.nodup_range
      have htext : toString (a + 1) = toString (b + 1) := (String.append_right_inj base).mp hab
      rw [Nat.toString_eq_ofList_toDigits, Nat.toString_eq_ofList_toDigits] at htext
      have hvalue := congrArg (Nat.ofDigitChars 10 · 0) (String.ofList_injective htext)
      simpa [Nat.ofDigitChars_ten_toDigits] using hvalue
  rw [freshPrefix]
  cases hfind : (prefixCandidates base used.length).find? fun c => !used.contains c with
  | some c => simpa using List.find?_some hfind
  | none =>
    -- more candidates than names in use: not all of them are taken
    have hsub : prefixCandidates base used.length ⊆ used := by
      intro c hc
      have := List.find?_eq_none.mp hfind c hc
      simpa using this
    have hlength := hnodup.length_le_of_subset hsub
    simp [prefixCandidates] at hlength

theorem freshPrefix_eq_self {base : String} {used : List String} (h : base ∉ used) :
    freshPrefix base used = base := by
  rw [freshPrefix, prefixCandidates, List.find?_cons_of_pos]
  · rfl
  · simpa using h

/-- A wanted prefix that is not in use is chosen, and otherwise the least number is put
behind it that makes one which is not in use. -/
theorem freshPrefix_cases (base : String) (used : List String) :
    (base ∉ used ∧ freshPrefix base used = base) ∨
      (base ∈ used ∧ ∃ n, 0 < n ∧ freshPrefix base used = base ++ toString n ∧
        ∀ k, 0 < k → k < n → base ++ toString k ∈ used) := by
  by_cases hbase : base ∈ used
  · right
    have hfresh := freshPrefix_not_mem base used
    unfold freshPrefix prefixCandidates at hfresh ⊢
    rw [List.find?_cons_of_neg (by simpa using hbase), List.find?_map] at hfresh ⊢
    cases hfind : (List.range used.length).find?
        ((fun c => !used.contains c) ∘ fun n => base ++ toString (n + 1)) with
    | none =>
      rw [hfind] at hfresh
      exact absurd hbase hfresh
    | some i =>
      refine ⟨hbase, i + 1, Nat.succ_pos i, rfl, fun k hpos hlt => ?_⟩
      obtain ⟨-, -, hbefore⟩ := List.find?_range_eq_some.mp hfind
      obtain ⟨j, rfl⟩ := Nat.exists_eq_succ_of_ne_zero (Nat.pos_iff_ne_zero.mp hpos)
      simpa using hbefore j (Nat.lt_of_succ_lt_succ hlt)
  · exact Or.inl ⟨hbase, freshPrefix_eq_self hbase⟩

/-- A namespace that gets a prefix leaves the prefixes of the others. -/
theorem prefixFor_assignPrefix {t : SymbolTable} {ns ns' : String} (h : ns' ≠ ns)
    (preferred : Option String) :
    (t.assignPrefix ns preferred).prefixFor ns' = t.prefixFor ns' := by
  rw [assignPrefix]
  split
  · rfl
  · exact (Keyed.find?_insert ns' ns _ t.prefixes).trans (if_neg h)

/-- A prefix in use keeps its namespace when one more namespace gets a prefix; one that
was not in use can only stand for the new namespace. -/
theorem namespaceFor_assignPrefix (t : SymbolTable) (ns : String) (preferred : Option String)
    (p : String) :
    (t.assignPrefix ns preferred).namespaceFor p = t.namespaceFor p ∨
      (t.namespaceFor p = none ∧ (t.assignPrefix ns preferred).namespaceFor p = some ns) := by
  rw [assignPrefix]
  split
  · exact Or.inl rfl
  · next hnew =>
    have habsent : t.prefixes.find? ns = none := by
      rw [Keyed.contains, Option.isSome_iff_ne_none, not_not] at hnew
      exact hnew
    have hfresh := freshPrefix_not_mem ((preferred.filter (· ≠ "")).getD "ns")
      (t.prefixes.map Prod.snd)
    dsimp only
    generalize freshPrefix _ _ = q at hfresh ⊢
    have hfind := Keyed.findEntry_insert (fun e : String × String => e.2 = p) habsent q
    by_cases hq : q = p
    · -- the new prefix is asked for: no other namespace has it
      have hnone : List.find? (fun e : String × String => e.2 = p) t.prefixes = none := by
        rw [List.find?_eq_none]
        intro e he heq
        rw [decide_eq_true_eq] at heq
        exact hfresh (List.mem_map.mpr ⟨e, he, heq.trans hq.symm⟩)
      right
      rw [namespaceFor, namespaceFor, hnone]
      refine ⟨rfl, ?_⟩
      rw [hfind.2 (decide_eq_true hq) hnone]
      rfl
    · left
      rw [namespaceFor, namespaceFor, hfind.1 (decide_eq_false hq)]

/-- Giving out a prefix touches the prefixes only, and never takes one back. -/
theorem assignPrefix_frame (t : SymbolTable) (ns : String) (preferred : Option String) :
    ∃ prefixes, t.assignPrefix ns preferred = { t with prefixes } ∧
      prefixes.contains ns = true ∧
      ∀ ns', t.prefixes.contains ns' = true → prefixes.contains ns' = true := by
  rw [assignPrefix]
  split
  · next h => exact ⟨t.prefixes, rfl, h, fun _ h' => h'⟩
  · refine ⟨_, rfl, ?_, ?_⟩
    · rw [Keyed.contains, Keyed.find?_insert, if_pos rfl]
      rfl
    · intro ns' h'
      rw [Keyed.contains, Keyed.find?_insert]
      split
      · rfl
      · exact h'

end SymbolTable

namespace Model

/-- Giving out prefixes along a list of libraries touches the prefixes only; earlier
ones stay, and the namespace of every library of the list gets one. -/
theorem foldl_assignPrefix_frame (ls : List Library) (t : SymbolTable) :
    ∃ prefixes,
      ls.foldl (fun t l =>
        match l.ns with
        | some ns => t.assignPrefix ns l.nsPrefix
        | none => t) t = { t with prefixes } ∧
      (∀ ns, t.prefixes.contains ns = true → prefixes.contains ns = true) ∧
      ∀ l ∈ ls, ∀ ns, l.ns = some ns → prefixes.contains ns = true := by
  induction ls generalizing t with
  | nil => exact ⟨t.prefixes, rfl, fun _ h => h, fun _ hl => absurd hl List.not_mem_nil⟩
  | cons l rest ih =>
    rw [List.foldl_cons]
    cases hns : l.ns with
    | none =>
      obtain ⟨prefixes, heq, hold, hall⟩ := ih t
      refine ⟨prefixes, heq, hold, ?_⟩
      intro k hk ns hkns
      rcases List.mem_cons.mp hk with rfl | hk
      · rw [hns] at hkns
        cases hkns
      · exact hall k hk ns hkns
    | some ns =>
      -- what the first library gets is kept by all later ones
      obtain ⟨first, hfirst, hown, hkeep⟩ := t.assignPrefix_frame ns l.nsPrefix
      obtain ⟨prefixes, heq, hold, hall⟩ := ih (t.assignPrefix ns l.nsPrefix)
      rw [hfirst] at heq hold
      refine ⟨prefixes, ?_, fun ns' h' => hold ns' (hkeep ns' h'), ?_⟩
      · show rest.foldl _ (t.assignPrefix ns l.nsPrefix) = _
        rw [hfirst, heq]
      · intro k hk ns' hkns
        rcases List.mem_cons.mp hk with rfl | hk
        · rw [hns, Option.some.injEq] at hkns
          exact hold ns' (hkns ▸ hown)
        · exact hall k hk ns' hkns

theorem assignPrefixes_frame (m : Model) (t : SymbolTable) :
    ∃ prefixes, m.assignPrefixes t = { t with prefixes } ∧
      ∀ l ∈ m.libraries, ∀ ns, l.ns = some ns → prefixes.contains ns = true := by
  obtain ⟨prefixes, heq, -, hall⟩ := foldl_assignPrefix_frame m.libraries t
  exact ⟨prefixes, heq, hall⟩

/-! ## Native names -/

/-- The first symbol under a name of a namespace, among names to be entered. -/
def first? (names : List (String × String × String × Symbol)) (ns name : String) :
    Option Symbol :=
  (names.find? fun x => x.2.1 = ns ∧ x.2.2.1 = name).map fun x => x.2.2.2

theorem first?_cons (source ns name ns' name' : String) (s : Symbol)
    (rest : List (String × String × String × Symbol)) :
    first? ((source, ns, name, s) :: rest) ns' name' =
      if ns' = ns ∧ name' = name then some s else first? rest ns' name' := by
  rw [first?, List.find?_cons]
  by_cases hkey : ns' = ns ∧ name' = name
  · rw [if_pos hkey, hkey.1, hkey.2]
    simp
  · have hnot : ¬ (ns = ns' ∧ name = name') := fun h => hkey ⟨h.1.symm, h.2.symm⟩
    rw [if_neg hkey]
    simp only [hnot, decide_false]
    rfl

/-- Of native names the first stays, and a name that was there before them. -/
theorem lookup_enterNative (names : List (String × String × String × Symbol)) (t : SymbolTable)
    (ns name : String) :
    (enterNative names t).1.lookup ns name = (t.lookup ns name).or (first? names ns name) := by
  fun_induction enterNative names t with
  | case1 t => exact (Option.or_none).symm
  | case2 source ns' name' s rest t hnew ih =>
    rw [ih, SymbolTable.lookup_put, first?_cons]
    by_cases hkey : ns = ns' ∧ name = name'
    · rw [if_pos hkey, if_pos hkey, hkey.1, hkey.2, hnew]
      rfl
    · rw [if_neg hkey, if_neg hkey]
  | case3 source ns' name' s rest t existing hold t' fs heq ih =>
    -- the name is taken, so the table goes on unchanged
    rw [heq] at ih
    show t'.lookup ns name = _
    rw [ih, first?_cons]
    by_cases hkey : ns = ns' ∧ name = name'
    · rw [if_pos hkey, hkey.1, hkey.2, hold]
      rfl
    · rw [if_neg hkey]

/-- Native names touch the names only, and keep them ordered. -/
theorem enterNative_frame (names : List (String × String × String × Symbol)) (t : SymbolTable) :
    ∃ symbols, (enterNative names t).1 = { t with symbols } ∧
      (t.Ordered → Keyed.OrderedPairs symbols) := by
  fun_induction enterNative names t with
  | case1 t => exact ⟨t.symbols, rfl, fun h => h⟩
  | case2 source ns name s rest t hnew ih =>
    obtain ⟨symbols, heq, hord⟩ := ih
    exact ⟨symbols, heq, fun h => hord (SymbolTable.ordered_put h ns name s)⟩
  | case3 source ns name s rest t existing hold t' fs heq ih =>
    rw [heq] at ih
    exact ih

/-! ## Messages -/

/-- The names of messages are kept apart from all others. -/
theorem indexOperations_frame (m : Model) (t : SymbolTable) :
    ∃ operations, m.indexOperations t = { t with operations } := by
  have hnames : ∀ (names : List (String × OperationSymbol)) (t : SymbolTable) (ns : String),
      ∃ operations, names.foldl (fun t x => t.putOperation ns x.1 x.2) t =
        { t with operations } := by
    intro names
    induction names with
    | nil => exact fun t _ => ⟨t.operations, rfl⟩
    | cons x rest ih =>
      intro t ns
      obtain ⟨operations, heq⟩ := ih (t.putOperation ns x.1 x.2) ns
      exact ⟨operations, heq⟩
  have hspaces : ∀ (spaces : List String) (e : NamedEntity) (t : SymbolTable),
      ∃ operations, spaces.foldl (fun t ns =>
        (messageNames e).foldl (fun t x => t.putOperation ns x.1 x.2) t) t =
          { t with operations } := by
    intro spaces e
    induction spaces with
    | nil => exact fun t => ⟨t.operations, rfl⟩
    | cons ns rest ih =>
      intro t
      obtain ⟨first, hfirst⟩ := hnames (messageNames e) t ns
      rw [List.foldl_cons, hfirst]
      obtain ⟨operations, heq⟩ := ih { t with operations := first }
      exact ⟨operations, heq⟩
  rw [indexOperations]
  induction m.entities generalizing t with
  | nil => exact ⟨t.operations, rfl⟩
  | cons e rest ih =>
    obtain ⟨first, hfirst⟩ := hspaces (m.effectiveNamespaces t e.id) e t
    rw [List.foldl_cons, hfirst]
    obtain ⟨operations, heq⟩ := ih { t with operations := first }
    exact ⟨operations, heq⟩

/-! ## Derived names -/

/-- Derived names are entered where nothing stands and nothing is ambiguous;
of two the first stays. -/
theorem lookup_enterDerived (t : SymbolTable) (names : List (String × String × Symbol))
    (ns name : String) :
    (enterDerived t names).lookup ns name =
      (t.lookup ns name).or
        (if t.isAmbiguous ns name then none
        else (names.find? fun x => x.1 = ns ∧ x.2.1 = name).map fun x => x.2.2) := by
  induction names generalizing t with
  | nil => simp [enterDerived]
  | cons x rest ih =>
    obtain ⟨ns', name', s⟩ := x
    rw [enterDerived, List.foldl_cons, ← enterDerived, ih, List.find?_cons]
    by_cases hkey : ns' = ns ∧ name' = name
    · -- this name is put now unless it is ambiguous or taken, and never again
      obtain ⟨rfl, rfl⟩ := hkey
      by_cases hamb : t.isAmbiguous ns' name' = true
      · simp [hamb]
      · cases hlook : t.lookup ns' name' with
        | some old => simp [hamb, hlook]
        | none =>
          simp only [hamb, hlook]
          simp [SymbolTable.lookup_put]
    · have hnot : ¬ (ns = ns' ∧ name = name') := fun h => hkey ⟨h.1.symm, h.2.symm⟩
      simp only [hkey, decide_false]
      split
      · rfl
      · rw [SymbolTable.lookup_put, if_neg hnot]
        rfl

/-- Derived names touch the names only, and keep them ordered. -/
theorem enterDerived_frame (t : SymbolTable) (names : List (String × String × Symbol)) :
    ∃ symbols, enterDerived t names = { t with symbols } ∧
      (t.Ordered → Keyed.OrderedPairs symbols) := by
  induction names generalizing t with
  | nil => exact ⟨t.symbols, rfl, fun h => h⟩
  | cons x rest ih =>
    obtain ⟨ns, name, s⟩ := x
    rw [enterDerived, List.foldl_cons, ← enterDerived]
    dsimp only
    split
    · exact ih t
    · obtain ⟨symbols, heq, hord⟩ := ih (t.put ns name s)
      exact ⟨symbols, heq, fun h => hord (SymbolTable.ordered_put h ns name s)⟩

end Model

end TravelModel
