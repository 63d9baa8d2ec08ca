import TravelModel.Proofs.UnrelatedLibrary

/-!
# TravelModel — prefixes of a model

Libraries are gone through in order, and the first one of each namespace gets the namespace
a prefix: the one it declares, or that with the least number behind it that no earlier
namespace has. The table can therefore be read in both directions, and what a namespace
has got is not changed by any later library.

Main results:

* `PrefixesOf.givePrefix`, `prefixesOf_foldl` — what one library does to a table that is
  one-to-one, and what holds of the whole table.
* `prefixFor_foldl_of_first` — the first library of a namespace decides its prefix.
* `prefixes_bijective` — the table of every model, and of every model that starts with the
  libraries that come with the program.
-/

namespace TravelModel

/-! ## Choosing a prefix -/

/-- The prefix that a library wants for its namespace. -/
def Library.wantedPrefix (l : Library) : String :=
  (l.nsPrefix.filter (· ≠ "")).getD "ns"

theorem Library.wantedPrefix_ne_empty (l : Library) : l.wantedPrefix ≠ "" := by
  rw [wantedPrefix]
  cases hwanted : l.nsPrefix.filter (· ≠ "") with
  | none => decide
  | some p => simpa using (Option.filter_eq_some_iff.mp hwanted).2

namespace SymbolTable

theorem freshPrefix_ne_empty {base : String} (h : base ≠ "") (used : List String) :
    freshPrefix base used ≠ "" := by
  rcases freshPrefix_cases base used with ⟨-, heq⟩ | ⟨-, n, -, heq, -⟩
  · rw [heq]
    exact h
  · rw [heq]
    simp [h]

end SymbolTable

namespace Model

/-! ## One library -/

/-- A library gets its namespace a prefix. -/
def givePrefix (t : SymbolTable) (l : Library) : SymbolTable :=
  match l.ns with
  | some ns => t.assignPrefix ns l.nsPrefix
  | none => t

theorem givePrefix_of_none {l : Library} (h : l.ns = none) (t : SymbolTable) :
    givePrefix t l = t := by
  rw [givePrefix, h]

/-- The prefix that a table has for a namespace after a library got its own one. -/
theorem prefixFor_givePrefix {t : SymbolTable} {l : Library} {own : String} (hown : l.ns = some own)
    (ns : String) :
    (givePrefix t l).prefixFor ns =
      if ns = own ∧ t.prefixFor own = none then
        some (SymbolTable.freshPrefix l.wantedPrefix (t.prefixes.map Prod.snd))
      else t.prefixFor ns := by
  rw [givePrefix, hown]
  by_cases hns : ns = own
  · subst hns
    dsimp only
    -- only a namespace that has none is given a prefix
    rw [SymbolTable.assignPrefix, SymbolTable.prefixFor, SymbolTable.prefixFor, Keyed.contains]
    cases hfind : t.prefixes.find? ns with
    | some p => simp [hfind]
    | none => simp [Keyed.find?_insert, Library.wantedPrefix]
  · dsimp only
    rw [SymbolTable.prefixFor_assignPrefix hns, if_neg fun h => hns h.1]

theorem ordered_givePrefix {t : SymbolTable} (h : t.prefixes.Ordered) (l : Library) :
    (givePrefix t l).prefixes.Ordered := by
  cases hown : l.ns with
  | none => rwa [givePrefix_of_none hown]
  | some own =>
    rw [givePrefix, hown]
    dsimp only
    rw [SymbolTable.assignPrefix]
    split
    · exact h
    · exact Keyed.ordered_insert h _ _

/-- A namespace that has a prefix keeps it. -/
theorem prefixFor_givePrefix_of_some {t : SymbolTable} {ns p : String} (h : t.prefixFor ns = some p)
    (l : Library) : (givePrefix t l).prefixFor ns = some p := by
  cases hown : l.ns with
  | none => rw [givePrefix_of_none hown, h]
  | some own =>
    rw [prefixFor_givePrefix hown, if_neg, h]
    rintro ⟨rfl, hnone⟩
    rw [h] at hnone
    cases hnone

theorem prefixFor_foldl_of_some {t : SymbolTable} {ns p : String} (h : t.prefixFor ns = some p)
    (ls : List Library) : (ls.foldl givePrefix t).prefixFor ns = some p :=
  List.foldlRecOn ls givePrefix (motive := fun t => t.prefixFor ns = some p) h
    fun _ h l _ => prefixFor_givePrefix_of_some h l

/-! ## All libraries -/

/-- A table of prefixes for the namespaces of some libraries, and no others: each has a
prefix, and no two have the same. -/
structure PrefixesOf (ls : List Library) (t : SymbolTable) : Prop where
  ordered : t.prefixes.Ordered
  live : ∀ ns, (∃ l ∈ ls, l.ns = some ns) ↔ ∃ p, t.prefixFor ns = some p
  separate : ∀ ns ns' p, t.prefixFor ns = some p → t.prefixFor ns' = some p → ns = ns'
  nonempty : ∀ ns, t.prefixFor ns ≠ some ""

theorem prefixesOf_nil : PrefixesOf [] {} := by
  have hnone : ∀ ns, SymbolTable.prefixFor {} ns = none := fun _ => rfl
  refine ⟨Keyed.ordered_nil, ?_, ?_, ?_⟩
  · simp [hnone]
  · simp [hnone]
  · simp [hnone]

namespace PrefixesOf

variable {ls : List Library} {t : SymbolTable} (h : PrefixesOf ls t)

include h

/-- The prefixes in use are those of the namespaces of the libraries. -/
theorem mem_used {p : String} :
    p ∈ t.prefixes.map Prod.snd ↔ ∃ l ∈ ls, ∃ ns, l.ns = some ns ∧ t.prefixFor ns = some p := by
  rw [List.mem_map]
  constructor
  · rintro ⟨⟨ns, _⟩, hmem, rfl⟩
    have hfound := Keyed.find?_of_mem h.ordered hmem
    obtain ⟨l, hl, hns⟩ := (h.live ns).mpr ⟨_, hfound⟩
    exact ⟨l, hl, ns, hns, hfound⟩
  · rintro ⟨l, -, ns, -, hfound⟩
    exact ⟨(ns, p), Keyed.mem_of_find? hfound, rfl⟩

/-- The table is read backwards as it is read forwards. -/
theorem namespaceFor_eq_some_iff {ns p : String} :
    t.namespaceFor p = some ns ↔ t.prefixFor ns = some p := by
  have hback : ∀ {ns}, t.namespaceFor p = some ns → t.prefixFor ns = some p := by
    intro ns hfound
    obtain ⟨⟨ns', p'⟩, hfind, rfl⟩ := Option.map_eq_some_iff.mp hfound
    have hp := List.find?_some hfind
    obtain rfl : p' = p := of_decide_eq_true hp
    exact Keyed.find?_of_mem h.ordered (List.mem_of_find?_eq_some hfind)
  refine ⟨hback, fun hfound => ?_⟩
  -- the search gives the first namespace of the prefix, and there is only one
  cases hfirst : t.namespaceFor p with
  | some ns' => rw [h.separate ns' ns p (hback hfirst) hfound]
  | none =>
    have hnone := List.find?_eq_none.mp (Option.map_eq_none_iff.mp hfirst) _
      (Keyed.mem_of_find? hfound)
    exact absurd (decide_eq_true rfl) hnone

/-- One more library keeps the table one-to-one. -/
theorem givePrefix (l : Library) : PrefixesOf (ls ++ [l]) (givePrefix t l) := by
  cases hown : l.ns with
  | none =>
    rw [givePrefix_of_none hown]
    refine ⟨h.ordered, fun ns => ?_, h.separate, h.nonempty⟩
    simp [← h.live, hown]
  | some own =>
    -- what is chosen is neither empty nor in use
    have hnonempty := SymbolTable.freshPrefix_ne_empty l.wantedPrefix_ne_empty
      (t.prefixes.map Prod.snd)
    have hunused : ∀ ns p, t.prefixFor ns = some p →
        p ≠ SymbolTable.freshPrefix l.wantedPrefix (t.prefixes.map Prod.snd) := by
      rintro ns p hfound rfl
      exact SymbolTable.freshPrefix_not_mem l.wantedPrefix (t.prefixes.map Prod.snd)
        (List.mem_map_of_mem (f := Prod.snd) (Keyed.mem_of_find? hfound))
    refine ⟨ordered_givePrefix h.ordered l, fun ns => ?_, fun ns ns' p hns hns' => ?_,
      fun ns => ?_⟩
    · rw [prefixFor_givePrefix hown]
      have hlive := h.live ns
      -- a namespace that has its prefix already has a library among the earlier ones
      split
      · next hnew => simp [hnew.1, hown]
      · next hold =>
        by_cases hns : ns = own
        · have hthere : t.prefixFor own ≠ none := fun hnone => hold ⟨hns, hnone⟩
          obtain ⟨p, hp⟩ := Option.ne_none_iff_exists'.mp hthere
          simp [hns, hown, hp]
        · simp [← hlive, hown, Ne.symm hns]
    · rw [prefixFor_givePrefix hown] at hns hns'
      -- a prefix that is new here is not that of an older namespace
      split at hns <;> split at hns'
      · next h₁ h₂ => rw [h₁.1, h₂.1]
      · exact absurd (Option.some.inj hns).symm (hunused ns' p hns')
      · exact absurd (Option.some.inj hns').symm (hunused ns p hns)
      · exact h.separate ns ns' p hns hns'
    · rw [prefixFor_givePrefix hown]
      split
      · exact fun hempty => hnonempty (Option.some.inj hempty)
      · exact h.nonempty ns

end PrefixesOf

theorem prefixesOf_foldl (ls : List Library) : PrefixesOf ls (ls.foldl givePrefix {}) := by
  induction ls using List.reverseRecOn with
  | nil => exact prefixesOf_nil
  | append_singleton ls l ih =>
    rw [List.foldl_concat]
    exact ih.givePrefix l

/-- A prefix is that of a namespace of some libraries. -/
def TakenIn (t : SymbolTable) (ls : List Library) (p : String) : Prop :=
  ∃ l ∈ ls, ∃ ns, l.ns = some ns ∧ t.prefixFor ns = some p

/-- The first library of a namespace decides its prefix: the wanted one unless an earlier
namespace has it, and then the wanted one with the least number that no earlier namespace
has. -/
theorem prefixFor_foldl_of_first (before after : List Library) {l : Library} {ns : String}
    (hns : l.ns = some ns) (hfirst : ∀ k ∈ before, k.ns ≠ some ns) :
    let t := (before ++ l :: after).foldl givePrefix {}
    (¬ TakenIn t before l.wantedPrefix ∧ t.prefixFor ns = some l.wantedPrefix) ∨
      (TakenIn t before l.wantedPrefix ∧
        ∃ n, 0 < n ∧ t.prefixFor ns = some (l.wantedPrefix ++ toString n) ∧
          ∀ k, 0 < k → k < n → TakenIn t before (l.wantedPrefix ++ toString k)) := by
  intro t
  -- the table when the turn of the library comes
  let t₀ := before.foldl givePrefix {}
  have ht₀ : PrefixesOf before t₀ := prefixesOf_foldl before
  have ht : t = after.foldl givePrefix (givePrefix t₀ l) := by
    rw [← List.foldl_cons, ← List.foldl_append]
  have hnone : t₀.prefixFor ns = none := by
    rw [Option.eq_none_iff_forall_not_mem]
    intro p hp
    obtain ⟨k, hk, hkns⟩ := (ht₀.live ns).mpr ⟨p, hp⟩
    exact hfirst k hk hkns
  have hchosen : t.prefixFor ns =
      some (SymbolTable.freshPrefix l.wantedPrefix (t₀.prefixes.map Prod.snd)) := by
    rw [ht]
    refine prefixFor_foldl_of_some ?_ after
    rw [prefixFor_givePrefix hns, if_pos ⟨rfl, hnone⟩]
  -- what was in use then is what the earlier namespaces have in the end
  have hused : ∀ p, p ∈ t₀.prefixes.map Prod.snd ↔ TakenIn t before p := by
    intro p
    rw [ht₀.mem_used]
    refine exists_congr fun k => and_congr_right fun hk => exists_congr fun ns' =>
      and_congr_right fun hns' => ?_
    obtain ⟨q, hq⟩ := (ht₀.live ns').mp ⟨k, hk, hns'⟩
    have hkept : t.prefixFor ns' = some q := by
      rw [ht]
      exact prefixFor_foldl_of_some (prefixFor_givePrefix_of_some hq l) after
    rw [hq, hkept]
  rw [hchosen]
  simp only [← hused, Option.some.injEq]
  exact SymbolTable.freshPrefix_cases l.wantedPrefix (t₀.prefixes.map Prod.snd)

theorem prefixFor_buildSymbols (m : Model) (ns : String) :
    m.buildSymbols.1.prefixFor ns = (m.libraries.foldl givePrefix {}).prefixFor ns := by
  rw [SymbolTable.prefixFor, prefixes_buildSymbols]
  rfl

theorem namespaceFor_buildSymbols (m : Model) (p : String) :
    m.buildSymbols.1.namespaceFor p = (m.libraries.foldl givePrefix {}).namespaceFor p := by
  rw [SymbolTable.namespaceFor, prefixes_buildSymbols]
  rfl

/-! ## Libraries that come with the program -/

/-- Without removals the libraries of a model stay, in front of those that are added. -/
theorem libraries_prefix_apply (m : Model) {c : Change} (h : ∀ id, c ≠ .remove id) :
    m.libraries <+: (c.apply m).libraries := by
  cases c with
  | add l members =>
    rcases addLibrary_cases m l members with hc | hc
    · rw [Change.apply, hc]
    · rw [Change.apply, congrArg Prod.fst hc, libraries_addLibrary hc]
      exact List.prefix_append _ _
  | remove id => exact absurd rfl (h id)
  | refresh => exact List.prefix_rfl

theorem libraries_prefix_foldl (m : Model) {cs : List Change} (h : ∀ id, Change.remove id ∉ cs) :
    m.libraries <+: (cs.foldl Change.apply m).libraries := by
  induction cs generalizing m with
  | nil => exact List.prefix_rfl
  | cons c rest ih =>
    refine (m.libraries_prefix_apply fun id hc => h id (hc ▸ List.mem_cons_self)).trans ?_
    exact ih _ fun id hmem => h id (List.mem_cons_of_mem _ hmem)

theorem libraries_builtIns :
    ∃ common primitives, (run (additions true Builtin.modules)).libraries = [common, primitives] ∧
      (common.ns = some Builtin.commonNamespace ∧ common.wantedPrefix = "ota2") ∧
      primitives.ns = some primitiveNamespace ∧ primitives.wantedPrefix = "xsd" := by
  have hdeclared : ((run (additions true Builtin.modules)).libraries.map
      fun l => (l.ns, l.wantedPrefix)) =
        [(some Builtin.commonNamespace, "ota2"), (some primitiveNamespace, "xsd")] := by
    decide +kernel
  obtain ⟨common, _, hlibraries, hcommon, hrest⟩ := List.map_eq_cons_iff.mp hdeclared
  obtain ⟨primitives, _, rfl, hprimitives, hnil⟩ := List.map_eq_cons_iff.mp hrest
  rw [List.map_eq_nil_iff.mp hnil] at hlibraries
  exact ⟨common, primitives, hlibraries, Prod.mk.inj hcommon, Prod.mk.inj hprimitives⟩

/-- The two libraries that come with the program are the first, so they get the prefixes they
want. -/
theorem prefixFor_builtIns {cs : List Change} (h : ∀ id, Change.remove id ∉ cs) :
    let t := (run (additions true Builtin.modules ++ cs)).buildSymbols.1
    t.prefixFor primitiveNamespace = some "xsd" ∧
      t.prefixFor Builtin.commonNamespace = some "ota2" := by
  intro t
  obtain ⟨common, primitives, hbuiltIns, ⟨hcommon, hota⟩, hprimitives, hxsd⟩ := libraries_builtIns
  obtain ⟨after, hlibraries⟩ := libraries_prefix_foldl (run (additions true Builtin.modules)) h
  rw [← run_append, hbuiltIns] at hlibraries
  have ht : ∀ ns, t.prefixFor ns =
      ((common :: primitives :: after).foldl givePrefix {}).prefixFor ns := by
    intro ns
    rw [prefixFor_buildSymbols, ← hlibraries]
    rfl
  have hfirst : t.prefixFor Builtin.commonNamespace = some "ota2" := by
    rw [ht, ← hota]
    rcases prefixFor_foldl_of_first [] (primitives :: after) hcommon
      (fun k hk => absurd hk List.not_mem_nil) with hkept | ⟨⟨k, hk, -⟩, -⟩
    · exact hkept.2
    · exact absurd hk List.not_mem_nil
  refine ⟨?_, hfirst⟩
  rw [ht, ← hxsd]
  rcases prefixFor_foldl_of_first [common] after hprimitives
    (fun k hk => by rw [List.mem_singleton.mp hk, hcommon]; decide) with
    hkept | ⟨⟨k, hk, ns, hns, htaken⟩, -⟩
  · exact hkept.2
  · -- the one earlier namespace has another prefix
    rw [List.mem_singleton.mp hk, hcommon, Option.some.injEq] at hns
    rw [← hns, List.singleton_append, ← ht, hfirst, hxsd] at htaken
    exact absurd htaken (by decide)

/-- The prefixes of a model are one-to-one. After the table is built exactly the namespaces of
the libraries that are there have a prefix, which is not empty, and a prefix leads back to the
namespace that has it and to no other. A namespace has the prefix that its first library wants
(`ns` if that declares none or an empty one) unless an earlier namespace has it; then it has
that prefix with the least number that no earlier namespace has. A model that starts with the
libraries that come with the program has `xsd` for the primitive types and `ota2` for the
common ones, whatever is added to it. -/
theorem prefixes_bijective (cs : List Change) :
    let m := run cs
    let t := m.buildSymbols.1
    (∀ ns, (∃ l ∈ m.libraries, l.ns = some ns) ↔ ∃ p, t.prefixFor ns = some p) ∧
    (∀ ns, t.prefixFor ns ≠ some "") ∧
    (∀ ns p, t.prefixFor ns = some p ↔ t.namespaceFor p = some ns) ∧
    (∀ before l after ns, m.libraries = before ++ l :: after → l.ns = some ns →
      (∀ k ∈ before, k.ns ≠ some ns) →
      (¬ TakenIn t before l.wantedPrefix ∧ t.prefixFor ns = some l.wantedPrefix) ∨
        (TakenIn t before l.wantedPrefix ∧
          ∃ n, 0 < n ∧ t.prefixFor ns = some (l.wantedPrefix ++ toString n) ∧
            ∀ k, 0 < k → k < n → TakenIn t before (l.wantedPrefix ++ toString k))) ∧
    (∀ more, (∀ id, Change.remove id ∉ more) →
      let b := (run (additions true Builtin.modules ++ more)).buildSymbols.1
      b.prefixFor primitiveNamespace = some "xsd" ∧
        b.prefixFor Builtin.commonNamespace = some "ota2") ∧
    ∀ ms, let b := (assemble ms Builtin.modules).1.symbols
      b.prefixFor primitiveNamespace = some "xsd" ∧
        b.prefixFor Builtin.commonNamespace = some "ota2" := by
  intro m t
  have hprefixes : PrefixesOf m.libraries (m.libraries.foldl givePrefix {}) := prefixesOf_foldl _
  have hforward : t.prefixFor = (m.libraries.foldl givePrefix {}).prefixFor :=
    funext m.prefixFor_buildSymbols
  have hback : t.namespaceFor = (m.libraries.foldl givePrefix {}).namespaceFor :=
    funext m.namespaceFor_buildSymbols
  rw [hforward, hback]
  refine ⟨hprefixes.live, hprefixes.nonempty, fun ns p => hprefixes.namespaceFor_eq_some_iff.symm,
    ?_, fun more hmore => prefixFor_builtIns hmore, fun ms => ?_⟩
  · -- what is taken is read off the same table
    intro before l after ns hlibraries hown hfirst
    simp only [TakenIn, hforward, hlibraries]
    exact prefixFor_foldl_of_first before after hown hfirst
  · -- assembling adds the modules and refreshes once, and removes nothing
    rw [assemble_eq]
    simp only [prefixFor_refresh]
    exact prefixFor_builtIns fun id hmem => by
      obtain ⟨k, -, hk⟩ := List.mem_map.mp hmem
      cases hk

/-- Two libraries want one prefix, and a library between them wants what the second one would
get with a number. The last one belongs to the first namespace. -/
def rivalRun : List Change :=
  let add (name ns p : String) : Change :=
    .add { sampleLibrary name (some ns) [] with nsPrefix := some p } []
  [add "First" "urn:a" "t", add "Second" "urn:b" "t1", add "Third" "urn:c" "t",
    add "Fourth" "urn:d" "", add "Fifth" "urn:a" "other"]

/-- The third library gets the first number that is free, and its prefix leads back to it; with
the libraries that come with the program in front `xsd` is theirs all the same. -/
theorem rivalRun_prefixes :
    let m := run rivalRun
    let t := m.buildSymbols.1
    (∃ before l after, m.libraries = before ++ l :: after ∧ l.ns = some "urn:c" ∧
      (∀ k ∈ before, k.ns ≠ some "urn:c") ∧ TakenIn t before "t" ∧
      ∃ n, 0 < n ∧ t.prefixFor "urn:c" = some ("t" ++ toString n) ∧
        ∀ k, 0 < k → k < n → TakenIn t before ("t" ++ toString k)) ∧
    t.prefixFor "urn:c" = some "t2" ∧ t.namespaceFor "t2" = some "urn:c" ∧
    (∀ id, Change.remove id ∉ rivalRun) ∧
    (run (additions true Builtin.modules ++ rivalRun)).buildSymbols.1.prefixFor
      primitiveNamespace = some "xsd" := by
  intro m t
  obtain ⟨-, -, hback, hfirst, hbuiltIns, -⟩ := prefixes_bijective rivalRun
  have hthird : t.prefixFor "urn:c" = some "t2" := by decide +kernel
  have hremove : ∀ id, Change.remove id ∉ rivalRun := by simp [rivalRun]
  refine ⟨?_, hthird, (hback "urn:c" "t2").mp hthird, hremove, (hbuiltIns rivalRun hremove).1⟩
  obtain ⟨before, l, after, hlibraries, hns, hwanted, hbefore⟩ : ∃ before l after,
      m.libraries = before ++ l :: after ∧ l.ns = some "urn:c" ∧ l.wantedPrefix = "t" ∧
        ∀ k ∈ before, k.ns ≠ some "urn:c" :=
    ⟨m.libraries.take 2, (m.libraries[2]?).getD default, m.libraries.drop 3, by decide +kernel,
      by decide +kernel, by decide +kernel, by decide +kernel⟩
  refine ⟨before, l, after, hlibraries, hns, hbefore, ?_⟩
  rw [← hwanted]
  rcases hfirst before l after "urn:c" hlibraries hns hbefore with ⟨-, hkept⟩ | hnumbered
  · rw [hwanted] at hkept
    exact absurd (hthird.symm.trans hkept) (by decide)
  · exact hnumbered

end Model

end TravelModel
