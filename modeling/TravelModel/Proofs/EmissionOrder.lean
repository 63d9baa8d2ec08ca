import TravelModel.Proofs.LibraryOrder
import TravelModel.Proofs.Ownership

/-!
# TravelModel — the order of generation, dependencies first

The order holds each user library in scope once. It is made of blocks of
libraries that need each other, in which names ascend; a block comes after all
that it needs, and of the blocks that can come next the one with the least key
does.

Main results:

* `mem_next_iff` — the edges of the graph are the direct needs of entities.
* `exists_blocks` — the order is made of blocks, each of which comes when all
  that it needs was taken, the least first.
* `order_needs_first` — all of it for the order of a refreshed model.
-/

namespace TravelModel

namespace Scope

/-! ## Keys -/

/-- Sorted libraries ascend by key. -/
theorem pairwise_sortLibraries (ls : List Library) :
    (sortLibraries ls).Pairwise fun k l => toLex (sortKey k) ≤ toLex (sortKey l) := by
  have hsorted : (sortLibraries ls).Pairwise fun k l => keyLe (sortKey k) (sortKey l) = true := by
    refine List.pairwise_mergeSort ?_ ?_ ls
    · intro a b c hab hbc
      exact keyLe_iff.mpr ((keyLe_iff.mp hab).trans (keyLe_iff.mp hbc))
    · intro a b
      rw [Bool.or_eq_true, keyLe_iff, keyLe_iff]
      exact le_total _ _
  exact hsorted.imp keyLe_iff.mp

/-! ## Direct needs -/

/-- A library is in scope and does not come with the program. -/
def UserInScope (m : Model) (s : Scope) (id : LibraryId) : Prop :=
  id ∈ s.libraries ∧ ∃ l, m.library? id = some l ∧ l.builtIn = false

/-- Some entity of a library needs an entity of another one directly, both of
them user libraries in scope. -/
def LibraryNeeds (m : Model) (s : Scope) (a b : LibraryId) : Prop :=
  UserInScope m s a ∧ UserInScope m s b ∧ a ≠ b ∧
    ∃ x y e f, m.entity? x = some e ∧ e.library = a ∧ y ∈ m.dependencies x ∧
      m.entity? y = some f ∧ f.library = b

/-- A library needs another one, directly or through others. -/
def LeadsTo (m : Model) (s : Scope) : LibraryId → LibraryId → Prop :=
  Relation.TransGen (LibraryNeeds m s)

/-- All that some libraries need directly is among blocks that were taken or
among themselves. -/
def NeedsTaken (m : Model) (s : Scope) (taken : List (List Library)) (b : List Library) : Prop :=
  ∀ l ∈ b, ∀ d, LibraryNeeds m s l.id d → d ∈ (taken.flatten ++ b).map Library.id

section

variable {m : Model} {s : Scope}

theorem mem_map_userLibraries (hm : m.WellFormed) {id : LibraryId} :
    id ∈ (s.userLibraries m).map Library.id ↔ UserInScope m s id := by
  rw [← mem_order, mem_order_iff hm]
  rfl

/-- A number stands for one library. -/
theorem userLibraries_inj (hm : m.WellFormed) {k l : Library} (hk : k ∈ s.userLibraries m)
    (hl : l ∈ s.userLibraries m) (h : k.id = l.id) : k = l := by
  have hk := ((mem_userLibraries hm).mp hk).2.1
  rw [h, ((mem_userLibraries hm).mp hl).2.1] at hk
  exact (Option.some.inj hk).symm

theorem nodup_userLibraries (hm : m.WellFormed) (hs : s.libraries.Nodup) :
    (s.userLibraries m).Nodup := by
  refine hs.filterMap fun a b l ha hb => ?_
  have ha := hm.library_id (Option.filter_eq_some_iff.mp ha).1
  have hb := hm.library_id (Option.filter_eq_some_iff.mp hb).1
  rw [← ha, hb]

/-- The edges of the graph are the direct needs. -/
theorem mem_next_iff (hm : m.WellFormed) {a b : LibraryId} :
    b ∈ (needsGraph m s).next a ↔ LibraryNeeds m s a b := by
  rw [needsGraph, graphOf, next_map, LibraryNeeds, ← mem_map_userLibraries hm,
    ← mem_map_userLibraries hm]
  split
  · next ha =>
    rw [libraryDependencies, List.mem_eraseDups, List.mem_filter, List.mem_filterMap]
    simp only [Bool.and_eq_true, decide_eq_true_eq, List.contains_iff_mem, List.mem_flatMap,
      Option.map_eq_some_iff]
    constructor
    · rintro ⟨⟨y, ⟨e, he, hy⟩, f, hf, hlibrary⟩, hne, hb⟩
      obtain ⟨hlive, howner⟩ := hm.mem_libraryEntities_iff.mp he
      exact ⟨ha, hb, Ne.symm hne, e.id, y, e, f, hlive, howner, hy, hf, hlibrary⟩
    · -- an entity knows its own number, by which it is found
      rintro ⟨-, hb, hne, x, y, e, f, hlive, howner, hy, hf, hlibrary⟩
      have hid := hm.entity_id hlive
      rw [← hid] at hlive hy
      exact ⟨⟨y, ⟨e, hm.mem_libraryEntities_iff.mpr ⟨hlive, howner⟩, hy⟩, f, hf, hlibrary⟩,
        Ne.symm hne, hb⟩
  · next ha => exact ⟨fun h => absurd h List.not_mem_nil, fun h => absurd h.1 ha⟩

/-- Libraries are together when they need each other. -/
theorem together_iff_leadsTo (hm : m.WellFormed) {a b : LibraryId} :
    Together ((s.userLibraries m).map Library.id)
        (libraryDependencies m ((s.userLibraries m).map Library.id)) a b ↔
      b = a ∨ LeadsTo m s a b ∧ LeadsTo m s b a := by
  have hedges : (fun a b => b ∈ (needsGraph m s).next a) = LibraryNeeds m s := by
    funext a b
    exact propext (mem_next_iff hm)
  rw [LeadsTo, ← hedges]
  exact together_iff_transGen

/-- A block waits for none exactly when all that it needs was taken or is in it. -/
theorem waitsFor_eq_nil_iff_needsTaken (hm : m.WellFormed) {taken : List Node}
    (htaken : ∀ k ∈ taken, k ∈ needsNodes m s) {n : Node} (hn : n ∈ needsNodes m s) :
    waitsFor (needsGraph m s) (needsNodes m s) taken n = [] ↔
      NeedsTaken m s (taken.map Node.block) n.block := by
  have hdeps : ∀ id, ∀ d ∈ libraryDependencies m ((s.userLibraries m).map Library.id) id,
      d ∈ (s.userLibraries m).map Library.id :=
    fun id d hd => mem_libraryDependencies hd
  rw [needsGraph, needsNodes, waitsFor_eq_nil_iff hdeps htaken hn, ← needsGraph]
  simp only [mem_next_iff hm, NeedsTaken]

end

/-! ## The blocks of the order -/

/-- A block holds what a library of it needs and is needed by, and ascends by
key. -/
structure IsBlock (m : Model) (s : Scope) (b : List Library) : Prop where
  nonempty : b ≠ []
  library : ∀ l ∈ b, m.library? l.id = some l
  members : ∀ l ∈ b, ∀ id,
    id ∈ b.map Library.id ↔ id = l.id ∨ LeadsTo m s l.id id ∧ LeadsTo m s id l.id
  sorted : b.Pairwise fun k l => toLex (sortKey k) ≤ toLex (sortKey l)

section

variable {m : Model} {s : Scope} {bs : List (List Library)}

theorem isBlock_blockOf (hm : m.WellFormed) {o : Library} (ho : o ∈ s.userLibraries m) :
    IsBlock m s (blockOf (s.userLibraries m)
      (libraryDependencies m ((s.userLibraries m).map Library.id)) o) := by
  set ls := s.userLibraries m with hls
  set deps := libraryDependencies m (ls.map Library.id) with hdeps
  refine ⟨List.ne_nil_of_mem (mem_blockOf_self deps ho), ?_, ?_, pairwise_sortLibraries _⟩
  · intro l hl
    exact ((mem_userLibraries hm).mp ((mem_blockOf ho).mp hl).1).2.1
  · intro l hl id
    obtain ⟨hlls, hol⟩ := (mem_blockOf ho).mp hl
    -- the block is that of each of its members
    rw [(blockOf_eq_iff ho hlls).mpr hol, ← together_iff_leadsTo hm, List.mem_map]
    constructor
    · rintro ⟨k, hk, rfl⟩
      exact ((mem_blockOf hlls).mp hk).2
    · intro h
      rcases (together_iff_leadsTo hm).mp h with rfl | ⟨-, hback⟩
      · exact ⟨l, mem_blockOf_self deps hlls, rfl⟩
      · obtain ⟨x, hstep, -⟩ := Relation.TransGen.head'_iff.mp hback
        obtain ⟨k, hk, rfl⟩ := List.mem_map.mp ((mem_map_userLibraries hm).mpr hstep.1)
        exact ⟨k, (mem_blockOf hlls).mpr ⟨hk, h⟩, rfl⟩

/-- The order is made of blocks. Each needs only what came before it or is in it,
and has the least key of those left of which this is true. -/
theorem exists_blocks (hm : m.WellFormed) (hs : s.libraries.Nodup) :
    ∃ bs : List (List Library),
      s.order m = bs.flatten.map Library.id ∧ (bs.flatten.map Library.id).Nodup ∧
        (∀ b ∈ bs, IsBlock m s b) ∧
        ∀ before b after, bs = before ++ b :: after →
          NeedsTaken m s before b ∧
            ∀ c ∈ after, NeedsTaken m s before c → toLex (blockKey b) ≤ toLex (blockKey c) := by
  obtain ⟨ns, horder, hnodup, hmem, hturns⟩ := exists_turns m s
  rw [List.nil_append] at hnodup hmem
  have hin : ∀ l ∈ (ns.map Node.block).flatten, l ∈ s.userLibraries m := by
    intro l hl
    obtain ⟨b, hb, hl⟩ := List.mem_flatten.mp hl
    obtain ⟨n, hn, rfl⟩ := List.mem_map.mp hb
    exact mem_of_mem_block ((hmem n).mp hn) hl
  -- a library is in one block, and blocks are taken once
  have hnodups : (ns.map Node.block).flatten.Nodup := by
    rw [List.nodup_flatten, List.pairwise_map]
    refine ⟨?_, hnodup.imp_of_mem ?_⟩
    · intro b hb
      obtain ⟨n, hn, rfl⟩ := List.mem_map.mp hb
      obtain ⟨l, -, heq⟩ := exists_blockOf ((hmem n).mp hn)
      exact heq ▸ nodup_blockOf (nodup_userLibraries hm hs) l
    · intro n k hn hk hne l hln hlk
      exact hne (eq_of_id_eq ((hmem n).mp hn) ((hmem k).mp hk) hln hlk rfl)
  refine ⟨ns.map Node.block, horder, ?_, ?_, ?_⟩
  · refine List.Nodup.map_on ?_ hnodups
    exact fun k hk l hl h => userLibraries_inj hm (hin k hk) (hin l hl) h
  · intro b hb
    obtain ⟨n, hn, rfl⟩ := List.mem_map.mp hb
    obtain ⟨l, hl, heq⟩ := exists_blockOf ((hmem n).mp hn)
    exact heq ▸ isBlock_blockOf hm hl
  · intro before b after hsplit
    obtain ⟨before, rest, rfl, rfl, hrest⟩ := List.map_eq_append_iff.mp hsplit
    obtain ⟨n, after, rfl, rfl, rfl⟩ := List.map_eq_cons_iff.mp hrest
    obtain ⟨hnone, hfirst⟩ := hturns before n after rfl
    have hall : ∀ k ∈ before ++ n :: after, k ∈ needsNodes m s := fun k => (hmem k).mp
    have htaken : ∀ k ∈ before, k ∈ needsNodes m s :=
      fun k hk => hall k (List.mem_append_left _ hk)
    refine ⟨(waitsFor_eq_nil_iff_needsTaken hm htaken (hall n (by simp))).mp hnone, ?_⟩
    intro c hc hcneeds
    obtain ⟨k, hk, rfl⟩ := List.mem_map.mp hc
    have hkin := hall k (by simp [hk])
    -- what comes later was not taken before
    have hleft : k ∉ before := fun hkb =>
      List.disjoint_of_nodup_append hnodup hkb (List.mem_cons_of_mem n hk)
    exact Node.blockKey_le_of_rank_le
      (hfirst k hkin hleft ((waitsFor_eq_nil_iff_needsTaken hm htaken hkin).mpr hcneeds))

/-- What was taken leads only to what was taken. -/
theorem mem_taken_of_leadsTo
    (hturn : ∀ before b after, bs = before ++ b :: after → NeedsTaken m s before b)
    {taken rest : List (List Library)} (hsplit : bs = taken ++ rest) {a b : LibraryId}
    (ha : a ∈ taken.flatten.map Library.id) (h : LeadsTo m s a b) :
    b ∈ taken.flatten.map Library.id := by
  have hstep : ∀ {x y}, x ∈ taken.flatten.map Library.id → LibraryNeeds m s x y →
      y ∈ taken.flatten.map Library.id := by
    intro x y hx hxy
    -- at the turn of its block all that the library needs was taken or is in the block
    obtain ⟨l, hl, rfl⟩ := List.mem_map.mp hx
    obtain ⟨c, hc, hlc⟩ := List.mem_flatten.mp hl
    obtain ⟨before, after, rfl⟩ := List.append_of_mem hc
    rw [List.append_assoc, List.cons_append] at hsplit
    have hy := hturn before c (after ++ rest) hsplit l hlc y hxy
    rw [List.flatten_append, List.flatten_cons, ← List.append_assoc, List.map_append]
    exact List.mem_append_left _ hy
  induction h with
  | single hfirst => exact hstep ha hfirst
  | tail _ hlast ih => exact hstep ih hlast

/-- A library that is needed without need in return comes first. -/
theorem sublist_of_leadsTo (hblocks : ∀ b ∈ bs, IsBlock m s b)
    (hturn : ∀ before b after, bs = before ++ b :: after → NeedsTaken m s before b)
    {a b : LibraryId} (ha : a ∈ bs.flatten.map Library.id) (hab : LeadsTo m s a b)
    (hba : ¬ LeadsTo m s b a) : [b, a].Sublist (bs.flatten.map Library.id) := by
  obtain ⟨l, hmem, rfl⟩ := List.mem_map.mp ha
  obtain ⟨own, hown, hl⟩ := List.mem_flatten.mp hmem
  obtain ⟨before, after, rfl⟩ := List.append_of_mem hown
  have hb : b ∈ (before ++ [own]).flatten.map Library.id := by
    refine mem_taken_of_leadsTo hturn (List.append_cons before own after) ?_ hab
    exact List.mem_map_of_mem (List.mem_flatten.mpr ⟨own, by simp, hl⟩)
  -- it is not in the block itself, where all need each other
  have hother : b ∉ own.map Library.id := by
    intro hmem
    rcases ((hblocks own hown).members l hl b).mp hmem with rfl | ⟨-, hback⟩
    · exact hba hab
    · exact hba hback
  rw [List.flatten_append, List.flatten_singleton, List.map_append, List.mem_append] at hb
  rw [List.flatten_append, List.map_append, List.flatten_cons, List.map_append]
  refine (List.singleton_sublist.mpr (hb.resolve_right hother)).append
    (List.singleton_sublist.mpr ?_)
  exact List.mem_append_left _ (List.mem_map_of_mem hl)

/-- Keys tell libraries apart, except that no namespace and the empty one look
the same. -/
theorem eq_of_sortKey_eq (h : m.Consistent) {a b : LibraryId} {k l : Library}
    (hk : m.library? a = some k) (hl : m.library? b = some l) (hkey : sortKey k = sortKey l) :
    a = b ∨ k.ns = none ∧ l.ns = some "" ∨ k.ns = some "" ∧ l.ns = none := by
  obtain ⟨hname, hns⟩ := Prod.mk.inj hkey
  cases hkns : k.ns with
  | none =>
    cases hlns : l.ns with
    | none => exact Or.inl (h.key_unique a b k l hk hl (hkns.trans hlns.symm) hname)
    | some ns =>
      rw [hkns, hlns] at hns
      exact Or.inr (Or.inl ⟨rfl, congrArg some hns.symm⟩)
  | some ns =>
    cases hlns : l.ns with
    | none =>
      rw [hkns, hlns] at hns
      exact Or.inr (Or.inr ⟨congrArg some hns, rfl⟩)
    | some ns' =>
      rw [hkns, hlns] at hns
      exact Or.inl (h.key_unique a b k l hk hl (by rw [hkns, hlns]; exact congrArg some hns) hname)

end

/-! ## The whole order -/

open Model

/-- A built scope lists each library once. -/
theorem nodup_libraries_build {m : Model} (hm : m.WellFormed) (roots : List EntityId)
    (global : Option Scope) : (build m roots global).libraries.Nodup :=
  hm.nodup_libraries.sublist (List.filter_sublist.map Library.id)

/-- The order of a refreshed model and a scope that lists no library twice holds
each user library in scope once, and a library that is needed without need in
return comes first. The libraries that need each other stand together and
ascend by key. Each such block comes when all that it needs is there, and has
the least key of the blocks that could come then. -/
theorem order_needs_first (cs : List Change) (s : Scope) (hs : s.libraries.Nodup) :
    let m := run (cs ++ [.refresh])
    (s.order m).Nodup ∧ (∀ id, id ∈ s.order m ↔ UserInScope m s id) ∧
    (∀ a b, LeadsTo m s a b → ¬ LeadsTo m s b a → [b, a].Sublist (s.order m)) ∧
    (∃ bs : List (List Library), s.order m = bs.flatten.map Library.id ∧
      (∀ b ∈ bs, IsBlock m s b) ∧
      ∀ before b after, bs = before ++ b :: after →
        NeedsTaken m s before b ∧
          ∀ c ∈ after, NeedsTaken m s before c → toLex (blockKey b) ≤ toLex (blockKey c)) ∧
    (∀ a b k l, m.library? a = some k → m.library? b = some l → sortKey k = sortKey l →
      a = b ∨ k.ns = none ∧ l.ns = some "" ∨ k.ns = some "" ∧ l.ns = none) := by
  intro m
  have hm : m.WellFormed := wellFormed_run _
  obtain ⟨bs, horder, hnodup, hblocks, hturn⟩ := exists_blocks hm hs
  have hmem : ∀ id, id ∈ s.order m ↔ UserInScope m s id := fun id => mem_order_iff hm
  refine ⟨horder ▸ hnodup, hmem, ?_, ⟨bs, horder, hblocks, hturn⟩, ?_⟩
  · intro a b hab hba
    -- a library that needs another is in scope, so in the order
    obtain ⟨x, hstep, -⟩ := Relation.TransGen.head'_iff.mp hab
    have ha := (hmem a).mpr hstep.1
    rw [horder] at ha ⊢
    exact sublist_of_leadsTo hblocks (fun before b after h => (hturn before b after h).1) ha hab hba
  · exact fun a b k l hk hl => eq_of_sortKey_eq
      (consistent_of_inStep hm (inStep_run _)) hk hl

/-- In the sample the namespace needs the library it hosts on the left and comes
after it. -/
theorem sampleRun_order :
    let m := run (sampleRun ++ [.refresh])
    let s := build m [⟨0⟩] none
    s.libraries.Nodup ∧ LeadsTo m s ⟨0⟩ ⟨1⟩ ∧ [⟨1⟩, ⟨0⟩].Sublist (s.order m) := by
  intro m s
  have hm : m.WellFormed := wellFormed_run _
  have hs : s.libraries.Nodup := nodup_libraries_build hm [⟨0⟩] none
  have hneeds : LeadsTo m s ⟨0⟩ ⟨1⟩ := .single ((mem_next_iff hm).mp (by decide +kernel))
  have hfree : ¬ LeadsTo m s ⟨1⟩ ⟨0⟩ := by
    intro h
    obtain ⟨x, hstep, -⟩ := Relation.TransGen.head'_iff.mp h
    have hnext : (needsGraph m s).next ⟨1⟩ = [] := by decide +kernel
    have hx := (mem_next_iff hm).mpr hstep
    rw [hnext] at hx
    exact List.not_mem_nil hx
  exact ⟨hs, hneeds, (order_needs_first sampleRun s hs).2.2.1 ⟨0⟩ ⟨1⟩ hneeds hfree⟩

end Scope

end TravelModel
