import Mathlib.Data.List.Perm.Subperm
import Mathlib.Data.Prod.Lex
import Mathlib.Data.String.Basic
import Mathlib.Order.WellFounded
import TravelModel.Proofs.LibraryBlocks

/-!
# TravelModel — no library is left out of the order

The order takes blocks that wait for no other. Each block counts the blocks
that it waits for, and the count is right at every turn, so a block is ready
exactly when all that it needs was taken. The order never gets stuck: of the
libraries that are left, one that reaches the fewest others is in a block that
waits for none that is left.

Main results:

* `exists_waitsFor_eq_nil` — while a block is left, one waits for none.
* `Counts.take` — taking a block keeps the counts right.
* `exists_turns` — the order takes each block once, at its turn the first of
  those that wait for none.
* `mem_order` — the order holds the user libraries in scope, all of them.
-/

namespace TravelModel

namespace Scope

/-! ## The first node -/

theorem keyLe_iff {a b : String × String} : keyLe a b = true ↔ toLex a ≤ toLex b := by
  rw [keyLe, Prod.Lex.toLex_le_toLex, Bool.or_eq_true, Bool.and_eq_true, decide_eq_true_eq,
    decide_eq_true_eq, decide_eq_true_eq]

namespace Node

/-- What nodes are ordered by. -/
def rank (n : Node) : (String ×ₗ String) ×ₗ Nat :=
  toLex (toLex (blockKey n.block), n.place)

theorem le_iff {n k : Node} : n.le k = true ↔ n.rank ≤ k.rank := by
  rw [le, rank, rank, Prod.Lex.toLex_le_toLex]
  split
  · next heq => simp [heq]
  · next hne =>
    have hne : toLex (blockKey n.block) ≠ toLex (blockKey k.block) := fun h => hne (toLex_inj.mp h)
    rw [keyLe_iff, le_iff_lt_or_eq]
    simp [hne]

theorem blockKey_le_of_rank_le {n k : Node} (h : n.rank ≤ k.rank) :
    toLex (blockKey n.block) ≤ toLex (blockKey k.block) := by
  rcases Prod.Lex.toLex_le_toLex.mp h with hlt | ⟨heq, -⟩
  · exact hlt.le
  · exact heq.le

theorem first?_eq_none {ns : List Node} (h : first? ns = none) : ns = [] := by
  cases ns with
  | nil => rfl
  | cons n rest =>
    rw [first?] at h
    split at h <;> simp at h

/-- The first node is one of them and comes before all of them. -/
theorem first?_spec {ns : List Node} {n : Node} (h : first? ns = some n) :
    n ∈ ns ∧ ∀ k ∈ ns, n.rank ≤ k.rank := by
  induction ns generalizing n with
  | nil => simp [first?] at h
  | cons a rest ih =>
    rw [first?] at h
    split at h
    · next hnone =>
      obtain rfl := Option.some.inj h
      rw [first?_eq_none hnone]
      simp
    · -- the head stays unless the first of the rest is less
      next b hb =>
      obtain ⟨hmem, hleast⟩ := ih hb
      have h := Option.some.inj h
      split at h
      · next hle =>
        subst h
        refine ⟨List.mem_cons_self, fun k hk => ?_⟩
        rcases List.mem_cons.mp hk with rfl | hk
        · exact le_rfl
        · exact (le_iff.mp hle).trans (hleast k hk)
      · next hgt =>
        subst h
        refine ⟨List.mem_cons_of_mem a hmem, fun k hk => ?_⟩
        rcases List.mem_cons.mp hk with rfl | hk
        · exact (le_total _ _).resolve_left fun hle => hgt (le_iff.mpr hle)
        · exact hleast k hk

end Node

/-! ## What a node waits for -/

/-- The nodes that a node needs and that were not taken. -/
def waitsFor (graph : DependencyGraph) (nodes taken : List Node) (n : Node) : List Node :=
  nodes.filter fun k => n.needs graph k && !taken.contains k

section

variable {graph : DependencyGraph} {nodes taken : List Node} {n k : Node}

theorem mem_waitsFor :
    k ∈ waitsFor graph nodes taken n ↔ k ∈ nodes ∧ n.needs graph k = true ∧ k ∉ taken := by
  simp [waitsFor]

theorem waitsFor_nil (n : Node) : waitsFor graph nodes [] n = nodes.filter (n.needs graph) := by
  simp [waitsFor]

theorem waitsFor_concat (hnodes : nodes.Nodup) (k n : Node) :
    waitsFor graph nodes (taken ++ [k]) n = (waitsFor graph nodes taken n).erase k := by
  have hnodup : (waitsFor graph nodes taken n).Nodup := hnodes.filter _
  rw [hnodup.erase_eq_filter, waitsFor, waitsFor, List.filter_filter]
  refine List.filter_congr fun o _ => ?_
  rw [Bool.eq_iff_iff]
  simp only [Bool.and_eq_true, Bool.not_eq_true', List.contains_eq_mem, decide_eq_false_iff_not,
    List.mem_append, List.mem_singleton, bne_iff_ne]
  tauto

/-- When a node is taken, what needs it waits for one node less. -/
theorem length_waitsFor_concat (hnodes : nodes.Nodup) (hk : k ∈ nodes) (hnew : k ∉ taken)
    (n : Node) :
    (waitsFor graph nodes (taken ++ [k]) n).length =
      if n.needs graph k then (waitsFor graph nodes taken n).length - 1
      else (waitsFor graph nodes taken n).length := by
  rw [waitsFor_concat hnodes, List.length_erase]
  simp [mem_waitsFor, hk, hnew]

theorem waitsFor_concat_of_not_needs (hnodes : nodes.Nodup) (h : ¬ n.needs graph k = true) :
    waitsFor graph nodes (taken ++ [k]) n = waitsFor graph nodes taken n := by
  rw [waitsFor_concat hnodes]
  exact List.erase_of_not_mem fun hk => h (mem_waitsFor.mp hk).2.1

theorem waitsFor_concat_eq_nil (hnodes : nodes.Nodup) (h : waitsFor graph nodes taken n = [])
    (k : Node) : waitsFor graph nodes (taken ++ [k]) n = [] := by
  rw [waitsFor_concat hnodes, h, List.erase_nil]

end

/-! ## The nodes of some libraries -/

section

variable {ls : List Library} {deps : LibraryId → List LibraryId}

/-- The blocks of some libraries with their places. -/
def nodesOf (ls : List Library) (deps : LibraryId → List LibraryId) : List Node :=
  (blocksOf ls deps).zipIdx.map fun p => Node.mk p.2 p.1

theorem map_block_nodesOf (ls : List Library) (deps : LibraryId → List LibraryId) :
    (nodesOf ls deps).map Node.block = blocksOf ls deps := by
  rw [nodesOf, List.map_map]
  exact List.zipIdx_map_fst 0 _

theorem nodup_nodesOf (ls : List Library) (deps : LibraryId → List LibraryId) :
    (nodesOf ls deps).Nodup :=
  List.Nodup.of_map Node.block (map_block_nodesOf ls deps ▸ nodup_blocksOf ls deps)

theorem eq_of_block_eq {n k : Node} (hn : n ∈ nodesOf ls deps) (hk : k ∈ nodesOf ls deps)
    (h : n.block = k.block) : n = k :=
  List.inj_on_of_nodup_map (map_block_nodesOf ls deps ▸ nodup_blocksOf ls deps) hn hk h

theorem exists_blockOf {n : Node} (hn : n ∈ nodesOf ls deps) :
    ∃ l ∈ ls, blockOf ls deps l = n.block := by
  rw [← mem_blocksOf, ← map_block_nodesOf]
  exact List.mem_map_of_mem hn

theorem exists_node (deps : LibraryId → List LibraryId) {l : Library} (hl : l ∈ ls) :
    ∃ n ∈ nodesOf ls deps, n.block = blockOf ls deps l := by
  rw [← List.mem_map, map_block_nodesOf, mem_blocksOf]
  exact ⟨l, hl, rfl⟩

theorem mem_of_mem_block {n : Node} (hn : n ∈ nodesOf ls deps) {l : Library} (hl : l ∈ n.block) :
    l ∈ ls := by
  obtain ⟨o, ho, heq⟩ := exists_blockOf hn
  exact ((mem_blockOf ho).mp (heq ▸ hl)).1

/-- A block is that of each of its libraries. -/
theorem block_eq_blockOf {n : Node} (hn : n ∈ nodesOf ls deps) {l : Library} (hl : l ∈ n.block) :
    n.block = blockOf ls deps l := by
  obtain ⟨o, ho, heq⟩ := exists_blockOf hn
  have hmem := (mem_blockOf ho).mp (heq ▸ hl)
  rw [← heq, blockOf_eq_iff ho hmem.1]
  exact hmem.2

/-- Nodes that share the number of a library are the same. -/
theorem eq_of_id_eq {n k : Node} (hn : n ∈ nodesOf ls deps) (hk : k ∈ nodesOf ls deps)
    {l o : Library} (hl : l ∈ n.block) (ho : o ∈ k.block) (h : l.id = o.id) : n = k := by
  apply eq_of_block_eq hn hk
  rw [block_eq_blockOf hn hl, block_eq_blockOf hk ho,
    blockOf_eq_iff (mem_of_mem_block hn hl) (mem_of_mem_block hk ho), h]
  exact ⟨.refl, .refl⟩

theorem needs_iff {graph : DependencyGraph} {n k : Node} :
    n.needs graph k = true ↔
      n ≠ k ∧ ∃ l ∈ n.block, ∃ o ∈ k.block, o.id ∈ graph.next l.id := by
  simp [Node.needs]

theorem exists_library_of_next (hdeps : ∀ id, ∀ d ∈ deps id, d ∈ ls.map Library.id)
    {id d : LibraryId} (h : d ∈ (graphOf (ls.map Library.id) deps).next id) :
    ∃ o ∈ ls, o.id = d := by
  rw [graphOf, next_map] at h
  split at h
  · exact List.mem_map.mp (hdeps id d h)
  · exact absurd h List.not_mem_nil

/-- A node waits for none exactly when all that its libraries depend on is in
nodes that were taken or in itself. -/
theorem waitsFor_eq_nil_iff (hdeps : ∀ id, ∀ d ∈ deps id, d ∈ ls.map Library.id)
    {taken : List Node} (htaken : ∀ k ∈ taken, k ∈ nodesOf ls deps) {n : Node}
    (hn : n ∈ nodesOf ls deps) :
    waitsFor (graphOf (ls.map Library.id) deps) (nodesOf ls deps) taken n = [] ↔
      ∀ l ∈ n.block, ∀ d ∈ (graphOf (ls.map Library.id) deps).next l.id,
        d ∈ ((taken.map Node.block).flatten ++ n.block).map Library.id := by
  rw [List.eq_nil_iff_forall_not_mem]
  constructor
  · intro hnone l hl d hd
    obtain ⟨o, ho, rfl⟩ := exists_library_of_next hdeps hd
    obtain ⟨k, hk, hblock⟩ := exists_node deps ho
    have hok : o ∈ k.block := hblock ▸ mem_blockOf_self deps ho
    apply List.mem_map_of_mem
    rw [List.mem_append]
    by_cases heq : n = k
    · exact Or.inr (heq ▸ hok)
    · -- another block is needed, so it was taken
      have hneeds := needs_iff.mpr ⟨heq, l, hl, o, hok, hd⟩
      have hk : k ∈ taken := by
        by_contra hleft
        exact hnone k (mem_waitsFor.mpr ⟨hk, hneeds, hleft⟩)
      exact Or.inl (List.mem_flatten.mpr ⟨k.block, List.mem_map_of_mem hk, hok⟩)
  · intro hall k hwaits
    obtain ⟨hk, hneeds, hleft⟩ := mem_waitsFor.mp hwaits
    obtain ⟨hne, l, hl, o, ho, hd⟩ := needs_iff.mp hneeds
    obtain ⟨o', ho', hid⟩ := List.mem_map.mp (hall l hl o.id hd)
    rcases List.mem_append.mp ho' with ho' | ho'
    · obtain ⟨b, hb, ho'⟩ := List.mem_flatten.mp ho'
      obtain ⟨t, ht, rfl⟩ := List.mem_map.mp hb
      exact hleft (eq_of_id_eq (htaken t ht) hk ho' ho hid ▸ ht)
    · exact hne (eq_of_id_eq hn hk ho' ho hid)

/-- While a node is left, one that is left waits for none. -/
theorem exists_waitsFor_eq_nil {taken : List Node} {n : Node} (hn : n ∈ nodesOf ls deps)
    (hleft : n ∉ taken) :
    ∃ k ∈ nodesOf ls deps, k ∉ taken ∧
      waitsFor (graphOf (ls.map Library.id) deps) (nodesOf ls deps) taken k = [] := by
  classical
  set ids := ls.map Library.id
  let reached (id : LibraryId) : Finset LibraryId := ids.toFinset.filter (DependsOn ids deps id)
  -- of the libraries that are left, one reaches the fewest
  obtain ⟨start, hstart, hblock⟩ := exists_blockOf hn
  obtain ⟨l, ⟨hl, k, hk, hkblock, hkleft⟩, hleast⟩ :=
    (measure fun l : Library => (reached l.id).card).wf.has_min
      {l | l ∈ ls ∧ ∃ k ∈ nodesOf ls deps, k.block = blockOf ls deps l ∧ k ∉ taken}
      ⟨start, hstart, n, hn, hblock.symm, hleft⟩
  refine ⟨k, hk, hkleft, List.eq_nil_iff_forall_not_mem.mpr fun t hwaits => ?_⟩
  obtain ⟨ht, hneeds, htleft⟩ := mem_waitsFor.mp hwaits
  obtain ⟨hne, a, ha, o, ho, hstep⟩ := needs_iff.mp hneeds
  have hols := mem_of_mem_block ht ho
  have hforth : DependsOn ids deps l.id o.id :=
    ((mem_blockOf hl).mp (hkblock ▸ ha)).2.1.tail hstep
  -- what is needed does not come back, or it would be in the same block
  have hback : ¬ DependsOn ids deps o.id l.id := by
    intro hback
    apply hne
    apply eq_of_block_eq hk ht
    rw [hkblock, block_eq_blockOf ht ho, blockOf_eq_iff hl hols]
    exact ⟨hforth, hback⟩
  -- so it reaches fewer
  refine hleast o ⟨hols, t, ht, block_eq_blockOf ht ho, htleft⟩ (Finset.card_lt_card ?_)
  rw [Finset.ssubset_iff_of_subset]
  · refine ⟨l.id, Finset.mem_filter.mpr ⟨?_, .refl⟩, fun h => hback (Finset.mem_filter.mp h).2⟩
    exact List.mem_toFinset.mpr (List.mem_map_of_mem hl)
  · intro x hx
    obtain ⟨hin, hpath⟩ := Finset.mem_filter.mp hx
    exact Finset.mem_filter.mpr ⟨hin, hforth.trans hpath⟩

end

/-! ## Counting -/

/-- The libraries of some nodes. -/
def nodeLibraries (ns : List Node) : List LibraryId :=
  (ns.map Node.block).flatten.map Library.id

/-- A countdown is right after some nodes were taken: it counts for each node
what that waits for, and the ready nodes are those left that wait for none. -/
structure Counts (graph : DependencyGraph) (nodes taken : List Node) (c : Countdown) : Prop where
  among : ∀ n ∈ taken, n ∈ nodes
  nodup : taken.Nodup
  settled : ∀ n ∈ taken, waitsFor graph nodes taken n = []
  pending : c.pending = nodes.map fun n => (n, (waitsFor graph nodes taken n).length)
  ready : ∀ n, n ∈ c.ready ↔ n ∈ nodes ∧ n ∉ taken ∧ waitsFor graph nodes taken n = []
  libraries : c.taken = nodeLibraries taken

section

variable {graph : DependencyGraph} {nodes taken : List Node} {c : Countdown}

theorem counts_start (graph : DependencyGraph) (nodes : List Node) :
    Counts graph nodes [] (Countdown.start graph nodes) := by
  refine ⟨by simp, List.nodup_nil, by simp, ?_, fun n => ?_, rfl⟩
  · simp only [Countdown.start, waitsFor_nil]
  · simp only [Countdown.start, waitsFor_nil, List.mem_map, List.mem_filter]
    simp

/-- Taking a ready node keeps the counts right. -/
theorem Counts.take (hnodes : nodes.Nodup) (h : Counts graph nodes taken c) {n : Node}
    (hn : n ∈ c.ready) : Counts graph nodes (taken ++ [n]) (c.take graph n) := by
  obtain ⟨hmem, hnew, hnone⟩ := (h.ready n).mp hn
  have hpending : (c.take graph n).pending =
      nodes.map fun k => (k, (waitsFor graph nodes (taken ++ [n]) k).length) := by
    rw [Countdown.take, h.pending, List.map_map]
    refine List.map_congr_left fun k _ => ?_
    rw [length_waitsFor_concat hnodes hmem hnew, Function.comp]
    split <;> rfl
  refine ⟨?_, ?_, ?_, hpending, fun k => ?_, ?_⟩
  · exact List.forall_mem_append.mpr ⟨h.among, List.forall_mem_singleton.mpr hmem⟩
  · exact List.nodup_append_comm.mp (List.nodup_cons.mpr ⟨hnew, h.nodup⟩)
  · refine List.forall_mem_append.mpr ⟨fun k hk => ?_, List.forall_mem_singleton.mpr ?_⟩
    · exact waitsFor_concat_eq_nil hnodes (h.settled k hk) n
    · exact waitsFor_concat_eq_nil hnodes hnone n
  · -- a node is ready if it was so and was not taken, or if it needed no other than the one taken
    have hready : k ∈ (c.take graph n).ready ↔
        k ∈ c.ready ∧ k ≠ n ∨ k ∈ nodes ∧ k.needs graph n = true ∧
          waitsFor graph nodes (taken ++ [n]) k = [] := by
      change k ∈ c.ready.filter (· ≠ n) ++ ((c.take graph n).pending.filter fun p =>
        p.1.needs graph n && p.2 = 0).map Prod.fst ↔ _
      rw [hpending, List.mem_append, List.mem_filter]
      simp
    rw [hready, h.ready, List.mem_append, List.mem_singleton]
    constructor
    · rintro (⟨⟨hk, hleft, hwaits⟩, hne⟩ | ⟨hk, hneeds, hwaits⟩)
      · exact ⟨hk, not_or.mpr ⟨hleft, hne⟩, waitsFor_concat_eq_nil hnodes hwaits n⟩
      · refine ⟨hk, not_or.mpr ⟨fun htaken => ?_, fun heq => ?_⟩, hwaits⟩
        · -- what was taken waited for none, but the node was left
          have hwaits := mem_waitsFor.mpr ⟨hmem, hneeds, hnew⟩
          rw [h.settled k htaken] at hwaits
          exact List.not_mem_nil hwaits
        · exact (needs_iff.mp hneeds).1 heq
    · rintro ⟨hk, hleft, hwaits⟩
      obtain ⟨hleft, hne⟩ := not_or.mp hleft
      by_cases hneeds : k.needs graph n = true
      · exact Or.inr ⟨hk, hneeds, hwaits⟩
      · rw [waitsFor_concat_of_not_needs hnodes hneeds] at hwaits
        exact Or.inl ⟨⟨hk, hleft, hwaits⟩, hne⟩
  · rw [Countdown.take, h.libraries]
    simp [nodeLibraries]

/-- Of the nodes that are left, one waits for none and is the first of those that
do not. -/
def IsNext (graph : DependencyGraph) (nodes taken : List Node) (n : Node) : Prop :=
  waitsFor graph nodes taken n = [] ∧
    ∀ k ∈ nodes, k ∉ taken → waitsFor graph nodes taken k = [] → n.rank ≤ k.rank

/-- Some nodes come after others that were taken: all that are left, each once and
at its turn. -/
structure InTurn (graph : DependencyGraph) (nodes taken ns : List Node) : Prop where
  nodup : (taken ++ ns).Nodup
  all : ∀ n, n ∈ taken ++ ns ↔ n ∈ nodes
  turns : ∀ before n after, ns = before ++ n :: after → IsNext graph nodes (taken ++ before) n

theorem Counts.inTurn_nil (h : Counts graph nodes taken c) (hall : ∀ n ∈ nodes, n ∈ taken) :
    c.taken = nodeLibraries (taken ++ []) ∧ InTurn graph nodes taken [] := by
  refine ⟨?_, ?_, fun n => ?_, by simp⟩
  · rw [h.libraries, List.append_nil]
  · rw [List.append_nil]
    exact h.nodup
  · rw [List.append_nil]
    exact ⟨h.among n, hall n⟩

/-- A countdown that never gets stuck and has a turn for every node takes them all,
each at its turn. -/
theorem Counts.exists_run (hnodes : nodes.Nodup) (budget : Nat)
    (hfree : ∀ taken, ∀ n ∈ nodes, n ∉ taken →
      ∃ k ∈ nodes, k ∉ taken ∧ waitsFor graph nodes taken k = [])
    (h : Counts graph nodes taken c) (hbudget : nodes.length ≤ taken.length + budget) :
    ∃ ns, c.run graph budget = nodeLibraries (taken ++ ns) ∧ InTurn graph nodes taken ns := by
  induction budget generalizing taken c with
  | zero =>
    -- as many nodes were taken as there are
    have hperm : taken.Perm nodes := (h.nodup.subperm h.among).perm_of_length_le (by omega)
    exact ⟨[], h.inTurn_nil fun n => hperm.mem_iff.mpr⟩
  | succ budget ih =>
    rw [Countdown.run]
    split
    · next hnone =>
      -- none is ready, so none is left
      refine ⟨[], h.inTurn_nil fun n hn => ?_⟩
      by_contra hleft
      obtain ⟨k, hk⟩ := hfree taken n hn hleft
      have hready := (h.ready k).mpr hk
      rw [Node.first?_eq_none hnone] at hready
      exact List.not_mem_nil hready
    · next n hn =>
      obtain ⟨hready, hfirst⟩ := Node.first?_spec hn
      have hbudget : nodes.length ≤ (taken ++ [n]).length + budget := by
        rw [List.length_append, List.length_singleton]
        omega
      obtain ⟨ns, hrun, hnodup, hall, hturns⟩ := ih (h.take hnodes hready) hbudget
      rw [List.append_assoc, List.singleton_append] at hrun hnodup hall
      refine ⟨n :: ns, hrun, hnodup, hall, fun before k after hsplit => ?_⟩
      cases before with
      | nil =>
        -- at the first turn all ready nodes were there to be taken
        obtain ⟨rfl, rfl⟩ := List.cons.inj hsplit
        rw [List.append_nil]
        refine ⟨((h.ready n).mp hready).2.2, fun k hk hleft hwaits => hfirst k ?_⟩
        exact (h.ready k).mpr ⟨hk, hleft, hwaits⟩
      | cons a before =>
        -- a later turn is one of the rest, with one node more taken
        obtain ⟨rfl, hrest⟩ := List.cons.inj hsplit
        have hturn := hturns before k after hrest
        rwa [List.append_assoc, List.singleton_append] at hturn

end

/-! ## The order -/

theorem mem_libraryDependencies {m : Model} {ids : List LibraryId} {id d : LibraryId}
    (h : d ∈ libraryDependencies m ids id) : d ∈ ids := by
  rw [libraryDependencies, List.mem_eraseDups, List.mem_filter, Bool.and_eq_true] at h
  exact List.contains_iff_mem.mp h.2.2

/-- The graph the order is made from. -/
def needsGraph (m : Model) (s : Scope) : DependencyGraph :=
  graphOf ((s.userLibraries m).map Library.id)
    (libraryDependencies m ((s.userLibraries m).map Library.id))

/-- The nodes the order is made from. -/
def needsNodes (m : Model) (s : Scope) : List Node :=
  nodesOf (s.userLibraries m) (libraryDependencies m ((s.userLibraries m).map Library.id))

/-- The order takes each block once, at its turn the first of those that wait for
none. -/
theorem exists_turns (m : Model) (s : Scope) :
    ∃ ns, s.order m = nodeLibraries ns ∧ InTurn (needsGraph m s) (needsNodes m s) [] ns :=
  (counts_start (needsGraph m s) (needsNodes m s)).exists_run (nodup_nodesOf _ _)
    (needsNodes m s).length (fun _ _ hn hleft => exists_waitsFor_eq_nil hn hleft)
    (Nat.le_add_left _ _)

/-- The order holds the user libraries in scope, all of them. -/
theorem mem_order {m : Model} {s : Scope} {id : LibraryId} :
    id ∈ s.order m ↔ id ∈ (s.userLibraries m).map Library.id := by
  obtain ⟨ns, horder, -, hmem, -⟩ := exists_turns m s
  rw [List.nil_append] at hmem
  rw [horder, nodeLibraries, List.mem_map, List.mem_map]
  refine exists_congr fun l => and_congr_left fun _ => ?_
  rw [List.mem_flatten]
  constructor
  · rintro ⟨b, hb, hl⟩
    obtain ⟨n, hn, rfl⟩ := List.mem_map.mp hb
    exact mem_of_mem_block ((hmem n).mp hn) hl
  · intro hl
    obtain ⟨n, hn, hblock⟩ := exists_node _ hl
    exact ⟨n.block, List.mem_map_of_mem ((hmem n).mpr hn), hblock ▸ mem_blockOf_self _ hl⟩

theorem mem_userLibraries {m : Model} (hm : m.WellFormed) {s : Scope} {l : Library} :
    l ∈ s.userLibraries m ↔
      l.id ∈ s.libraries ∧ m.library? l.id = some l ∧ l.builtIn = false := by
  rw [userLibraries, List.mem_filterMap]
  constructor
  · rintro ⟨id, hid, hl⟩
    obtain ⟨hl, huser⟩ := Option.filter_eq_some_iff.mp hl
    rw [hm.library_id hl]
    exact ⟨hid, hl, by simpa using huser⟩
  · rintro ⟨hid, hl, huser⟩
    refine ⟨l.id, hid, ?_⟩
    rw [hl, Option.filter_some, huser]
    rfl

/-- A library is in the order exactly when it is in scope and does not come with
the program. -/
theorem mem_order_iff {m : Model} (hm : m.WellFormed) {s : Scope} {id : LibraryId} :
    id ∈ s.order m ↔ id ∈ s.libraries ∧ ∃ l, m.library? id = some l ∧ l.builtIn = false := by
  rw [mem_order, List.mem_map]
  constructor
  · rintro ⟨l, hl, rfl⟩
    obtain ⟨hid, hlib, huser⟩ := (mem_userLibraries hm).mp hl
    exact ⟨hid, l, hlib, huser⟩
  · rintro ⟨hid, l, hlib, huser⟩
    obtain rfl := hm.library_id hlib
    exact ⟨l, (mem_userLibraries hm).mpr ⟨hid, hlib, huser⟩, rfl⟩

end Scope

end TravelModel
