import Mathlib.Data.Finset.Card
import TravelModel.Proofs.Lists
import TravelModel.Proofs.RootScope
import TravelModel.Scope.Order

/-!
# TravelModel — libraries that depend on each other

Libraries that depend on each other form a block, so that each library is in
one block. The blocks are found by a walk over all libraries, which leaves none
of them out.

Main results:

* `mem_reach` — the reach of a library is what it depends on, directly or
  through others.
* `blockOf_eq_iff` — two libraries have the same block exactly when they depend
  on each other.
* `mem_leavingOrder` — a walk over some libraries leaves all of them behind.
* `mem_blocksOf` — the blocks that are found are those of the libraries.
-/

namespace TravelModel

section

variable {α : Type} [DecidableEq α]

/-- What comes after the first layer keeps every property that the first layer
leads to and that steps keep. -/
theorem closeLayers_induct_next {next : α → List α} {P : α → Prop}
    (hstep : ∀ x, P x → ∀ y ∈ next x, P y) {budget : Nat} {layer : List α}
    (hlayer : ∀ x ∈ layer, ∀ y ∈ next x, P y) : ∀ x ∈ closeLayers next budget layer [], P x := by
  cases budget with
  | zero => exact fun x hx => absurd hx List.not_mem_nil
  | succ budget =>
    -- nothing has been met yet, so the first layer is not among the result by itself
    have hfresh : ∀ y ∈ ((layer.flatMap next).filter fun x => !([] : List α).contains x).eraseDups,
        P y := by
      intro y hy
      obtain ⟨⟨x, hx, hy⟩, -⟩ := mem_fresh.mp hy
      exact hlayer x hx y hy
    rw [closeLayers]
    split
    · exact fun x hx => absurd hx List.not_mem_nil
    · exact closeLayers_induct hstep budget hfresh hfresh

theorem mem_closeLayers_of_next {next : α → List α} {budget : Nat} {layer : List α} {x y : α}
    (hx : x ∈ layer) (hy : y ∈ next x) : y ∈ closeLayers next (budget + 1) layer [] := by
  have hfresh := mem_fresh.mpr ⟨⟨x, hx, hy⟩, (List.not_mem_nil : y ∉ [])⟩
  rw [closeLayers]
  split
  · next hnil =>
    rw [hnil] at hfresh
    exact absurd hfresh List.not_mem_nil
  · exact subset_closeLayers next budget _ _ y hfresh

end

namespace Scope

/-! ## Dependencies between libraries -/

theorem next_map {f : LibraryId → List LibraryId} {ids : List LibraryId} {id : LibraryId} :
    DependencyGraph.next (ids.map fun id => (id, f id)) id = if id ∈ ids then f id else [] := by
  induction ids with
  | nil => rfl
  | cons a rest ih =>
    rw [DependencyGraph.next] at ih ⊢
    by_cases h : a = id
    · simp [h]
    · rw [List.map_cons, List.find?_cons_of_neg (by simpa using h), ih]
      simp [Ne.symm h]

section

variable (ids : List LibraryId) (deps : LibraryId → List LibraryId)

/-- The graph of some libraries. -/
def graphOf : DependencyGraph :=
  ids.map fun id => (id, deps id)

/-- The reach of each of some libraries. -/
def reachOf : DependencyGraph :=
  ids.map fun id => (id, (graphOf ids deps).reach id)

/-- A library depends on another, directly or through others, or is the same. -/
def DependsOn : LibraryId → LibraryId → Prop :=
  Relation.ReflTransGen fun a b => b ∈ (graphOf ids deps).next a

variable {ids deps}

theorem mem_of_next_ne_nil {id : LibraryId} (h : (graphOf ids deps).next id ≠ []) : id ∈ ids := by
  by_contra hid
  rw [graphOf, next_map, if_neg hid] at h
  exact h rfl

/-- The reach is what a library depends on, directly or through others. -/
theorem mem_reach {id x : LibraryId} :
    x ∈ (graphOf ids deps).reach id ↔
      Relation.TransGen (fun a b => b ∈ (graphOf ids deps).next a) id x := by
  rw [DependencyGraph.reach]
  constructor
  · refine closeLayers_induct_next (fun a hpath b hb => hpath.tail hb) ?_ x
    intro a ha b hb
    rw [List.mem_singleton.mp ha] at hb
    exact .single hb
  · intro hpath
    -- only the libraries themselves lead anywhere, one of them fewer than the budget
    have hdomain : ∀ a, (graphOf ids deps).next a ≠ [] → a ∈ ids.toFinset :=
      fun a ha => List.mem_toFinset.mpr (mem_of_next_ne_nil ha)
    have hcard : (unmet ids.toFinset []).card < (graphOf ids deps).length + 1 := by
      have hle := (card_unmet_le ids.toFinset []).trans (List.toFinset_card_le ids)
      rw [graphOf, List.length_map]
      omega
    have hclosed := closeLayers_closed hdomain _ (Or.inl hcard : _ ∨ ∀ a ∈ [id], a ∉ ids.toFinset)
      fun a ha => absurd ha List.not_mem_nil
    induction hpath with
    | single hstep => exact mem_closeLayers_of_next (List.mem_singleton_self id) hstep
    | tail _ hstep ih => exact hclosed _ ih _ hstep

/-- Two libraries depend on each other or are the same. -/
def Together (ids : List LibraryId) (deps : LibraryId → List LibraryId) (a b : LibraryId) : Prop :=
  DependsOn ids deps a b ∧ DependsOn ids deps b a

theorem together_iff_transGen {a b : LibraryId} :
    Together ids deps a b ↔
      b = a ∨ Relation.TransGen (fun a b => b ∈ (graphOf ids deps).next a) a b ∧
        Relation.TransGen (fun a b => b ∈ (graphOf ids deps).next a) b a := by
  rw [Together, DependsOn, Relation.reflTransGen_iff_eq_or_transGen,
    Relation.reflTransGen_iff_eq_or_transGen]
  constructor
  · rintro ⟨heq | hab, heq' | hba⟩
    · exact Or.inl heq
    · exact Or.inl heq
    · exact Or.inl heq'.symm
    · exact Or.inr ⟨hab, hba⟩
  · rintro (rfl | ⟨hab, hba⟩)
    · exact ⟨Or.inl rfl, Or.inl rfl⟩
    · exact ⟨Or.inr hab, Or.inr hba⟩

theorem together_iff {a b : LibraryId} (ha : a ∈ ids) (hb : b ∈ ids) :
    Together ids deps a b ↔
      b = a ∨ b ∈ (reachOf ids deps).next a ∧ a ∈ (reachOf ids deps).next b := by
  rw [together_iff_transGen, reachOf, next_map, next_map, if_pos ha, if_pos hb, mem_reach,
    mem_reach]

theorem Together.symm {a b : LibraryId} (h : Together ids deps a b) :
    Together ids deps b a :=
  ⟨h.2, h.1⟩

theorem Together.trans {a b c : LibraryId} (h : Together ids deps a b)
    (h' : Together ids deps b c) : Together ids deps a c :=
  ⟨Relation.ReflTransGen.trans h.1 h'.1, Relation.ReflTransGen.trans h'.2 h.2⟩

end

/-! ## Blocks -/

section

variable {ls : List Library} {deps : LibraryId → List LibraryId}

/-- The block of a library among some. -/
def blockOf (ls : List Library) (deps : LibraryId → List LibraryId) (l : Library) : List Library :=
  block (reachOf (ls.map Library.id) deps) ls l

theorem mem_blockOf {l k : Library} (hl : l ∈ ls) :
    k ∈ blockOf ls deps l ↔ k ∈ ls ∧ Together (ls.map Library.id) deps l.id k.id := by
  rw [blockOf, block, sortLibraries, List.mem_mergeSort, List.mem_filter]
  refine and_congr_right fun hk => ?_
  rw [together_iff (List.mem_map_of_mem hl) (List.mem_map_of_mem hk)]
  simp

theorem mem_blockOf_self (deps : LibraryId → List LibraryId) {l : Library} (hl : l ∈ ls) :
    l ∈ blockOf ls deps l :=
  (mem_blockOf hl).mpr ⟨hl, .refl, .refl⟩

/-- Two libraries have the same block exactly when they depend on each other. -/
theorem blockOf_eq_iff {k l : Library} (hk : k ∈ ls) (hl : l ∈ ls) :
    blockOf ls deps k = blockOf ls deps l ↔ Together (ls.map Library.id) deps k.id l.id := by
  constructor
  · intro heq
    exact ((mem_blockOf hk).mp (heq ▸ mem_blockOf_self deps hl)).2
  · intro h
    rw [blockOf, block, blockOf, block]
    congr 1
    refine List.filter_congr fun o ho => ?_
    -- either test says whether a library is together with the one or the other
    have htest : ∀ {p : Library}, p ∈ ls →
        ((o.id = p.id || ((reachOf (ls.map Library.id) deps).next p.id).contains o.id &&
          ((reachOf (ls.map Library.id) deps).next o.id).contains p.id) = true ↔
          Together (ls.map Library.id) deps p.id o.id) := by
      intro p hp
      rw [together_iff (List.mem_map_of_mem hp) (List.mem_map_of_mem ho)]
      simp
    rw [Bool.eq_iff_iff, htest hk, htest hl]
    exact ⟨h.symm.trans, h.trans⟩

theorem nodup_blockOf (hls : ls.Nodup) (l : Library) : (blockOf ls deps l).Nodup :=
  (List.mergeSort_perm _ _).nodup_iff.mpr (hls.filter _)

/-! ## Finding the blocks -/

/-- A walk went on: what was met or left is so still, and what was met since then
was left as well. -/
structure Walk.Extends (w w' : Walk) : Prop where
  met : ∀ l ∈ w.met, l ∈ w'.met
  left : ∀ l ∈ w.left, l ∈ w'.left
  settled : ∀ l ∈ w'.met, l ∈ w.met ∨ l ∈ w'.left

theorem Walk.Extends.refl (w : Walk) : w.Extends w :=
  ⟨fun _ h => h, fun _ h => h, fun _ h => Or.inl h⟩

theorem Walk.Extends.trans {w w' w'' : Walk} (h : w.Extends w') (h' : w'.Extends w'') :
    w.Extends w'' := by
  refine ⟨fun l hl => h'.met l (h.met l hl), fun l hl => h'.left l (h.left l hl), fun l hl => ?_⟩
  rcases h'.settled l hl with hmet | hleft
  · exact (h.settled l hmet).imp id (h'.left l)
  · exact Or.inr hleft

variable {next : Library → List Library}

theorem Walk.extends_foldl {visit : Walk → Library → Walk}
    (hvisit : ∀ (w : Walk) (l : Library), w.Extends (visit w l)) (ls : List Library) (w : Walk) :
    w.Extends (ls.foldl visit w) := by
  induction ls generalizing w with
  | nil => exact .refl w
  | cons l rest ih => exact (hvisit w l).trans (ih (visit w l))

theorem Walk.extends_visit (budget : Nat) (w : Walk) (l : Library) :
    w.Extends (w.visit next budget l) := by
  induction budget generalizing w l with
  | zero => exact .refl w
  | succ budget ih =>
    rw [Walk.visit]
    split
    · exact .refl w
    · have hbelow := extends_foldl ih (next l) { w with met := l :: w.met }
      refine ⟨fun k hk => hbelow.met k (List.mem_cons_of_mem l hk),
        fun k hk => List.mem_append_left _ (hbelow.left k hk), fun k hk => ?_⟩
      -- the library itself is left last
      rcases hbelow.settled k hk with hmet | hleft
      · rcases List.mem_cons.mp hmet with rfl | hmet
        · exact Or.inr (List.mem_append_right _ (List.mem_singleton_self k))
        · exact Or.inl hmet
      · exact Or.inr (List.mem_append_left _ hleft)

theorem Walk.mem_met_visit {budget : Nat} (hbudget : 0 < budget) (w : Walk) (l : Library) :
    l ∈ (w.visit next budget l).met := by
  obtain ⟨budget, rfl⟩ := Nat.exists_eq_succ_of_ne_zero hbudget.ne'
  rw [Walk.visit]
  split
  · next hmet => exact hmet
  · exact (extends_foldl (extends_visit budget) (next l) { w with met := l :: w.met }).met l
      List.mem_cons_self

/-- Only what the libraries lead to is left behind. -/
theorem Walk.left_visit {P : Library → Prop} (hnext : ∀ l, ∀ k ∈ next l, P k) (budget : Nat)
    {w : Walk} (hw : ∀ l ∈ w.left, P l) {l : Library} (hl : P l) :
    ∀ k ∈ (w.visit next budget l).left, P k := by
  induction budget generalizing w l with
  | zero => exact hw
  | succ budget ih =>
    rw [Walk.visit]
    split
    · exact hw
    · have hbelow : ∀ k ∈ ((next l).foldl (Walk.visit next budget)
          { w with met := l :: w.met }).left, P k := by
        refine List.foldlRecOn (motive := fun w : Walk => ∀ k ∈ w.left, P k) (next l) _ hw ?_
        exact fun w hw k hk => ih hw (hnext l k hk)
      intro k hk
      rcases List.mem_append.mp hk with hk | hk
      · exact hbelow k hk
      · exact List.mem_singleton.mp hk ▸ hl

/-- A walk over some libraries that stays among them leaves all of them behind. -/
theorem mem_leavingOrder (hnext : ∀ l, ∀ k ∈ next l, k ∈ ls) {l : Library} :
    l ∈ leavingOrder next ls ↔ l ∈ ls := by
  rw [leavingOrder]
  constructor
  · refine List.foldlRecOn (motive := fun w : Walk => ∀ l ∈ w.left, l ∈ ls) ls _ ?_ ?_ l
    · exact fun l hl => absurd hl List.not_mem_nil
    · exact fun w hw k hk => Walk.left_visit hnext _ hw hk
  · intro hl
    -- the library is met at its turn at the latest, and what was met is left
    obtain ⟨before, after, hsplit⟩ := List.append_of_mem hl
    have hbudget : 0 < ls.length := List.length_pos_of_mem hl
    have hvisit (w : Walk) (k : Library) : w.Extends (w.visit next ls.length k) :=
      Walk.extends_visit ls.length w k
    have hmet : l ∈ (ls.foldl (Walk.visit next ls.length) {}).met := by
      nth_rewrite 2 [hsplit]
      rw [List.foldl_append, List.foldl_cons]
      exact (Walk.extends_foldl hvisit after _).met l (Walk.mem_met_visit hbudget _ l)
    exact ((Walk.extends_foldl hvisit ls {}).settled l hmet).resolve_left List.not_mem_nil

/-- The blocks that are found among some libraries. -/
def blocksOf (ls : List Library) (deps : LibraryId → List LibraryId) : List (List Library) :=
  blocks (graphOf (ls.map Library.id) deps) (reachOf (ls.map Library.id) deps) ls

theorem mem_blocksOf {b : List Library} :
    b ∈ blocksOf ls deps ↔ ∃ l ∈ ls, blockOf ls deps l = b := by
  have hdependents : ∀ l, ∀ k ∈ dependents (graphOf (ls.map Library.id) deps) ls l, k ∈ ls :=
    fun l k hk => (List.mem_filter.mp hk).1
  rw [blocksOf, blocks, List.mem_eraseDups, List.mem_map]
  simp only [List.mem_reverse, mem_leavingOrder hdependents]
  rfl

theorem nodup_blocksOf (ls : List Library) (deps : LibraryId → List LibraryId) :
    (blocksOf ls deps).Nodup :=
  nodup_eraseDups _

end

end Scope

end TravelModel
