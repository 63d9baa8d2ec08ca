import Mathlib.Data.List.Forall2
import Mathlib.Data.List.Induction
import Mathlib.Data.List.Nodup
import Mathlib.Data.List.Pairwise

/-!
# TravelModel — lists and loops

Documents, findings and names are lists that are joined from smaller ones, searched
front to back and kept without repetition, and most of them are made by loops that stop
at the first error. Here is what the library does not say about such lists and loops.

Main results:

* `exists_of_flatMap_eq`, `nodup_flatMap_iff` — where an item of joined lists comes from,
  and when no item is there twice.
* `findSome?_eq_or` — a search that finds more than another one at its last place only.
* `eraseDups_filter` — an induction along `eraseDups`.
* `exists_of_mem_mapM`, `exists_of_foldlM_eq_ok` — loops that can fail.
-/

namespace TravelModel

/-! ## Joined lists -/

theorem flatMap_filter {α β : Type} (as : List α) (p : α → Bool) (f : α → List β) :
    (as.filter p).flatMap f = as.flatMap fun a => if p a then f a else [] := by
  induction as with
  | nil => rfl
  | cons a rest ih =>
    rw [List.flatMap_cons, ← ih]
    by_cases h : p a
    · rw [List.filter_cons_of_pos h, List.flatMap_cons, if_pos h]
    · rw [List.filter_cons_of_neg h, if_neg h, List.nil_append]

/-- Where an element stands in joined lists: in one of them, after the lists before
it. -/
theorem exists_of_flatMap_eq {α β : Type} {f : α → List β} {xs : List α} {before after : List β}
    {y : β} (h : xs.flatMap f = before ++ y :: after) :
    ∃ nearer x farther front back, xs = nearer ++ x :: farther ∧ f x = front ++ y :: back ∧
      before = nearer.flatMap f ++ front := by
  induction xs generalizing before with
  | nil => simp at h
  | cons x rest ih =>
    rw [List.flatMap_cons] at h
    rcases List.append_eq_append_iff.mp h with ⟨middle, hbefore, hrest⟩ | ⟨middle, hx, hrest⟩
    · -- the element stands in a later list
      obtain ⟨nearer, z, farther, front, back, rfl, hz, rfl⟩ := ih hrest
      exact ⟨x :: nearer, z, farther, front, back, rfl, hz, by
        rw [hbefore, List.flatMap_cons, List.append_assoc]⟩
    · cases middle with
      | nil =>
        -- the first list ends right before the element
        have hrest : rest.flatMap f = [] ++ y :: after := hrest.symm
        obtain ⟨nearer, z, farther, front, back, rfl, hz, hfront⟩ := ih hrest
        exact ⟨x :: nearer, z, farther, front, back, rfl, hz, by
          rw [List.flatMap_cons, List.append_assoc, ← hfront, hx, List.append_nil,
            List.append_nil]⟩
      | cons y' back =>
        rw [List.cons_append] at hrest
        obtain ⟨rfl, -⟩ := List.cons.inj hrest
        exact ⟨[], x, rest, before, back, rfl, hx, rfl⟩

theorem forall₂_flatMap {α β γ : Type} {R : β → γ → Prop} {f : α → List β} {g : α → List γ}
    {xs : List α} (h : ∀ x ∈ xs, List.Forall₂ R (f x) (g x)) :
    List.Forall₂ R (xs.flatMap f) (xs.flatMap g) := by
  induction xs with
  | nil => exact List.Forall₂.nil
  | cons x rest ih =>
    rw [List.flatMap_cons, List.flatMap_cons]
    exact List.rel_append (h x List.mem_cons_self) (ih fun y hy => h y (List.mem_cons_of_mem _ hy))

/-- A list made from the items of another has no item twice if no two items give the
same. -/
theorem nodup_flatMap_iff {α β : Type} {as : List α} {f : α → List β} (has : as.Nodup)
    (hf : ∀ a, (f a).Nodup) :
    (as.flatMap f).Nodup ↔ ∀ a ∈ as, ∀ b ∈ as, ∀ x ∈ f a, x ∈ f b → a = b := by
  rw [List.nodup_flatMap]
  constructor
  · rintro ⟨-, hdisjoint⟩ a ha b hb x hx hx'
    by_contra hne
    have hsymm : Std.Symm (Function.onFun List.Disjoint f) := ⟨fun _ _ h _ ha hb => h hb ha⟩
    exact hdisjoint.forall ha hb hne hx hx'
  · intro h
    refine ⟨fun a _ => hf a, has.pairwise_of_forall_ne fun a ha b hb hne x hx hx' => ?_⟩
    exact hne (h a ha b hb x hx hx')

/-- A list without repetition has one if it is taken twice, unless it is empty. -/
theorem nodup_flatMap_const {α β : Type} {bs : List β} (h : bs.Nodup) (as : List α) :
    (as.flatMap fun _ => bs).Nodup ↔ bs = [] ∨ as.length ≤ 1 := by
  cases as with
  | nil => simp
  | cons a rest =>
    cases rest with
    | nil => simpa using h
    | cons a' more =>
      constructor
      · intro hnodup
        rw [List.nodup_flatMap] at hnodup
        -- the list has nothing in common with itself
        have hself : bs.Disjoint bs := (List.pairwise_cons.mp hnodup.2).1 a' List.mem_cons_self
        exact Or.inl (List.eq_nil_iff_forall_not_mem.mpr fun b hb => hself hb hb)
      · rintro (rfl | hlength)
        · rw [List.flatMap_eq_nil_iff.mpr fun _ _ => rfl]
          exact List.nodup_nil
        · exact absurd hlength (by simp)

/-! ## Searches -/

section

variable {α β : Type} {f g : α → Option β} {xs : List α}

theorem findSome?_congr (h : ∀ x ∈ xs, f x = g x) : xs.findSome? f = xs.findSome? g := by
  induction xs with
  | nil => rfl
  | cons x rest ih =>
    rw [List.findSome?_cons, List.findSome?_cons, h x List.mem_cons_self,
      ih fun y hy => h y (List.mem_cons_of_mem _ hy)]

/-- A search that differs from another one at a single value, which comes last and where the
other one finds nothing, finds what the other one finds, or else what is at that value. -/
theorem findSome?_eq_or [DecidableEq α] {a : α} (hlast : a ∉ xs.dropLast) (hf : f a = none)
    (hg : ∀ x, x ≠ a → g x = f x) :
    xs.findSome? g = (xs.findSome? f).or (if a ∈ xs then g a else none) := by
  cases xs using List.reverseRecOn with
  | nil => rfl
  | append_singleton ys b =>
    rw [List.dropLast_concat] at hlast
    have hsame : ys.findSome? g = ys.findSome? f :=
      findSome?_congr fun y hy => hg y fun heq => hlast (heq ▸ hy)
    rw [List.findSome?_append, List.findSome?_append, hsame, Option.or_assoc]
    refine congrArg (Option.or _) ?_
    rw [List.findSome?_singleton, List.findSome?_singleton]
    by_cases hb : b = a
    · rw [hb, hf, Option.none_or, if_pos (List.mem_append_right _ (List.mem_singleton_self a))]
    · have hnot : a ∉ ys ++ [b] := by
        rw [List.mem_append, List.mem_singleton]
        rintro (hy | heq)
        · exact hlast hy
        · exact hb heq.symm
      rw [if_neg hnot, hg b hb, Option.or_none]

/-- Passing over some values changes nothing if the first one found is kept. -/
theorem findSome?_filter {α β : Type} {p : β → Bool} {f : α → Option β} {xs : List α}
    (h : ∀ b, xs.findSome? f = some b → p b = true) :
    (xs.findSome? fun x => (f x).filter p) = xs.findSome? f := by
  induction xs with
  | nil => rfl
  | cons x rest ih =>
    rw [List.findSome?_cons] at h ⊢
    rw [List.findSome?_cons]
    cases hx : f x with
    | none =>
      rw [hx] at h
      exact ih h
    | some b =>
      rw [hx] at h
      rw [Option.filter_some, if_pos (h b rfl)]

end

/-! ## Items, each once -/

/-- Induction on a list by its head and what differs from the head, as `eraseDups` goes
through it. -/
theorem eraseDups_induction {α : Type} [BEq α] {P : List α → Prop} (nil : P [])
    (cons : ∀ a rest, P (rest.filter fun b => !b == a) → P (a :: rest)) (as : List α) : P as := by
  induction h : as.length using Nat.strongRecOn generalizing as with
  | ind n ih =>
    cases as with
    | nil => exact nil
    | cons a rest =>
      have hshort : (rest.filter fun b => !b == a).length < n := by
        rw [← h, List.length_cons]
        exact Nat.lt_succ_of_le (List.length_filter_le _ rest)
      exact cons a rest (ih _ hshort _ rfl)

section

variable {α : Type} [BEq α] [LawfulBEq α]

theorem eraseDups_filter (p : α → Bool) (as : List α) :
    (as.filter p).eraseDups = as.eraseDups.filter p := by
  induction as using eraseDups_induction with
  | nil => rfl
  | cons a rest ih =>
    rw [List.eraseDups_cons]
    by_cases ha : p a
    · rw [List.filter_cons_of_pos ha, List.filter_cons_of_pos ha, List.eraseDups_cons,
        List.filter_comm, ih]
    · -- what the test refuses is no longer there to be found again
      rw [List.filter_cons_of_neg ha, List.filter_cons_of_neg ha, ← ih, List.filter_filter]
      refine congrArg List.eraseDups (List.filter_congr fun b _ => ?_)
      by_cases hb : b == a
      · rw [eq_of_beq hb]
        simpa using ha
      · simp [hb]

theorem nodup_eraseDups (as : List α) : as.eraseDups.Nodup := by
  induction as using eraseDups_induction with
  | nil => exact List.nodup_nil
  | cons a rest ih =>
    rw [List.eraseDups_cons, List.nodup_cons]
    refine ⟨fun hmem => ?_, ih⟩
    have hne := (List.mem_filter.mp (List.mem_eraseDups.mp hmem)).2
    simp at hne

end

/-! ## Loops -/

/-- What follows a step was given a result of the step. -/
theorem exists_of_bind_eq_ok {ε α β : Type} {x : Except ε α} {f : α → Except ε β} {b : β}
    (h : (x >>= f) = .ok b) : ∃ a, x = .ok a ∧ f a = .ok b := by
  cases x with
  | error e => cases h
  | ok a => exact ⟨a, rfl, h⟩

/-- A loop whose steps do not fail does not fail. -/
theorem mapM_eq_ok {ε α β : Type} {f : α → Except ε β} {g : α → β} {as : List α}
    (h : ∀ a ∈ as, f a = .ok (g a)) : as.mapM f = .ok (as.map g) := by
  induction as with
  | nil => rfl
  | cons a rest ih =>
    rw [List.mapM_cons, h a List.mem_cons_self, ih fun b hb => h b (List.mem_cons_of_mem _ hb)]
    rfl

/-- What a loop makes, one of its steps makes. -/
theorem exists_of_mem_mapM {ε α β : Type} {f : α → Except ε β} {as : List α} {bs : List β}
    (h : as.mapM f = .ok bs) {b : β} (hb : b ∈ bs) : ∃ a ∈ as, f a = .ok b := by
  induction as generalizing bs with
  | nil =>
    cases h
    exact absurd hb List.not_mem_nil
  | cons a rest ih =>
    rw [List.mapM_cons] at h
    obtain ⟨first, hfirst, h⟩ := exists_of_bind_eq_ok h
    obtain ⟨others, hothers, h⟩ := exists_of_bind_eq_ok h
    cases h
    rcases List.mem_cons.mp hb with rfl | hb
    · exact ⟨a, List.mem_cons_self, hfirst⟩
    · obtain ⟨a', ha', hstep⟩ := ih hothers hb
      exact ⟨a', List.mem_cons_of_mem _ ha', hstep⟩

/-- A step of a loop has made a part of what the loop makes. -/
theorem exists_mem_of_mapM {ε α β : Type} {f : α → Except ε β} {as : List α} {bs : List β}
    (h : as.mapM f = .ok bs) {a : α} (ha : a ∈ as) : ∃ b ∈ bs, f a = .ok b := by
  induction as generalizing bs with
  | nil => exact absurd ha List.not_mem_nil
  | cons first rest ih =>
    rw [List.mapM_cons] at h
    obtain ⟨b, hb, h⟩ := exists_of_bind_eq_ok h
    obtain ⟨others, hothers, h⟩ := exists_of_bind_eq_ok h
    cases h
    rcases List.mem_cons.mp ha with rfl | ha
    · exact ⟨b, List.mem_cons_self, hb⟩
    · obtain ⟨b', hb', hstep⟩ := ih hothers ha
      exact ⟨b', List.mem_cons_of_mem _ hb', hstep⟩

/-- What is collected from the parts of a list is in one of the parts. -/
theorem exists_part_of_mem {ε α β : Type} {part : α → Except ε (List β)} {as : List α}
    {all : List β} (h : (do return (← as.mapM part).flatten) = .ok all) {x : β} (hx : x ∈ all) :
    ∃ a made, part a = .ok made ∧ x ∈ made := by
  obtain ⟨parts, hparts, h⟩ := exists_of_bind_eq_ok h
  cases h
  obtain ⟨made, hmade, hx⟩ := List.mem_flatten.mp hx
  obtain ⟨a, -, hstep⟩ := exists_of_mem_mapM hparts hmade
  exact ⟨a, made, hstep, hx⟩

/-- A fold that succeeds has come past each of its steps. -/
theorem exists_of_foldlM_eq_ok {ε α σ : Type} {step : σ → α → Except ε σ} {xs : List α} {s s' : σ}
    (h : xs.foldlM step s = .ok s') {x : α} (hx : x ∈ xs) : ∃ a b, step a x = .ok b := by
  induction xs generalizing s with
  | nil => exact absurd hx List.not_mem_nil
  | cons y rest ih =>
    rw [List.foldlM_cons] at h
    obtain ⟨next, hnext, h⟩ := exists_of_bind_eq_ok h
    rcases List.mem_cons.mp hx with rfl | hx
    · exact ⟨s, next, hnext⟩
    · exact ih h hx

/-- A fold adds what its steps add. -/
theorem foldl_iff {σ β : Type} {f : σ → β → σ} {P : σ → Prop} {A : β → Prop}
    (hstep : ∀ s b, P (f s b) ↔ P s ∨ A b) (bs : List β) (s : σ) :
    P (bs.foldl f s) ↔ P s ∨ ∃ b ∈ bs, A b := by
  induction bs generalizing s with
  | nil => simp
  | cons b rest ih =>
    rw [List.foldl_cons, ih, hstep, List.exists_mem_cons_iff, or_assoc]

end TravelModel
