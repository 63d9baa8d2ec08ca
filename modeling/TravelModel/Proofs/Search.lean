import Mathlib.Data.Finset.Card
import Mathlib.Logic.Relation
import TravelModel.Proofs.Arena
import TravelModel.Scope.Basic

/-!
# TravelModel — searches with a budget

The chain of supertypes and the closure of dependencies are searches that
remember what they met. Both run with a budget, one more than there are
slots for entities. A search goes on only from what leads somewhere, and that
is met once, so the budget is never used up and does not show in the result.

Main results:

* `mem_closeLayers_iff` — with enough budget the layers hold exactly what is
  reachable.
* `mem_closure_iff` — the closure of some roots is what they reach along
  dependencies.
* `extensionChain_congr` — the chain depends on the supertypes only, not on
  the number of slots.
-/

namespace TravelModel

/-! ## What is left to meet -/

section

variable {α : Type} [DecidableEq α]

/-- The part of a domain that was not met. -/
def unmet (domain : Finset α) (met : List α) : Finset α :=
  domain.filter fun x => x ∉ met

theorem card_unmet_le (domain : Finset α) (met : List α) :
    (unmet domain met).card ≤ domain.card :=
  Finset.card_filter_le domain _

/-- Meeting one more of the domain leaves less. -/
theorem card_unmet_lt {domain : Finset α} {met met' : List α} (hsub : ∀ x ∈ met, x ∈ met') {x : α}
    (hx : x ∈ domain) (hnew : x ∉ met) (hmet : x ∈ met') :
    (unmet domain met').card < (unmet domain met).card := by
  apply Finset.card_lt_card
  rw [Finset.ssubset_iff_of_subset]
  · exact ⟨x, Finset.mem_filter.mpr ⟨hx, hnew⟩, fun h => (Finset.mem_filter.mp h).2 hmet⟩
  · intro y hy
    obtain ⟨hdomain, hy⟩ := Finset.mem_filter.mp hy
    exact Finset.mem_filter.mpr ⟨hdomain, fun h => hy (hsub y h)⟩

/-! ## Layers -/

/-- What a layer leads to and was not met, each once. -/
theorem mem_fresh {next : α → List α} {layer met : List α} {y : α} :
    y ∈ ((layer.flatMap next).filter fun x => !met.contains x).eraseDups ↔
      (∃ x ∈ layer, y ∈ next x) ∧ y ∉ met := by
  rw [List.mem_eraseDups, List.mem_filter, List.mem_flatMap]
  simp

/-- The layers keep every property that steps keep. -/
theorem closeLayers_induct {next : α → List α} {P : α → Prop}
    (hstep : ∀ x, P x → ∀ y ∈ next x, P y) (budget : Nat) {layer met : List α}
    (hlayer : ∀ x ∈ layer, P x) (hmet : ∀ x ∈ met, P x) :
    ∀ x ∈ closeLayers next budget layer met, P x := by
  fun_induction closeLayers next budget layer met with
  | case1 layer met => exact hmet
  | case2 budget layer met hdone => exact hmet
  | case3 budget layer met hmore ih =>
    have hfresh : ∀ y ∈ ((layer.flatMap next).filter fun x => !met.contains x).eraseDups, P y := by
      intro y hy
      obtain ⟨⟨x, hx, hy⟩, -⟩ := mem_fresh.mp hy
      exact hstep x (hlayer x hx) y hy
    refine ih hfresh fun y hy => ?_
    rcases List.mem_append.mp hy with hy | hy
    · exact hmet y hy
    · exact hfresh y hy

theorem subset_closeLayers (next : α → List α) (budget : Nat) (layer met : List α) :
    ∀ x ∈ met, x ∈ closeLayers next budget layer met := by
  fun_induction closeLayers next budget layer met with
  | case1 layer met => exact fun x hx => hx
  | case2 budget layer met hdone => exact fun x hx => hx
  | case3 budget layer met hmore ih => exact fun x hx => ih x (List.mem_append_left _ hx)

/-- With enough budget the layers are closed under steps. The budget is enough if
it exceeds what is left of the domain, or if the last layer is outside of the
domain and so leads nowhere. -/
theorem closeLayers_closed {next : α → List α} {domain : Finset α}
    (hdomain : ∀ x, next x ≠ [] → x ∈ domain) (budget : Nat) {layer met : List α}
    (hbudget : (unmet domain met).card < budget ∨ ∀ x ∈ layer, x ∉ domain)
    (hmet : ∀ x ∈ met, x ∈ layer ∨ ∀ y ∈ next x, y ∈ met) :
    ∀ x ∈ closeLayers next budget layer met, ∀ y ∈ next x,
      y ∈ closeLayers next budget layer met := by
  fun_induction closeLayers next budget layer met with
  | case1 layer met =>
    intro x hx y hy
    rcases hbudget with hbudget | houtside
    · exact absurd hbudget (Nat.not_lt_zero _)
    · rcases hmet x hx with hlayer | hclosed
      · exact absurd (hdomain x (List.ne_nil_of_mem hy)) (houtside x hlayer)
      · exact hclosed y hy
  | case2 budget layer met hdone =>
    -- nothing is fresh, so the last layer leads to what was met
    intro x hx y hy
    rcases hmet x hx with hlayer | hclosed
    · by_contra hnew
      have hfresh := mem_fresh.mpr ⟨⟨x, hlayer, hy⟩, hnew⟩
      rw [hdone] at hfresh
      exact List.not_mem_nil hfresh
    · exact hclosed y hy
  | case3 budget layer met hmore ih =>
    refine ih ?_ ?_
    · -- a fresh element of the domain makes what is left smaller
      by_cases hinside : ∃ x ∈ ((layer.flatMap next).filter fun x => !met.contains x).eraseDups,
          x ∈ domain
      · obtain ⟨x, hx, hin⟩ := hinside
        obtain ⟨⟨z, hz, hxz⟩, hnew⟩ := mem_fresh.mp hx
        have hless := card_unmet_lt (fun y hy => List.mem_append_left _ hy) hin hnew
          (List.mem_append_right met hx)
        rcases hbudget with hbudget | houtside
        · exact Or.inl (by omega)
        · exact absurd (hdomain z (List.ne_nil_of_mem hxz)) (houtside z hz)
      · exact Or.inr fun x hx hin => hinside ⟨x, hx, hin⟩
    · -- what the old layer leads to is met now, and the fresh ones are the new layer
      intro x hx
      rcases List.mem_append.mp hx with hx | hx
      · right
        intro y hy
        rcases hmet x hx with hlayer | hclosed
        · by_cases hold : y ∈ met
          · exact List.mem_append_left _ hold
          · exact List.mem_append_right _ (mem_fresh.mpr ⟨⟨x, hlayer, hy⟩, hold⟩)
        · exact List.mem_append_left _ (hclosed y hy)
      · exact Or.inl hx

/-- With enough budget the layers hold exactly what the start reaches. -/
theorem mem_closeLayers_iff {next : α → List α} {domain : Finset α}
    (hdomain : ∀ x, next x ≠ [] → x ∈ domain) {budget : Nat} (hbudget : domain.card < budget)
    (roots : List α) {x : α} :
    x ∈ closeLayers next budget roots roots ↔
      ∃ r ∈ roots, Relation.ReflTransGen (fun a b => b ∈ next a) r x := by
  constructor
  · have hroots : ∀ x ∈ roots, ∃ r ∈ roots, Relation.ReflTransGen (fun a b => b ∈ next a) r x :=
      fun x hx => ⟨x, hx, .refl⟩
    refine closeLayers_induct (fun a ⟨r, hr, hpath⟩ b hb => ?_) budget hroots hroots x
    exact ⟨r, hr, hpath.tail hb⟩
  · rintro ⟨r, hr, hpath⟩
    have hclosed := closeLayers_closed hdomain budget
      (Or.inl ((card_unmet_le domain roots).trans_lt hbudget)) (fun x hx => Or.inl hx)
    induction hpath with
    | refl => exact subset_closeLayers next budget roots roots r hr
    | tail _ hstep ih => exact hclosed _ ih _ hstep

end

namespace Model

/-- The numbers of the first slots. -/
def numbers (n : Nat) : Finset EntityId :=
  (Finset.range n).image EntityId.mk

theorem card_numbers_le (n : Nat) : (numbers n).card ≤ n :=
  Finset.card_image_le.trans (Finset.card_range n).le

theorem mem_numbers {n : Nat} {id : EntityId} (h : id.index < n) : id ∈ numbers n :=
  Finset.mem_image.mpr ⟨id.index, Finset.mem_range.mpr h, rfl⟩

/-! ## The closure of dependencies -/

/-- An entity is needed by another, directly or through others. -/
def Reaches (m : Model) : EntityId → EntityId → Prop :=
  Relation.ReflTransGen fun a b => b ∈ m.dependencies a

/-- What is not there needs nothing. -/
theorem dependencies_eq_nil {m : Model} {id : EntityId} (h : m.entity? id = none) :
    m.dependencies id = [] := by
  rw [dependencies, h]

/-- The closure of some roots is what they reach. -/
theorem mem_closure_iff (m : Model) (roots : List EntityId) {x : EntityId} :
    x ∈ m.closure roots ↔ ∃ r ∈ roots, m.Reaches r x := by
  have hdomain : ∀ id, m.dependencies id ≠ [] → id ∈ numbers m.entitySlots.size := by
    intro id hne
    cases he : m.entity? id with
    | none => exact absurd (dependencies_eq_nil he) hne
    | some e => exact mem_numbers (entity?_lt he)
  have hbudget : (numbers m.entitySlots.size).card < m.entitySlots.size + 1 :=
    Nat.lt_succ_of_le (card_numbers_le _)
  rw [closure, mem_closeLayers_iff hdomain hbudget]
  simp only [List.mem_eraseDups, Reaches]

/-! ## The chain of supertypes -/

theorem chainFrom_of_none {m : Model} {id : EntityId} (h : m.supertype? id = none) (budget : Nat)
    (met : List EntityId) : m.chainFrom budget met id = [] := by
  cases budget with
  | zero => rfl
  | succ budget => rw [chainFrom, h]

/-- With enough budget the chain depends on the supertypes only. -/
theorem chainFrom_congr {m m' : Model} (hsuper : ∀ id, m.supertype? id = m'.supertype? id)
    {domain : Finset EntityId} (hdomain : ∀ id, m.supertype? id ≠ none → id ∈ domain)
    (budget budget' : Nat) (met : List EntityId) (current : EntityId)
    (hbudget : (unmet domain met).card < budget) (hbudget' : (unmet domain met).card < budget') :
    m.chainFrom budget met current = m'.chainFrom budget' met current := by
  induction budget generalizing budget' met current with
  | zero => exact absurd hbudget (Nat.not_lt_zero _)
  | succ budget ih =>
    cases budget' with
    | zero => exact absurd hbudget' (Nat.not_lt_zero _)
    | succ budget' =>
      rw [chainFrom, chainFrom, ← hsuper]
      cases m.supertype? current with
      | none => rfl
      | some up =>
        dsimp only
        split
        · rfl
        · next hnew =>
          rw [List.contains_iff_mem] at hnew
          congr 1
          by_cases hup : up ∈ domain
          · have hless := card_unmet_lt (fun y hy => List.mem_cons_of_mem up hy) hup hnew
              List.mem_cons_self
            exact ih budget' (up :: met) up (by omega) (by omega)
          · -- outside of the domain the chain ends, whatever is left of the budget
            have hend : m.supertype? up = none := by
              by_contra hne
              exact hup (hdomain up hne)
            rw [chainFrom_of_none hend, chainFrom_of_none (hsuper up ▸ hend)]

theorem lt_of_supertype? {m : Model} {id : EntityId} (h : m.supertype? id ≠ none) :
    id.index < m.entitySlots.size := by
  cases he : m.entity? id with
  | none =>
    rw [supertype?, he] at h
    exact absurd rfl h
  | some e => exact entity?_lt he

/-- The chain depends on the supertypes only, not on the number of slots. -/
theorem extensionChain_congr {m m' : Model} (hsuper : ∀ id, m.supertype? id = m'.supertype? id)
    (id : EntityId) : m.extensionChain id = m'.extensionChain id := by
  -- a supertype is found below the number of slots of either model
  have hdomain : ∀ id, m.supertype? id ≠ none →
      id ∈ numbers (min m.entitySlots.size m'.entitySlots.size) := by
    intro id hne
    exact mem_numbers (lt_min (lt_of_supertype? hne) (lt_of_supertype? (hsuper id ▸ hne)))
  have hcard := (card_unmet_le (numbers (min m.entitySlots.size m'.entitySlots.size)) [id]).trans
    (card_numbers_le _)
  exact chainFrom_congr hsuper hdomain _ _ [id] id (by omega) (by omega)

end Model

end TravelModel
