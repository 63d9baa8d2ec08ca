import Mathlib.Data.List.Chain
import TravelModel.Proofs.Binding

/-!
# TravelModel — chains of supertypes

Whoever goes up from an entity to its supertype, and from there to the next,
comes to an entity that extends nothing or to one met before. The chain of an
entity is this way with the return left out, and an extension is circular if
the way ends in a return. The search runs with a budget; `Ascent` describes the
way without one, and everything else is read off it.

Main results:

* `ascent_extensionChain` — the budget is enough: the chain is a whole way up.
* `Ascent.nodup`, `Ascent.isChain`, `Ascent.closed` — a way up meets nothing
  twice, goes from each to its supertype and leaves out nothing.
* `hasCircularExtension_iff` — an extension is circular if and only if every
  entity on the way up extends another one.
* `extensionChain_of_extends`, `extensionChain_of_append` — without a circle the
  chain of an entity is its supertype and the chain of that, and the chain of any
  supertype is the rest.
* `circular_extensions_exact` — chains, circles and the findings on them, for
  refreshed models.
-/

namespace TravelModel.Model

/-! ## Direct supertypes -/

/-- One entity extends another: what it declares to extend is bound to a symbol
of the other. -/
def Extends (m : Model) (a b : EntityId) : Prop :=
  ∃ e r, m.entity? a = some e ∧ e.body.extension? = some r ∧ r.entity? = some b

theorem extends_iff {m : Model} {a b : EntityId} : m.Extends a b ↔ m.supertype? a = some b := by
  rw [supertype?, Option.bind_eq_some_iff]
  constructor
  · rintro ⟨e, r, he, hr, hb⟩
    exact ⟨r, Option.bind_eq_some_iff.mpr ⟨e, he, hr⟩, hb⟩
  · rintro ⟨r, hr, hb⟩
    obtain ⟨e, he, hr⟩ := Option.bind_eq_some_iff.mp hr
    exact ⟨e, r, he, hr, hb⟩

/-- No entity extends two. -/
theorem Extends.unique {m : Model} {a b b' : EntityId} (h : m.Extends a b) (h' : m.Extends a b') :
    b = b' := by
  rw [extends_iff] at h h'
  rw [h] at h'
  exact Option.some.inj h'

/-! ## Ways up -/

/-- A way up from an entity, with what was met so far. It ends where nothing is
extended, or before the first that was met. -/
inductive Ascent (m : Model) : List EntityId → EntityId → List EntityId → Prop where
  | top {met : List EntityId} {x : EntityId} (hnone : m.supertype? x = none) : Ascent m met x []
  | back {met : List EntityId} {x up : EntityId} (hup : m.supertype? x = some up)
      (hmet : up ∈ met) : Ascent m met x []
  | step {met rest : List EntityId} {x up : EntityId} (hup : m.supertype? x = some up)
      (hnew : up ∉ met) (hrest : Ascent m (up :: met) up rest) : Ascent m met x (up :: rest)

/-- A budget that exceeds what is left to meet is enough for the whole way. -/
theorem ascent_chainFrom {m : Model} {domain : Finset EntityId}
    (hdomain : ∀ id, m.supertype? id ≠ none → id ∈ domain) (budget : Nat) (met : List EntityId)
    (current : EntityId) (hbudget : (unmet domain met).card < budget) :
    Ascent m met current (m.chainFrom budget met current) := by
  induction budget generalizing met current with
  | zero => exact absurd hbudget (Nat.not_lt_zero _)
  | succ budget ih =>
    rw [chainFrom]
    cases hup : m.supertype? current with
    | none => exact .top hup
    | some up =>
      dsimp only
      split
      · next hmet => exact .back hup (List.contains_iff_mem.mp hmet)
      · next hnew =>
        rw [List.contains_iff_mem] at hnew
        refine .step hup hnew ?_
        by_cases hin : up ∈ domain
        · have hless := card_unmet_lt (fun y hy => List.mem_cons_of_mem up hy) hin hnew
            List.mem_cons_self
          exact ih (up :: met) up (by omega)
        · -- outside of the domain nothing is extended, so the budget does not matter
          have hend : m.supertype? up = none := by
            by_contra hne
            exact hin (hdomain up hne)
          rw [chainFrom_of_none hend]
          exact .top hend

/-- The chain of an entity is a whole way up: every entity that extends another
has a slot, and the budget exceeds the slots. -/
theorem ascent_extensionChain (m : Model) (id : EntityId) :
    Ascent m [id] id (m.extensionChain id) := by
  have hcard := (card_unmet_le (numbers m.entitySlots.size) [id]).trans (card_numbers_le _)
  exact ascent_chainFrom (fun x hx => mem_numbers (lt_of_supertype? hx)) _ [id] id (by omega)

namespace Ascent

variable {m : Model} {met : List EntityId} {x : EntityId} {way : List EntityId}

theorem notMem (h : Ascent m met x way) : ∀ y ∈ way, y ∉ met := by
  induction h with
  | top | back => exact fun y hy => absurd hy List.not_mem_nil
  | step hup hnew hrest ih =>
    intro y hy hmet
    rcases List.mem_cons.mp hy with rfl | hy
    · exact hnew hmet
    · exact ih y hy (List.mem_cons_of_mem _ hmet)

/-- Nothing is met twice. -/
theorem nodup (h : Ascent m met x way) : way.Nodup := by
  induction h with
  | top | back => exact List.nodup_nil
  | step hup hnew hrest ih =>
    exact List.nodup_cons.mpr ⟨fun hmem => hrest.notMem _ hmem List.mem_cons_self, ih⟩

/-- Each step is to the supertype. -/
theorem isChain (h : Ascent m met x way) : List.IsChain m.Extends (x :: way) := by
  induction h with
  | top | back => exact List.isChain_singleton _
  | step hup hnew hrest ih => exact List.isChain_cons_cons.mpr ⟨extends_iff.mpr hup, ih⟩

/-- The supertype of each on the way is on the way or was met before. -/
theorem closed (h : Ascent m met x way) {y z : EntityId} (hy : y ∈ x :: way)
    (hz : m.Extends y z) : z ∈ met ∨ z ∈ way := by
  induction h with
  | top hnone =>
    rw [List.mem_singleton.mp hy, extends_iff, hnone] at hz
    cases hz
  | back hup hmet =>
    rw [List.mem_singleton.mp hy] at hz
    rw [(extends_iff.mpr hup).unique hz] at hmet
    exact Or.inl hmet
  | step hup hnew hrest ih =>
    rcases List.mem_cons.mp hy with rfl | hy
    · rw [(extends_iff.mpr hup).unique hz]
      exact Or.inr List.mem_cons_self
    · rcases ih hy with hmem | hmem
      · rcases List.mem_cons.mp hmem with rfl | hmem
        · exact Or.inr List.mem_cons_self
        · exact Or.inl hmem
      · exact Or.inr (List.mem_cons_of_mem _ hmem)

/-- The last on the way is reached along supertypes. -/
theorem reaches_last (h : Ascent m met x way) :
    Relation.ReflTransGen m.Extends x (way.getLast?.getD x) := by
  induction h with
  | top | back => exact .refl
  | step hup hnew hrest ih =>
    rw [List.getLast?_cons, Option.getD_some]
    exact .head (extends_iff.mpr hup) ih

/-- Only the last on the way can be without a supertype. -/
theorem eq_last (h : Ascent m met x way) {y : EntityId} (hy : y ∈ x :: way)
    (hnone : m.supertype? y = none) : y = way.getLast?.getD x := by
  induction h with
  | top => exact List.mem_singleton.mp hy
  | back hup hmet =>
    rw [List.mem_singleton.mp hy, hup] at hnone
    cases hnone
  | step hup hnew hrest ih =>
    rw [List.getLast?_cons, Option.getD_some]
    rcases List.mem_cons.mp hy with rfl | hy
    · rw [hup] at hnone
      cases hnone
    · exact ih hy

/-- There is one way up. -/
theorem unique {way' : List EntityId} (h : Ascent m met x way) (h' : Ascent m met x way') :
    way = way' := by
  induction h generalizing way' with
  | top hnone =>
    cases h' with
    | top | back => rfl
    | step hup' =>
      rw [hnone] at hup'
      cases hup'
  | back hup hmet =>
    cases h' with
    | top | back => rfl
    | step hup' hnew' =>
      rw [hup] at hup'
      rw [Option.some.inj hup'] at hmet
      exact absurd hmet hnew'
  | step hup hnew hrest ih =>
    cases h' with
    | top hnone' =>
      rw [hup] at hnone'
      cases hnone'
    | back hup' hmet' =>
      rw [hup] at hup'
      rw [Option.some.inj hup'] at hnew
      exact absurd hmet' hnew
    | step hup' hnew' hrest' =>
      rw [hup] at hup'
      obtain rfl := Option.some.inj hup'
      rw [ih hrest']

/-- What was met matters only as far as the way could come to it. -/
theorem congr_met (h : Ascent m met x way) {met' : List EntityId}
    (hmet : ∀ y, Relation.ReflTransGen m.Extends x y → (y ∈ met ↔ y ∈ met')) :
    Ascent m met' x way := by
  induction h generalizing met' with
  | top hnone => exact .top hnone
  | back hup hback => exact .back hup ((hmet _ (.single (extends_iff.mpr hup))).mp hback)
  | step hup hnew hrest ih =>
    refine .step hup (fun h => hnew ((hmet _ (.single (extends_iff.mpr hup))).mpr h)) (ih ?_)
    intro y hy
    rw [List.mem_cons, List.mem_cons, hmet y (.head (extends_iff.mpr hup) hy)]

end Ascent

/-! ## Circles -/

section

variable {m : Model} {id : EntityId}

/-- All that is reached along supertypes is on the chain. -/
theorem mem_of_reaches {x : EntityId} (h : Relation.ReflTransGen m.Extends id x) :
    x ∈ id :: m.extensionChain id := by
  induction h with
  | refl => exact List.mem_cons_self
  | tail _ hstep ih =>
    rcases (m.ascent_extensionChain id).closed ih hstep with hmem | hmem
    · rw [List.mem_singleton.mp hmem]
      exact List.mem_cons_self
    · exact List.mem_cons_of_mem _ hmem

theorem hasCircularExtension_eq (m : Model) (id : EntityId) :
    m.hasCircularExtension id = (m.supertype? ((m.extensionChain id).getLast?.getD id)).isSome := by
  have hreach := (m.ascent_extensionChain id).reaches_last
  rw [hasCircularExtension]
  cases hnext : m.supertype? ((m.extensionChain id).getLast?.getD id) with
  | none => rfl
  | some next =>
    -- the chain leaves out nothing, so what follows its last entity is on it
    have hmem := mem_of_reaches (hreach.tail (extends_iff.mpr hnext))
    rw [List.mem_cons] at hmem
    simpa using hmem

/-- An extension is circular if and only if the way up never comes to an entity
that extends nothing. -/
theorem hasCircularExtension_iff (m : Model) (id : EntityId) :
    m.hasCircularExtension id = true ↔
      ∀ x, Relation.ReflTransGen m.Extends id x → ∃ up, m.Extends x up := by
  have hascent := m.ascent_extensionChain id
  rw [hasCircularExtension_eq, Option.isSome_iff_exists]
  constructor
  · rintro ⟨next, hnext⟩ x hx
    cases hup : m.supertype? x with
    | some up => exact ⟨up, extends_iff.mpr hup⟩
    | none =>
      rw [← hascent.eq_last (mem_of_reaches hx) hup, hup] at hnext
      cases hnext
  · intro h
    obtain ⟨up, hup⟩ := h _ hascent.reaches_last
    exact ⟨up, extends_iff.mp hup⟩

/-- Whoever comes back to an entity never comes to the top. -/
theorem hasCircularExtension_of_return {up : EntityId} (hup : m.Extends id up)
    (hback : Relation.ReflTransGen m.Extends up id) : m.hasCircularExtension id = true := by
  rw [hasCircularExtension_iff]
  intro x hx
  -- wherever the way leads, it leads on to the entity itself
  have hreturn : Relation.ReflTransGen m.Extends x id := by
    induction hx with
    | refl => exact .refl
    | tail _ hstep ih =>
      rcases ih.cases_head with rfl | ⟨z, hz, hpath⟩
      · rw [← hup.unique hstep]
        exact hback
      · rw [← hz.unique hstep]
        exact hpath
  rcases hreturn.cases_head with rfl | ⟨z, hz, -⟩
  · exact ⟨up, hup⟩
  · exact ⟨z, hz⟩

/-- Without a circle the chain of an entity is its supertype and the chain of
that. -/
theorem extensionChain_of_extends {up : EntityId} (hcircle : m.hasCircularExtension id = false)
    (hup : m.Extends id up) : m.extensionChain id = up :: m.extensionChain up := by
  have hnoreturn : ¬ Relation.ReflTransGen m.Extends up id := by
    intro hback
    rw [hasCircularExtension_of_return hup hback] at hcircle
    cases hcircle
  have hnew : up ∉ [id] := by
    intro hmem
    rw [List.mem_singleton.mp hmem] at hnoreturn
    exact hnoreturn .refl
  -- the way from the supertype does not come to the entity, so it need not know of it
  have hrest : Ascent m [up, id] up (m.extensionChain up) := by
    refine (m.ascent_extensionChain up).congr_met fun y hy => ?_
    have hne : y ≠ id := by
      rintro rfl
      exact hnoreturn hy
    simp [hne]
  exact (m.ascent_extensionChain id).unique (.step (extends_iff.mp hup) hnew hrest)

/-- An entity leads into a circle if and only if its supertype does. -/
theorem hasCircularExtension_of_extends {up : EntityId} (hup : m.Extends id up) :
    m.hasCircularExtension id = m.hasCircularExtension up := by
  rw [Bool.eq_iff_iff, hasCircularExtension_iff, hasCircularExtension_iff]
  constructor
  · intro h x hx
    exact h x (.head hup hx)
  · intro h x hx
    rcases hx.cases_head with rfl | ⟨y, hy, hpath⟩
    · exact ⟨up, hup⟩
    · rw [hy.unique hup] at hpath
      exact h x hpath

theorem extends_of_extensionChain {up : EntityId} {rest : List EntityId}
    (h : m.extensionChain id = up :: rest) : m.Extends id up := by
  have hchain := (m.ascent_extensionChain id).isChain
  rw [h] at hchain
  exact (List.isChain_cons_cons.mp hchain).1

/-- Without a circle the chain of a supertype is the rest of the chain. -/
theorem extensionChain_of_append (hcircle : m.hasCircularExtension id = false)
    {nearer farther : List EntityId} {a : EntityId}
    (h : m.extensionChain id = nearer ++ a :: farther) : m.extensionChain a = farther := by
  induction nearer generalizing id with
  | nil =>
    rw [extensionChain_of_extends hcircle (extends_of_extensionChain h)] at h
    exact (List.cons.inj h).2
  | cons b nearer ih =>
    have hup : m.Extends id b := extends_of_extensionChain h
    rw [extensionChain_of_extends hcircle hup] at h
    rw [hasCircularExtension_of_extends hup] at hcircle
    exact ih hcircle (List.cons.inj h).2

end

/-! ## Findings -/

/-- Of the findings of a refresh, those on extensions come from the check of the
structure. -/
theorem withCode_circularExtension (m : Model) :
    m.refresh.2.withCode .circularExtension =
      m.refresh.1.checkStructure.withCode .circularExtension := by
  rw [findings_refresh, withCode_append, withCode_append,
    withCode_buildSymbols (by decide) (by decide), withCode_bindings (by decide),
    List.nil_append, List.nil_append]

/-- The finding on an entity whose extension is circular. -/
def circularFinding (m : Model) (e : NamedEntity) : Finding :=
  .report (m.entitySource e) .circularExtension [e.name]

/-- What is checked about an entity gives one finding on its extension if that is
circular, and none otherwise. -/
theorem withCode_checks {m : Model} (hm : m.WellFormed) {e : NamedEntity} (he : e ∈ m.entities) :
    Findings.withCode (m.circularFindings e ++ m.ownerFindings e) .circularExtension =
      if m.hasCircularExtension e.id then [m.circularFinding e] else [] := by
  have howner : (m.ownerFindings e).withCode .circularExtension = [] := by
    refine withCode_eq_nil fun f hf => ?_
    rw [code_of_mem_ownerFindings hf]
    decide
  rw [withCode_append, howner, List.append_nil, circularFindings]
  cases hcircle : m.hasCircularExtension e.id with
  | false =>
    rw [Bool.and_false]
    rfl
  | true =>
    -- whoever is on a way without an end extends something
    obtain ⟨up, e', r, he', hr, -⟩ := (hasCircularExtension_iff m e.id).mp hcircle e.id .refl
    rw [hm.entity?_of_mem he] at he'
    rw [Option.some.inj he', hr]
    rfl

theorem withCode_checkStructure {m : Model} (hm : m.WellFormed) :
    m.checkStructure.withCode .circularExtension =
      (m.entities.filter fun e => m.hasCircularExtension e.id).map m.circularFinding := by
  rw [List.map_eq_flatMap, flatMap_filter, checkStructure, Findings.withCode,
    List.filter_flatMap]
  exact List.flatMap_congr fun e he => withCode_checks hm he

/-- Circular extensions are found exactly. After a refresh the chain of an entity has
no duplicates, leaves the entity out, goes from each to its supertype and ends only
where nothing is extended or where the next is the entity or on the chain. The
extension is circular if and only if the way up never comes to an entity that extends
nothing, and the refresh reports each such entity once, and no other one. -/
theorem circular_extensions_exact (cs : List Change) :
    let m := run (cs ++ [.refresh])
    (∀ id,
      let chain := m.extensionChain id
      chain.Nodup ∧ id ∉ chain ∧ List.IsChain m.Extends (id :: chain) ∧
      (∀ next, m.Extends (chain.getLast?.getD id) next → next = id ∨ next ∈ chain) ∧
      (m.hasCircularExtension id = true ↔
        ∀ x, Relation.ReflTransGen m.Extends id x → ∃ up, m.Extends x up)) ∧
    (run cs).refresh.2.withCode .circularExtension =
      (m.entities.filter fun e => m.hasCircularExtension e.id).map fun e =>
        .report (m.entitySource e) .circularExtension [e.name] := by
  intro m
  have hrun : m = (run cs).refresh.1 := run_append cs [.refresh]
  have hm : m.WellFormed := wellFormed_run (cs ++ [.refresh])
  constructor
  · intro id chain
    have hascent : Ascent m [id] id chain := m.ascent_extensionChain id
    refine ⟨hascent.nodup, ?_, hascent.isChain, ?_, hasCircularExtension_iff m id⟩
    · exact fun hmem => hascent.notMem id hmem List.mem_cons_self
    · intro next hnext
      exact List.mem_cons.mp (mem_of_reaches (hascent.reaches_last.tail hnext))
  · rw [withCode_circularExtension, ← hrun]
    exact withCode_checkStructure hm

/-- An object that extends one of a pair that extend each other, an enumeration that
extends itself, and an object that extends a plain one. -/
def lassoRun : List Change :=
  let object (name : String) (extension : Option String) : MemberDecl :=
    sampleMember name (.choiceObject { (default : ChoiceObject) with
      extension := extension.map Reference.unbound })
  [.add (sampleLibrary "Host" (some "urn:host") [])
    [object "Outer" (some "Left"), object "Left" (some "Right"), object "Right" (some "Left"),
      sampleMember "Code" (.enumeration
        { isOpen := false, values := [], extension := some (.unbound "Code") }),
      object "Derived" (some "Base"), object "Base" none]]

/-- The outer object is not on the circle it leads into: its chain is the pair, its
way up has no end, and it is reported with the pair and the enumeration. -/
theorem lassoRun_circular :
    let m := run (lassoRun ++ [.refresh])
    m.extensionChain ⟨0⟩ = [⟨1⟩, ⟨2⟩] ∧
      (∀ x, Relation.ReflTransGen m.Extends ⟨0⟩ x → ∃ up, m.Extends x up) ∧
      (¬ ∀ x, Relation.ReflTransGen m.Extends ⟨4⟩ x → ∃ up, m.Extends x up) ∧
      ((run lassoRun).refresh.2.withCode .circularExtension).map Finding.args =
        [["Outer"], ["Left"], ["Right"], ["Code"]] := by
  intro m
  obtain ⟨hchains, hfindings⟩ := circular_extensions_exact lassoRun
  have hcircle : m.hasCircularExtension ⟨0⟩ = true := by decide +kernel
  have hplain : m.hasCircularExtension ⟨4⟩ = false := by decide +kernel
  refine ⟨by decide +kernel, ?_, ?_, ?_⟩
  · exact (hchains ⟨0⟩).2.2.2.2.mp hcircle
  · intro h
    rw [(hchains ⟨4⟩).2.2.2.2.mpr h] at hplain
    cases hplain
  · rw [hfindings]
    decide +kernel

end TravelModel.Model
