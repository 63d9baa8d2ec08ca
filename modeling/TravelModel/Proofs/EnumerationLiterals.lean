import Mathlib.Data.List.Basic
import Mathlib.Data.List.Induction
import TravelModel.Generation.JsonSchema
import TravelModel.Proofs.ExtensionChain
import TravelModel.Xsd.Components

/-!
# TravelModel — literals of enumerations

An enumeration lists its own literals after those of the enumerations it
extends, and a literal only where it comes first. The two kinds of schema reach
that list in different ways: one joins all values and then drops those whose
literal it has met, the other goes from entity to entity and adds the literals
it does not have. The lists are the same, except that a type for an open
enumeration admits one more literal.

Main results:

* `firstOccurrences_enumLiterals` — the literals of a JSON schema are the first
  occurrences in what the extension chain declares.
* `literal_enumValues` — the values of an XML schema have those literals.
* `enumeration_literals_agree` — both, for what is written for refreshed models.
-/

namespace TravelModel

/-! ## First occurrences -/

/-- What is kept of a list of literals is each of them once, where it comes first. -/
structure FirstOccurrences (all kept : List String) : Prop where
  mem_iff : ∀ a, a ∈ kept ↔ a ∈ all
  ordered : kept.Pairwise fun a b => all.idxOf a < all.idxOf b

namespace FirstOccurrences

variable {all kept : List String}

theorem nil : FirstOccurrences [] [] :=
  ⟨fun _ => Iff.rfl, .nil⟩

theorem nodup (h : FirstOccurrences all kept) : kept.Nodup := by
  refine h.ordered.imp fun {a b} hlt heq => ?_
  rw [heq] at hlt
  exact Nat.lt_irrefl _ hlt

/-- A list that gets longer keeps the places of first occurrence. -/
theorem ordered_concat (h : FirstOccurrences all kept) (literal : String) :
    kept.Pairwise fun a b => (all ++ [literal]).idxOf a < (all ++ [literal]).idxOf b := by
  refine h.ordered.imp_of_mem fun {a b} ha hb hlt => ?_
  rwa [List.idxOf_append_of_mem ((h.mem_iff a).mp ha),
    List.idxOf_append_of_mem ((h.mem_iff b).mp hb)]

theorem addLiteral (h : FirstOccurrences all kept) (literal : String) :
    FirstOccurrences (all ++ [literal]) (GenerationContext.addLiteral kept literal) := by
  unfold GenerationContext.addLiteral
  split
  case isTrue hseen =>
    -- a literal that came before changes neither what is kept nor its places
    have hmem : literal ∈ all := (h.mem_iff literal).mp (List.contains_iff_mem.mp hseen)
    refine ⟨fun a => ?_, h.ordered_concat literal⟩
    rw [h.mem_iff, List.mem_append, List.mem_singleton]
    exact ⟨Or.inl, fun ha => ha.elim id fun heq => heq ▸ hmem⟩
  case isFalse hnew =>
    have hnotMem : literal ∉ all := fun hmem =>
      hnew (List.contains_iff_mem.mpr ((h.mem_iff literal).mpr hmem))
    refine ⟨fun a => ?_, ?_⟩
    · rw [List.mem_append, List.mem_append, h.mem_iff]
    · refine List.pairwise_append.mpr
        ⟨h.ordered_concat literal, List.pairwise_singleton .., fun a ha b hb => ?_⟩
      -- what is kept occurs in the list, and the new literal only after its end
      have hin : a ∈ all := (h.mem_iff a).mp ha
      rw [List.mem_singleton.mp hb, List.idxOf_append_of_mem hin,
        List.idxOf_append_of_notMem hnotMem]
      exact Nat.lt_add_right _ (List.idxOf_lt_length_of_mem hin)

end FirstOccurrences

theorem firstOccurrences_foldl (all : List String) :
    FirstOccurrences all (all.foldl GenerationContext.addLiteral []) := by
  -- the loop adds at the end, so the induction takes the last literal off
  induction all using List.reverseRecOn with
  | nil => exact .nil
  | append_singleton all literal ih =>
    rw [List.foldl_append]
    exact ih.addLiteral literal

/-! ## Declared literals -/

namespace Model

/-- An entity is an enumeration that lists a literal itself. -/
def Declares (m : Model) (owner : EntityId) (literal : String) : Prop :=
  ∃ e x v, m.entity? owner = some e ∧ e.body = .enumeration x ∧ v ∈ x.values ∧
    v.literal = literal

/-- The values an entity lists itself; only enumerations do. -/
def declaredValues (m : Model) (owner : EntityId) : List EnumValue :=
  match (m.entity? owner).map NamedEntity.body with
  | some (.enumeration x) => x.values
  | _ => []

/-- All literals an entity and its supertypes list, the farthest supertype first. -/
def declaredLiterals (m : Model) (id : EntityId) : List String :=
  ((m.extensionChain id).reverse ++ [id]).flatMap fun owner =>
    (m.declaredValues owner).map EnumValue.literal

variable {m : Model} {id owner : EntityId} {literal : String}

theorem declares_iff :
    m.Declares owner literal ↔ literal ∈ (m.declaredValues owner).map EnumValue.literal := by
  rw [List.mem_map]
  constructor
  · rintro ⟨e, x, v, he, hbody, hv, hliteral⟩
    refine ⟨v, ?_, hliteral⟩
    rw [declaredValues, he, Option.map_some, hbody]
    exact hv
  · rintro ⟨v, hv, hliteral⟩
    unfold declaredValues at hv
    split at hv
    case h_1 x hx =>
      obtain ⟨e, he, hbody⟩ := Option.map_eq_some_iff.mp hx
      exact ⟨e, x, v, he, hbody, hv, hliteral⟩
    case h_2 => cases hv

theorem mem_declaredLiterals :
    literal ∈ m.declaredLiterals id ↔
      ∃ owner ∈ id :: m.extensionChain id, m.Declares owner literal := by
  have hmem (owner : EntityId) :
      owner ∈ (m.extensionChain id).reverse ++ [id] ↔ owner ∈ id :: m.extensionChain id := by
    rw [List.mem_append, List.mem_reverse, List.mem_singleton, List.mem_cons, or_comm]
  rw [declaredLiterals, List.mem_flatMap]
  refine exists_congr fun owner => ?_
  rw [hmem, declares_iff]

end Model

/-! ## The two lists -/

namespace GenerationContext

/-- Entity after entity, or all that they declare at once. -/
theorem enumLiterals_eq (c : GenerationContext) (id : EntityId) :
    c.enumLiterals id = (c.model.declaredLiterals id).foldl addLiteral [] := by
  rw [enumLiterals, Model.declaredLiterals, List.foldl_flatMap]
  congr 1
  funext literals owner
  unfold Model.declaredValues
  generalize (c.model.entity? owner).map NamedEntity.body = body
  cases body with
  | none => rfl
  | some body => cases body <;> rfl

theorem firstOccurrences_enumLiterals (c : GenerationContext) (id : EntityId) :
    FirstOccurrences (c.model.declaredLiterals id) (c.enumLiterals id) := by
  rw [enumLiterals_eq]
  exact firstOccurrences_foldl _

/-- The invariant of both loops: one has met what the other has kept. -/
theorem foldl_addLiteral_eq (values : List EnumValue) {seen kept : List String}
    (h : ∀ a, a ∈ seen ↔ a ∈ kept) :
    (values.map EnumValue.literal).foldl addLiteral kept =
      kept ++ (distinctValues values seen).map EnumValue.literal := by
  -- what is kept grows at its end and what is met at its front, so only their
  -- members are compared
  fun_induction distinctValues values seen generalizing kept with
  | case1 => simp
  | case2 v rest seen hseen ih =>
    have hkept : kept.contains v.literal = true :=
      List.contains_iff_mem.mpr ((h _).mp (List.contains_iff_mem.mp hseen))
    rw [List.map_cons, List.foldl_cons, addLiteral, if_pos hkept]
    exact ih h
  | case3 v rest seen hseen ih =>
    have hkept : ¬ kept.contains v.literal = true := fun hmem =>
      hseen (List.contains_iff_mem.mpr ((h _).mpr (List.contains_iff_mem.mp hmem)))
    have hnext : ∀ a, a ∈ v.literal :: seen ↔ a ∈ kept ++ [v.literal] := fun a => by
      rw [List.mem_cons, List.mem_append, List.mem_singleton, h, or_comm]
    rw [List.map_cons, List.foldl_cons, addLiteral, if_neg hkept, ih hnext, List.map_cons,
      List.append_assoc, List.singleton_append]

theorem literal_enumValues (c : GenerationContext) (id : EntityId) :
    (c.enumValues id).map EnumValue.literal = c.enumLiterals id := by
  have hjoined : c.enumValues id = distinctValues
      (((c.model.extensionChain id).reverse ++ [id]).flatMap c.model.declaredValues) [] := rfl
  rw [hjoined, enumLiterals_eq, Model.declaredLiterals, ← List.map_flatMap,
    foldl_addLiteral_eq _ fun _ => Iff.rfl, List.nil_append]

end GenerationContext

/-! ## What is written -/

namespace Xsd

/-- The literal a restriction admits. -/
def Facet.enumerated? : Facet → Option String
  | .enumeration literal _ => some literal
  | _ => none

/-- The literals a component admits, in order. -/
def Component.enumerated : Component → List String
  | .simpleType { derivation := .restriction _ facets, .. } => facets.filterMap Facet.enumerated?
  | _ => []

end Xsd

namespace GenerationContext

open Model Xsd

variable {c : GenerationContext} {e : NamedEntity} {x : Enumeration}

theorem enumerated_valueFacets (values : List EnumValue) :
    (valueFacets values).filterMap Facet.enumerated? = values.map EnumValue.literal := by
  rw [valueFacets, List.filterMap_map]
  exact congrFun List.filterMap_eq_map values

theorem any_literal_iff (values : List EnumValue) (literal : String) :
    (values.any fun v => v.literal = literal) = true ↔ literal ∈ values.map EnumValue.literal := by
  simp

/-- The literals that the components of an enumeration admit. -/
theorem enumerated_components (hbody : e.body = .enumeration x) :
    (c.components e).flatMap Component.enumerated =
      c.enumLiterals e.id ++
        if x.isOpen ∧ Naming.openEnumOther ∉ c.enumLiterals e.id then [Naming.openEnumOther]
        else [] := by
  rw [components, hbody]
  dsimp only
  -- the test for the other literal is on the values, and so is the case split
  rw [enumerationComponents, ← literal_enumValues]
  by_cases hopen : x.isOpen = true
  · rw [if_pos hopen]
    by_cases hother : Naming.openEnumOther ∈ (c.enumValues e.id).map EnumValue.literal
    · rw [if_pos ((any_literal_iff ..).mpr hother), if_neg fun h => h.2 hother]
      simp [Component.enumerated, enumerated_valueFacets]
    · rw [if_neg (mt (any_literal_iff ..).mp hother), if_pos ⟨hopen, hother⟩]
      simp [Component.enumerated, enumerated_valueFacets]
  · rw [if_neg hopen, if_neg fun h => hopen h.1]
    simp [Component.enumerated, enumerated_valueFacets]

/-- Enumerations list the same literals in both kinds of schema. In a refreshed model the
types written for an enumeration admit the literals of its JSON definition, and if it is
open one more unless that is among them. None is listed twice. The literals are those that
the enumeration or an enumeration in its extension chain declares, in the order in which
they come first when the farthest supertype goes first. -/
theorem enumeration_literals_agree (cs : List Change) (c : GenerationContext)
    (hmodel : c.model = run (cs ++ [.refresh])) (id : EntityId) (e : NamedEntity)
    (x : Enumeration) (he : c.model.entity? id = some e) (hbody : e.body = .enumeration x) :
    let literals := c.enumLiterals id
    let written := (c.components e).flatMap Component.enumerated
    written = literals ++
        (if x.isOpen ∧ Naming.openEnumOther ∉ literals then [Naming.openEnumOther] else []) ∧
      (∀ style, c.definitions style e = [(e.name, describe e (if x.isOpen then
        .object [("anyOf", .arr [literalSchema literals, JsonSchema.ofType "string"])]
        else literalSchema literals))]) ∧
      written.Nodup ∧
      (∀ literal, literal ∈ literals ↔
        ∃ owner ∈ id :: c.model.extensionChain id, c.model.Declares owner literal) ∧
      literals.Pairwise fun a b =>
        (c.model.declaredLiterals id).idxOf a < (c.model.declaredLiterals id).idxOf b := by
  intro literals written
  have hm : c.model.WellFormed := hmodel ▸ wellFormed_run (cs ++ [.refresh])
  have hid : e.id = id := hm.entity_id he
  have hfirst : FirstOccurrences (c.model.declaredLiterals id) literals :=
    firstOccurrences_enumLiterals c id
  have hwritten : written = literals ++
      if x.isOpen ∧ Naming.openEnumOther ∉ literals then [Naming.openEnumOther] else [] := by
    have h := enumerated_components (c := c) hbody
    rwa [hid] at h
  refine ⟨hwritten, fun style => ?_, ?_, fun literal => ?_, hfirst.ordered⟩
  · rw [definitions, hbody]
    dsimp only
    rw [enumerationSchema, hid]
  · -- the other literal is added only where it is new
    rw [hwritten]
    split
    case isTrue hother =>
      rw [List.nodup_append_comm, List.singleton_append]
      exact List.nodup_cons.mpr ⟨hother.2, hfirst.nodup⟩
    case isFalse =>
      rw [List.append_nil]
      exact hfirst.nodup
  · rw [hfirst.mem_iff, mem_declaredLiterals]

/-- An enumeration without documentation. -/
def sampleEnumeration (isOpen : Bool) (literals : List String) (extension : Option Reference) :
    Enumeration :=
  { isOpen, values := literals.map fun literal => { literal, documentation := none }, extension }

/-- An open enumeration that extends an object, which extends a closed one, which extends
the first, and an open one that lists a literal twice. -/
def paletteRun : List Change :=
  let enumeration (isOpen : Bool) (literals : List String) (extension : Option String) :
      EntityBody :=
    .enumeration (sampleEnumeration isOpen literals (extension.map Reference.unbound))
  [.add (sampleLibrary "Shades" (some "urn:shades") [])
    [sampleMember "Bright" (enumeration true ["Red", "Blue", "Green"] (some "Thing")),
      sampleMember "Thing" (.choiceObject { (default : ChoiceObject) with
        extension := some (.unbound "Dark") }),
      sampleMember "Dark" (enumeration false ["Blue", "Other_"] (some "Bright")),
      sampleMember "Plain" (enumeration true ["Grey", "Red", "Grey"] none)]]

/-- The two on the circle list the same literals in different orders, each starting with
those of the other, and the open one needs no other literal. The plain one gets it. -/
theorem paletteRun_literals :
    let c : GenerationContext :=
      { model := run (paletteRun ++ [.refresh]), scope := {}, options := default }
    let Written (id : EntityId) (isOpen : Bool) (literals : List String) : Prop :=
      ∃ e x, c.model.entity? id = some e ∧ e.body = .enumeration x ∧ x.isOpen = isOpen ∧
        (c.components e).flatMap Component.enumerated = literals
    c.model.hasCircularExtension ⟨0⟩ = true ∧ c.model.extensionChain ⟨0⟩ = [⟨1⟩, ⟨2⟩] ∧
      Written ⟨0⟩ true ["Blue", "Other_", "Red", "Green"] ∧
      Written ⟨2⟩ false ["Red", "Blue", "Green", "Other_"] ∧
      Written ⟨3⟩ true ["Grey", "Red", "Other_"] := by
  intro c Written
  have hwritten (id : EntityId) (x : Enumeration)
      (h : (c.model.entity? id).map NamedEntity.body = some (.enumeration x)) :
      Written id x.isOpen (c.enumLiterals id ++
        if x.isOpen ∧ Naming.openEnumOther ∉ c.enumLiterals id then [Naming.openEnumOther]
        else []) := by
    obtain ⟨e, he, hbody⟩ := Option.map_eq_some_iff.mp h
    exact ⟨e, x, he, hbody, rfl, (enumeration_literals_agree paletteRun c rfl id e x he hbody).1⟩
  obtain ⟨hcircle, hchain, hbright, hdark, hplain⟩ :
      c.model.hasCircularExtension ⟨0⟩ = true ∧ c.model.extensionChain ⟨0⟩ = [⟨1⟩, ⟨2⟩] ∧
        c.enumLiterals ⟨0⟩ = ["Blue", "Other_", "Red", "Green"] ∧
        c.enumLiterals ⟨2⟩ = ["Red", "Blue", "Green", "Other_"] ∧
        c.enumLiterals ⟨3⟩ = ["Grey", "Red"] := by
    decide +kernel
  refine ⟨hcircle, hchain, ?_, ?_, ?_⟩
  · have h := hwritten ⟨0⟩ (sampleEnumeration true ["Red", "Blue", "Green"]
      (some ⟨"Thing", some (.entity ⟨1⟩)⟩)) (by decide +kernel)
    rwa [hbright] at h
  · have h := hwritten ⟨2⟩ (sampleEnumeration false ["Blue", "Other_"]
      (some ⟨"Bright", some (.entity ⟨0⟩)⟩)) (by decide +kernel)
    rwa [hdark] at h
  · have h := hwritten ⟨3⟩ (sampleEnumeration true ["Grey", "Red", "Grey"] none)
      (by decide +kernel)
    rwa [hplain] at h

end GenerationContext

end TravelModel
