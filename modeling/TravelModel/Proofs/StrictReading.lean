import TravelModel.Proofs.Keyed
import TravelModel.Proofs.Loading
import TravelModel.Proofs.Reading

/-!
# TravelModel — reading documents that a grammar admits

A grammar checks a document by the shapes of its fields, and reads it by records
of its own. The two agree but for numbers: a shape that wants a whole number sets
no upper bound to most of them and takes one that is written as a fraction, while
a record holds numbers of 32 bits that are written as whole ones. A document
without violations is therefore read exactly if its numbers fit.

Main results:

* `Reads`, `ReadsFields` — a reader takes a value of a shape exactly if its numbers
  fit; there is one rule for each way to read a field.
* `readsFields_body` — the readers of all kinds do so.
* `admitted_member`, `admitted_document` — what is known of a member and a document
  without violations.
* `read_of_numbersFit`, `read_of_not_numbersFit` — such a document is read or
  malformed, by its numbers.
* `strict_document_loads` — and is loaded without a finding, or is unreadable.
-/

namespace TravelModel

/-! ## Numbers that can be read -/

/-- Whether a number is written as a whole one and fits 32 bits; signs are left to
the shape. -/
def JsonNumber.isPlain : JsonNumber → Bool
  | .whole n => n < (Nat.pow 2 32 : Nat)
  | .float _ => false

namespace Shape

/-- The fields of a record with their shapes. -/
def fieldShapes : Shape → List (String × Shape)
  | record shapes _ => shapes
  | _ => []

/-- The conditions on a record. -/
def conditions : Shape → List Condition
  | record _ conditions => conditions
  | _ => []

mutual

/-- Whether every number of a value, where a shape wants a whole one, is written as
such and fits 32 bits. -/
def fits : Shape → Json → Bool
  | oneOf _, _ => true
  | text _, _ => true
  | integer _ _, j =>
    match j with
    | .num n => n.isPlain
    | _ => true
  | boolean, _ => true
  | list item, j =>
    match j with
    | .arr items => items.all (fits item)
    | _ => true
  | record shapes _, j =>
    match j with
    | .obj fields => fieldsFit shapes fields
    | _ => true

/-- The same for the fields of a record. -/
def fieldsFit : List (String × Shape) → Keyed Json → Bool
  | [], _ => true
  | (name, shape) :: rest, fields =>
    (match Keyed.find? name fields with
      | some j => fits shape j
      | none => true) &&
      fieldsFit rest fields

end

mutual

/-- Whether a shape has no place for a number. -/
def numberFree : Shape → Bool
  | oneOf _ => true
  | text _ => true
  | integer _ _ => false
  | boolean => true
  | list item => numberFree item
  | record shapes _ => fieldsNumberFree shapes

/-- The same for the fields of a record. -/
def fieldsNumberFree : List (String × Shape) → Bool
  | [] => true
  | (_, shape) :: rest => numberFree shape && fieldsNumberFree rest

end

/-! ## What a shape admits -/

theorem failUnless_eq_nil {ok : Bool} : failUnless ok = [] ↔ ok = true := by
  cases ok <;> simp [failUnless]

theorem violations_oneOf {texts : List String} {j : Json} :
    (oneOf texts).violations j = [] ↔ ∃ s ∈ texts, j = .str s := by
  cases j <;> simp [violations, failUnless_eq_nil]

theorem violations_text {rule : TextRule} {j : Json} :
    (text rule).violations j = [] ↔ ∃ s, j = .str s ∧ rule.holds s = true := by
  cases j <;> simp [violations, failUnless_eq_nil]

theorem violations_integer {least : Int} {most : Option Int} {j : Json} :
    (integer least most).violations j = [] ↔ ∃ n, j = .num n ∧ n.inRange least most = true := by
  cases j <;> simp [violations, failUnless_eq_nil]

theorem violations_boolean {j : Json} : boolean.violations j = [] ↔ ∃ b, j = .bool b := by
  cases j <;> simp [violations, failUnless_eq_nil]

theorem itemViolations_eq_nil {check : Json → List JsonPlace} {i : Nat} {items : List Json} :
    itemViolations check i items = [] ↔ ∀ j ∈ items, check j = [] := by
  induction items generalizing i with
  | nil => simp [itemViolations]
  | cons j rest ih => simp [itemViolations, ih]

theorem violations_list {item : Shape} {j : Json} :
    (list item).violations j = [] ↔
      ∃ items, j = .arr items ∧ ∀ i ∈ items, item.violations i = [] := by
  cases j <;> simp [violations, itemViolations_eq_nil]

/-- The fields of a record break their shapes where their values do. -/
theorem fieldViolations_eq_nil {shapes : List (String × Shape)} {fields : Keyed Json} :
    fieldViolations shapes fields = [] ↔
      ∀ p ∈ shapes, ∀ j, Keyed.find? p.1 fields = some j → p.2.violations j = [] := by
  induction shapes with
  | nil => simp [fieldViolations]
  | cons p rest ih =>
    obtain ⟨name, shape⟩ := p
    rw [fieldViolations, List.append_eq_nil_iff, ih, List.forall_mem_cons]
    refine and_congr_left fun _ => ?_
    cases Keyed.find? name fields with
    | none => simp
    | some j => simp

theorem fieldViolations_append (shapes rest : List (String × Shape)) (fields : Keyed Json) :
    fieldViolations (shapes ++ rest) fields =
      fieldViolations shapes fields ++ fieldViolations rest fields := by
  induction shapes with
  | nil => rfl
  | cons p shapes ih =>
    rw [List.cons_append, fieldViolations, fieldViolations, ih, List.append_assoc]

/-- Fewer shapes are broken at fewer places. -/
theorem fieldViolations_subset {shapes rest : List (String × Shape)} {fields : Keyed Json}
    (hsubset : rest ⊆ shapes) (h : fieldViolations shapes fields = []) :
    fieldViolations rest fields = [] :=
  fieldViolations_eq_nil.mpr fun p hp => fieldViolations_eq_nil.mp h p (hsubset hp)

theorem fieldsFit_append (shapes rest : List (String × Shape)) (fields : Keyed Json) :
    fieldsFit (shapes ++ rest) fields = (fieldsFit shapes fields && fieldsFit rest fields) := by
  induction shapes with
  | nil => rfl
  | cons p shapes ih => rw [List.cons_append, fieldsFit, fieldsFit, ih, Bool.and_assoc]

mutual

/-- What has no place for a number has no number that does not fit. -/
theorem fits_of_numberFree : ∀ (s : Shape), s.numberFree = true → ∀ j, s.fits j = true
  | oneOf _, _, _ => rfl
  | text _, _, _ => rfl
  | boolean, _, _ => rfl
  | integer _ _, h, _ => nomatch h
  | list item, h, j => by
    cases j with
    | arr items => exact List.all_eq_true.mpr fun i _ => fits_of_numberFree item h i
    | _ => rfl
  | record shapes _, h, j => by
    cases j with
    | obj fields => exact fieldsFit_of_numberFree shapes h fields
    | _ => rfl

theorem fieldsFit_of_numberFree : ∀ (shapes : List (String × Shape)),
    fieldsNumberFree shapes = true → ∀ fields, fieldsFit shapes fields = true
  | [], _, _ => rfl
  | (name, shape) :: rest, h, fields => by
    rw [fieldsNumberFree, Bool.and_eq_true] at h
    rw [fieldsFit, fieldsFit_of_numberFree rest h.2 fields, Bool.and_true]
    cases Keyed.find? name fields with
    | none => rfl
    | some j => exact fits_of_numberFree shape h.1 j

end

/-- A record is admitted if its fields are, and the required ones are there. -/
theorem violations_record {shapes : List (String × Shape)} {conditions : List Condition} {j : Json}
    (h : (record shapes conditions).violations j = []) :
    ∃ fields, j = .obj fields ∧ fieldViolations shapes fields = [] ∧
      ∀ c ∈ conditions, ∀ name ∈ c.required fields, (Keyed.find? name fields).isSome := by
  cases j with
  | obj fields =>
    rw [violations, List.append_eq_nil_iff, failUnless_eq_nil, Bool.not_eq_true',
      recordFails, Bool.or_eq_false_iff] at h
    refine ⟨fields, rfl, h.2, ?_⟩
    intro c hc name hname
    have hpresent := List.any_eq_false.mp h.1.2 c hc
    rw [List.any_eq_true, not_exists] at hpresent
    rw [← Keyed.contains, ← Bool.not_eq_false]
    exact fun hno => hpresent name ⟨hname, by rw [hno]; rfl⟩
  | _ => simp [violations] at h

end Shape

/-! ## Readers of admitted values -/

section

variable {α β : Type}

/-- A list is read if all of its items are. -/
theorem isSome_mapM {read : α → Option β} {p : α → Bool} {items : List α}
    (h : ∀ i ∈ items, (read i).isSome = p i) : (items.mapM read).isSome = items.all p := by
  induction items with
  | nil => rfl
  | cons i rest ih =>
    rw [List.forall_mem_cons] at h
    rw [List.all_cons, ← h.1, ← ih h.2, List.mapM_cons]
    cases read i <;> cases rest.mapM read <;> rfl

/-- A reader reads what a shape admits, unless a number does not fit. -/
def Reads (shape : Shape) (read : Json → Option α) : Prop :=
  ∀ j, shape.violations j = [] → (read j).isSome = shape.fits j

/-- The same for what is read from the fields of a record. -/
def ReadsFields (fields : Keyed Json) (shapes : List (String × Shape)) (x : Option α) : Prop :=
  Shape.fieldViolations shapes fields = [] → x.isSome = Shape.fieldsFit shapes fields

namespace Reads

open Json (text? bool? list? nat32? nat16? choice? natBelow?)

theorem text (rule : TextRule) : Reads (.text rule) text? := by
  intro j h
  obtain ⟨s, rfl, -⟩ := Shape.violations_text.mp h
  rfl

theorem reference (rule : TextRule) : Reads (.text rule) Reference.decode? := by
  intro j h
  rw [Reference.decode?, Option.isSome_map]
  exact text rule j h

theorem boolean : Reads .boolean bool? := by
  intro j h
  obtain ⟨b, rfl⟩ := Shape.violations_boolean.mp h
  rfl

/-- A choice is read if each of the admitted texts names one. -/
theorem choice {texts : List String} {ofName? : String → Option α}
    (hnames : ∀ s ∈ texts, (ofName? s).isSome) : Reads (.oneOf texts) (choice? ofName?) := by
  intro j h
  obtain ⟨s, hs, rfl⟩ := Shape.violations_oneOf.mp h
  exact hnames s hs

/-- A number that is admitted is read if it is below the bound of the reader, which
comes to 32 bits among the admitted ones. -/
theorem natBelow {least : Int} {most : Option Int} {bound : Nat} (hleast : 0 ≤ least)
    (hbound : ∀ n : Nat, JsonNumber.inRange least most (.whole n) = true →
      (n < bound ↔ n < Nat.pow 2 32)) :
    Reads (.integer least most) (natBelow? bound) := by
  intro j h
  obtain ⟨n, rfl, hn⟩ := Shape.violations_integer.mp h
  cases n with
  | float x => rfl
  | whole n =>
    have hrange : least ≤ n := by
      simp only [JsonNumber.inRange, Bool.and_eq_true, decide_eq_true_eq] at hn
      exact hn.1
    -- an admitted number is not negative, so that only the upper bounds are left to compare
    obtain ⟨k, rfl⟩ := Int.eq_ofNat_of_zero_le (hleast.trans hrange)
    have hk : k < bound ↔ k < Nat.pow 2 32 := hbound k hn
    show ((some k).filter (· < bound)).isSome = decide ((k : Int) < (Nat.pow 2 32 : Nat))
    rw [Option.isSome_filter, Option.any_some, Bool.eq_iff_iff, decide_eq_true_eq,
      decide_eq_true_eq, hk, Int.ofNat_lt]

theorem nat32 {least : Int} (hleast : 0 ≤ least) : Reads (Grammar.atLeast least) nat32? :=
  natBelow hleast fun _ _ => Iff.rfl

/-- A number of at most 16 bits has 32 bits. -/
theorem nat16 {least most : Int} (hleast : 0 ≤ least) (hmost : most < Nat.pow 2 16) :
    Reads (.integer least (some most)) nat16? := by
  refine natBelow hleast fun n hn => ?_
  simp only [JsonNumber.inRange, Option.all_some, Bool.and_eq_true, decide_eq_true_eq] at hn
  have hsmall : n < Nat.pow 2 16 := Int.ofNat_lt.mp (hn.2.trans_lt hmost)
  have hwide : Nat.pow 2 16 < Nat.pow 2 32 := by decide
  exact ⟨fun _ => hsmall.trans hwide, fun _ => hsmall⟩

theorem list {item : Shape} {read : Json → Option α} (hitem : Reads item read) :
    Reads (.list item) (list? read) := by
  intro j h
  obtain ⟨items, rfl, hitems⟩ := Shape.violations_list.mp h
  exact isSome_mapM fun i hi => hitem i (hitems i hi)

/-- A record is read from the fields of an object. -/
theorem ofSource {source : Json → Option RecordSource}
    (hsource : ∀ fields, source (.obj fields) = some (.named fields)) {required : List String}
    {shapes : List (String × Shape)} {read : RecordSource → Option α}
    (hread : ∀ fields, (∀ name ∈ required, (Keyed.find? name fields).isSome) →
      ReadsFields fields shapes (read (.named fields))) :
    Reads (Grammar.recordShape required shapes) fun j => source j >>= read := by
  intro j h
  obtain ⟨fields, rfl, hfields, hrequired⟩ := Shape.violations_record h
  show (source (.obj fields) >>= read).isSome = _
  rw [hsource]
  exact hread fields (hrequired _ List.mem_cons_self) hfields

theorem record {required : List String} {shapes : List (String × Shape)} {width : Nat}
    {read : RecordSource → Option α}
    (hread : ∀ fields, (∀ name ∈ required, (Keyed.find? name fields).isSome) →
      ReadsFields fields shapes (read (.named fields))) :
    Reads (Grammar.recordShape required shapes) fun j => RecordSource.record? width j >>= read :=
  ofSource (fun _ => rfl) hread

end Reads

namespace ReadsFields

variable {fields : Keyed Json} {shape : Shape} {shapes rest : List (String × Shape)} {name : String}
  {place : Nat} {read : Json → Option α}

theorem done (a : α) : ReadsFields fields [] (some a) := fun _ => rfl

theorem required (hread : Reads shape read) (hpresent : (Keyed.find? name fields).isSome) :
    ReadsFields fields [(name, shape)] ((RecordSource.named fields).required place name read) := by
  intro h
  obtain ⟨j, hj⟩ := Option.isSome_iff_exists.mp hpresent
  have hvalid := Shape.fieldViolations_eq_nil.mp h _ List.mem_cons_self j hj
  simp only [RecordSource.required, RecordSource.get?, Shape.fieldsFit, hj, Option.bind_some,
    hread j hvalid, Bool.and_true]

theorem withDefault (hread : Reads shape read) (d : α) :
    ReadsFields fields [(name, shape)]
      ((RecordSource.named fields).withDefault place name read d) := by
  intro h
  cases hj : Keyed.find? name fields with
  | none => simp [RecordSource.withDefault, RecordSource.get?, Shape.fieldsFit, hj]
  | some j =>
    have hvalid := Shape.fieldViolations_eq_nil.mp h _ List.mem_cons_self j hj
    simp only [RecordSource.withDefault, RecordSource.get?, Shape.fieldsFit, hj,
      hread j hvalid, Bool.and_true]

theorem optional (hread : Reads shape read) :
    ReadsFields fields [(name, shape)] ((RecordSource.named fields).optional place name read) := by
  intro h
  cases hj : Keyed.find? name fields with
  | none => simp [RecordSource.optional, RecordSource.get?, Shape.fieldsFit, hj]
  | some j =>
    have hvalid := Shape.fieldViolations_eq_nil.mp h _ List.mem_cons_self j hj
    -- null holds no number, so that it is passed over makes no difference
    have hnull : shape.fits .null = true := by cases shape <;> rfl
    cases j <;>
      simp [RecordSource.optional, RecordSource.get?, Shape.fieldsFit, hj, hread _ hvalid, hnull]

/-- Reading goes on with the other fields. -/
theorem append {x : Option α} {f : α → Option β} (hx : ReadsFields fields shapes x)
    (hf : ∀ a, ReadsFields fields rest (f a)) :
    ReadsFields fields (shapes ++ rest) (x >>= f) := by
  intro h
  rw [Shape.fieldViolations_append, List.append_eq_nil_iff] at h
  rw [Shape.fieldsFit_append, ← hx h.1]
  cases x with
  | none => rfl
  | some a => exact (hf a h.2).trans (Bool.true_and _).symm

theorem cons {p : String × Shape} {x : Option α} {f : α → Option β}
    (hx : ReadsFields fields [p] x) (hf : ∀ a, ReadsFields fields rest (f a)) :
    ReadsFields fields (p :: rest) (x >>= f) :=
  append hx hf

theorem map {x : Option α} (f : α → β) (hx : ReadsFields fields shapes x) :
    ReadsFields fields shapes (x.map f) := by
  intro h
  rw [← hx h, Option.isSome_map]

/-- An object is read from its fields. -/
theorem object {read : RecordSource → Option α}
    (h : ReadsFields fields shapes (read (.named fields))) :
    ReadsFields fields shapes (RecordSource.object? (.obj fields) >>= read) :=
  h

/-- With the last field a record is complete. -/
theorem last {x : Option α} {f : α → β} (hx : ReadsFields fields shapes x) :
    ReadsFields fields shapes (x >>= fun a => some (f a)) := by
  intro h
  rw [← hx h]
  cases x <;> rfl

end ReadsFields

end

/-! ## Parts of members -/

open Grammar

theorem reads_attribute : Reads attributeShape Attribute.decode? := by
  refine .record fun fields hrequired => ?_
  -- one rule for each field, in the order in which they are read
  exact .cons (.required (.text _) (hrequired "name" (by simp))) fun _ =>
    .cons (.required (.reference _) (hrequired "type" (by simp))) fun _ =>
    .cons (.withDefault .boolean false) fun _ => .last (.optional (.text _))

theorem reads_element : Reads elementShape Element.decode? := by
  refine .record fun fields hrequired => ?_
  exact .cons (.withDefault (.text _) "") fun _ =>
    .cons (.required (.reference _) (hrequired "type" (by simp))) fun _ =>
    .cons (.withDefault .boolean false) fun _ =>
    .cons (.withDefault (.nat32 (by decide)) 0) fun _ =>
    .cons (.withDefault .boolean false) fun _ =>
    .cons (.withDefault .boolean false) fun _ => .last (.optional (.text _))

theorem reads_indicator : Reads indicatorShape Indicator.decode? := by
  refine .record fun fields hrequired => ?_
  exact .cons (.required (.text _) (hrequired "name" (by simp))) fun _ =>
    .cons (.withDefault .boolean false) fun _ => .last (.optional (.text _))

theorem readsFields_content (fields : Keyed Json) :
    ReadsFields fields contentShapes (FacetContent.decodeFields? (.named fields)) :=
  .cons (.withDefault (.list reads_attribute) []) fun _ =>
    .cons (.withDefault (.list reads_element) []) fun _ =>
    .last (.withDefault (.list reads_indicator) [])

theorem reads_facet : Reads facetShape FacetContent.decode? :=
  .record fun fields _ => readsFields_content fields

theorem reads_operation : Reads operationShape Operation.decode? := by
  refine .record fun fields hrequired => ?_
  exact .cons (.required (.text _) (hrequired "name" (by simp))) fun _ =>
    .cons (.optional reads_facet) fun _ =>
    .cons (.optional reads_facet) fun _ => .last (.optional reads_facet)

theorem reads_enumValue : Reads enumValueShape EnumValue.decode? := by
  refine .record fun fields hrequired => ?_
  exact .cons (.required (.text _) (hrequired "literal" (by simp))) fun _ =>
    .last (.optional (.text _))

theorem reads_parameter : Reads parameterShape Parameter.decode? := by
  refine .record fun fields hrequired => ?_
  exact .cons (.required (.text _) (hrequired "fieldName" (by simp))) fun _ =>
    .last (.withDefault (.choice (by decide)) ParameterLocation.path)

theorem reads_parameterGroup : Reads parameterGroupShape ParameterGroup.decode? := by
  refine .record fun fields hrequired => ?_
  exact .cons (.required (.text _) (hrequired "name" (by simp))) fun _ =>
    .cons (.withDefault .boolean false) fun _ =>
    .cons (.optional (.reference _)) fun _ => .last (.withDefault (.list reads_parameter) [])

theorem reads_parent : Reads parentShape ParentRef.decode? := by
  refine .record fun fields hrequired => ?_
  exact .cons (.required (.reference _) (hrequired "resource" (by simp))) fun _ =>
    .cons (.withDefault (.text _) "") fun _ => .last (.optional (.text _))

theorem reads_request : Reads requestShape ActionRequest.decode? := by
  refine .record fun fields hrequired => ?_
  exact .cons (.required (.choice (by decide)) (hrequired "method" (by simp))) fun _ =>
    .cons (.withDefault (.text _) "") fun _ =>
    .cons (.optional (.text _)) fun _ =>
    .cons (.optional (.reference _)) fun _ => .last (.withDefault (.list (.text _)) [])

theorem reads_response : Reads responseShape ActionResponse.decode? := by
  refine .record fun fields hrequired => ?_
  exact .cons (.required (.list (.nat16 (by decide) (by decide)))
      (hrequired "statusCodes" (by simp))) fun _ =>
    .cons (.optional (.reference _)) fun _ => .last (.withDefault (.list (.text _)) [])

theorem reads_action : Reads actionShape ResourceAction.decode? := by
  refine .record fun fields hrequired => ?_
  exact .cons (.required (.text _) (hrequired "actionId" (by simp))) fun _ =>
    .cons (.withDefault .boolean false) fun _ =>
    .cons (.required reads_request (hrequired "request" (by simp))) fun _ =>
    .last (.withDefault (.list reads_response) [])

/-! ## Bodies -/

/-- The fields that a body of a kind cannot do without. -/
def EntityKind.requiredNames : EntityKind → List String
  | contextualFacet => ["facetKind", "facetName", "owner"]
  | extensionPointFacet => ["extends"]
  | _ => []

/-- The body of a member is read from the fields of its kind. -/
theorem readsFields_body {fields : Keyed Json} {kind : EntityKind}
    (hrequired : ∀ name ∈ kind.requiredNames, (Keyed.find? name fields).isSome) :
    ReadsFields fields kind.shapes (EntityBody.decode? kind (.named fields)) := by
  cases kind with
  | simpleType =>
    refine .map EntityBody.simpleType ?_
    exact .cons (.optional (.reference _)) fun _ =>
      .cons (.optional (.text _)) fun _ =>
      .cons (.optional (.nat32 (by decide))) fun _ =>
      .cons (.optional (.nat32 (by decide))) fun _ =>
      .cons (.optional (.nat32 (by decide))) fun _ =>
      .cons (.optional (.nat32 (by decide))) fun _ =>
      .cons (.optional (.text _)) fun _ =>
      .cons (.optional (.text _)) fun _ => .last (.withDefault .boolean false)
  | enumeration =>
    refine .map EntityBody.enumeration ?_
    exact .cons (.withDefault .boolean false) fun _ =>
      .cons (.withDefault (.list reads_enumValue) []) fun _ => .last (.optional (.reference _))
  | valueWithAttributes =>
    refine .map EntityBody.valueWithAttributes ?_
    exact .cons (.optional (.reference _)) fun _ => .last (readsFields_content fields)
  | coreObject =>
    refine .map EntityBody.coreObject ?_
    exact .cons (.optional (.reference _)) fun _ =>
      .cons (.optional (.reference _)) fun _ =>
      .cons (.withDefault reads_facet {}) fun _ =>
      .cons (.withDefault reads_facet {}) fun _ =>
      .cons (.withDefault (.list (.text _)) []) fun _ =>
      .cons (.withDefault (.list (.text _)) []) fun _ => .last (.withDefault .boolean false)
  | businessObject =>
    refine .map EntityBody.businessObject ?_
    exact .cons (.optional (.reference _)) fun _ =>
      .cons (.withDefault reads_facet {}) fun _ =>
      .cons (.withDefault reads_facet {}) fun _ =>
      .cons (.withDefault reads_facet {}) fun _ =>
      .cons (.withDefault (.list (.text _)) []) fun _ => .last (.withDefault .boolean false)
  | choiceObject =>
    refine .map EntityBody.choiceObject ?_
    exact .cons (.optional (.reference _)) fun _ =>
      .cons (.withDefault reads_facet {}) fun _ =>
      .cons (.withDefault (.list (.text _)) []) fun _ => .last (.withDefault .boolean false)
  | contextualFacet =>
    refine .map EntityBody.contextualFacet ?_
    exact .cons (.required (.choice (by decide)) (hrequired "facetKind" (by decide))) fun _ =>
      .cons (.required (.text _) (hrequired "facetName" (by decide))) fun _ =>
      .cons (.required (.reference _) (hrequired "owner" (by decide))) fun _ =>
      .cons (.optional (.text _)) fun _ => .last (readsFields_content fields)
  | extensionPointFacet =>
    refine .map EntityBody.extensionPointFacet ?_
    exact .cons (.required (.reference _) (hrequired "extends" (by decide))) fun _ =>
      .last (readsFields_content fields)
  | resource =>
    refine .map EntityBody.resource ?_
    exact .cons (.optional (.reference _)) fun _ =>
      .cons (.withDefault (.text _) "") fun _ =>
      .cons (.withDefault .boolean false) fun _ =>
      .cons (.withDefault .boolean false) fun _ =>
      .cons (.withDefault (.list reads_parent) []) fun _ =>
      .cons (.withDefault (.list reads_parameterGroup) []) fun _ =>
      .last (.withDefault (.list reads_action) [])
  | service =>
    refine .map EntityBody.service ?_
    exact .last (.withDefault (.list reads_operation) [])

theorem reads_inlineFacet : Reads inlineFacetShape InlineFacet.decode? := by
  refine .ofSource (fun _ => rfl) fun fields hrequired => ?_
  exact .cons (.required (.text _) (hrequired "name" (by simp))) fun _ =>
    .cons (.optional (.text _)) fun _ =>
    .cons (.optional (.text _)) fun _ => .last (readsFields_content fields)

/-! ## Members -/

namespace Grammar

/-- The kinds of members that a grammar has. -/
def kinds : Grammar → List EntityKind
  | v1_6 => EntityKind.all
  | v1_5 => EntityKind.all.filter (· ≠ .contextualFacet)
  | v1_4 => oldKinds

/-- How a grammar writes a kind. -/
def kindName : Grammar → EntityKind → String
  | v1_4, kind => oldKindName kind
  | _, kind => kind.name

/-- The facets that a grammar has on their owners. -/
def inlineShapes : Grammar → List (String × Shape)
  | v1_5 => ContextualKind.all.map fun k => (k.inlineField, .list inlineFacetShape)
  | _ => []

/-- The fields that a grammar reads a body from. -/
def bodyShapes : Grammar → EntityKind → List (String × Shape)
  | v1_4, .enumeration =>
    [("extensible", .boolean), ("values", .list filledShape), ("extension", typeNameShape)]
  | _, kind => kind.shapes

/-- The fields that a grammar reads a member of a kind from, with their shapes. -/
def readShapes (g : Grammar) (kind : EntityKind) : List (String × Shape) :=
  g.inlineShapes ++ ("name", nameShape) :: ("documentation", textShape) :: g.bodyShapes kind

/-- Whether all numbers of a member that are read fit. -/
def memberFits (g : Grammar) (member : Json) : Bool :=
  ((member.textField? "kind").bind fun s => g.kinds.find? fun k => g.kindName k = s).all
    fun kind => (Shape.record (g.readShapes kind) []).fits member

/-- Whether all numbers of a document that are read fit. -/
def numbersFit (g : Grammar) (document : Json) : Bool :=
  ((document.field? "members").bind Json.items?).all fun items => items.all g.memberFits

theorem find?_kinds {g : Grammar} {kind : EntityKind} (h : kind ∈ g.kinds) :
    (g.kinds.find? fun k => g.kindName k = g.kindName kind) = some kind := by
  revert h
  cases g <;> cases kind <;> decide

theorem shapes_subset_shared {kind : EntityKind} (h : kind ∈ oldKinds)
    (hkind : kind ≠ .enumeration) : kind.shapes ⊆ sharedMemberShapes := by
  simp only [oldKinds, List.mem_cons, List.not_mem_nil, or_false] at h
  rcases h with rfl | rfl | rfl | rfl | rfl | rfl | rfl
  case inr.inl => exact absurd rfl hkind
  all_goals simp [EntityKind.shapes, sharedMemberShapes, contentShapes]

theorem shapes_subset_resource {kind : EntityKind} (h : kind ≠ .contextualFacet) :
    kind.shapes ⊆ sharedMemberShapes ++ resourceMemberShapes := by
  by_cases hold : kind ∈ oldKinds ∧ kind ≠ .enumeration
  · exact List.subset_append_of_subset_left _ (shapes_subset_shared hold.1 hold.2)
  · cases kind
    case contextualFacet => exact absurd rfl h
    case enumeration | choiceObject | resource =>
      simp [EntityKind.shapes, sharedMemberShapes, contentShapes, resourceMemberShapes]
    all_goals exact absurd (by decide) hold

theorem shapes_subset_contextual :
    EntityKind.contextualFacet.shapes ⊆ sharedMemberShapes ++
      [ ("facetKind", .oneOf ["custom", "query", "update", "choice"]), ("facetName", nameShape),
        ("owner", typeNameShape), ("context", filledShape) ] := by
  simp [EntityKind.shapes, sharedMemberShapes, contentShapes]

theorem memberShape_eq (g : Grammar) :
    g.memberShape = .record g.memberShape.fieldShapes g.memberShape.conditions := by
  cases g <;> rfl

theorem shared_subset (g : Grammar) : sharedMemberShapes ⊆ g.memberShape.fieldShapes := by
  intro p hp
  cases g <;> simp [memberShape, Shape.fieldShapes, hp]

theorem inlineShapes_subset (g : Grammar) : g.inlineShapes ⊆ g.memberShape.fieldShapes := by
  cases g with
  | v1_5 => exact List.subset_append_right _ _
  | _ => exact List.nil_subset _

theorem bodyShapes_of_ne {g : Grammar} {kind : EntityKind} (h : kind ≠ .enumeration) :
    g.bodyShapes kind = kind.shapes := by
  cases kind with
  | enumeration => exact absurd rfl h
  | _ => cases g <;> rfl

theorem bodyShapes_subset {g : Grammar} {kind : EntityKind} (h : kind ∈ g.kinds) :
    g.bodyShapes kind ⊆ g.memberShape.fieldShapes := by
  intro p hp
  cases g with
  | v1_6 =>
    simp only [memberShape, Shape.fieldShapes, List.mem_append]
    by_cases hc : kind = .contextualFacet
    · have hmem := shapes_subset_contextual (hc ▸ hp)
      rw [List.mem_append] at hmem
      tauto
    · have hmem := shapes_subset_resource hc hp
      rw [List.mem_append] at hmem
      tauto
  | v1_5 =>
    have hc : kind ≠ .contextualFacet := by simpa using (List.mem_filter.mp h).2
    have hmem := shapes_subset_resource hc hp
    simp only [memberShape, Shape.fieldShapes, List.mem_append] at hmem ⊢
    tauto
  | v1_4 =>
    by_cases he : kind = .enumeration
    · -- the only kind that has other fields in this grammar
      subst he
      simp only [bodyShapes, List.mem_cons, List.not_mem_nil, or_false] at hp
      rcases hp with rfl | rfl | rfl <;>
        simp [memberShape, Shape.fieldShapes, sharedMemberShapes]
    · rw [bodyShapes_of_ne he] at hp
      exact shared_subset .v1_4 (shapes_subset_shared h he hp)

theorem readShapes_subset {g : Grammar} {kind : EntityKind} (h : kind ∈ g.kinds) :
    g.readShapes kind ⊆ g.memberShape.fieldShapes := by
  refine List.append_subset.mpr ⟨inlineShapes_subset g, ?_⟩
  refine List.cons_subset.mpr ⟨?_, List.cons_subset.mpr ⟨?_, bodyShapes_subset h⟩⟩
  · exact shared_subset g (by simp [sharedMemberShapes])
  · exact shared_subset g (by simp [sharedMemberShapes])

theorem required_ifKind {fields : Keyed Json} {s kind : String} {yes no : Condition}
    (h : Keyed.find? "kind" fields = some (.str s)) :
    (Condition.ifKind kind yes no).required fields =
      if s = kind then yes.required fields else no.required fields := by
  rw [Condition.required, h]
  simp

/-- What a member of a kind cannot do without is required of it. -/
theorem required_of_conditions {g : Grammar} {kind : EntityKind} (h : kind ∈ g.kinds)
    {fields : Keyed Json} (hkind : Keyed.find? "kind" fields = some (.str (g.kindName kind)))
    (hrequired : ∀ c ∈ g.memberShape.conditions, ∀ name ∈ c.required fields,
      (Keyed.find? name fields).isSome) :
    ∀ name ∈ kind.requiredNames, (Keyed.find? name fields).isSome := by
  cases kind with
  | contextualFacet =>
    cases g with
    | v1_6 =>
      have hcontextual := hrequired
        (.ifKind "contextualFacet" (.requires ["facetKind", "facetName", "owner"]) (.requires []))
        (by simp [memberShape, Shape.conditions])
      rw [required_ifKind hkind] at hcontextual
      exact hcontextual
    | v1_5 | v1_4 => exact absurd h (by decide)
  | extensionPointFacet =>
    -- what else is asked of a member depends on the grammar
    have hextends : ∃ no, .ifKind "extensionPointFacet" (.requires ["extends"]) no ∈
        g.memberShape.conditions := by
      cases g <;> simp [memberShape, Shape.conditions, namedOrExtending]
    obtain ⟨no, hno⟩ := hextends
    have hextension := hrequired _ hno
    have hname : g.kindName .extensionPointFacet = "extensionPointFacet" := by cases g <;> rfl
    rw [required_ifKind hkind, if_pos hname] at hextension
    exact hextension
  | _ => simp [EntityKind.requiredNames]

/-- An admitted member has a kind of the grammar, the fields that are read have their
shapes, and those that its kind cannot do without are there. -/
theorem admitted_member {g : Grammar} {j : Json} (h : g.memberShape.violations j = []) :
    ∃ fields, ∃ kind ∈ g.kinds, j = .obj fields ∧
      Keyed.find? "kind" fields = some (.str (g.kindName kind)) ∧
      Shape.fieldViolations (g.readShapes kind) fields = [] ∧
      ∀ name ∈ kind.requiredNames, (Keyed.find? name fields).isSome := by
  rw [memberShape_eq] at h
  obtain ⟨fields, rfl, hfields, hrequired⟩ := Shape.violations_record h
  have hkinds : ("kind", Shape.oneOf (g.kinds.map g.kindName)) ∈ g.memberShape.fieldShapes := by
    cases g <;> exact List.mem_cons_self
  have hpresent : (Keyed.find? "kind" fields).isSome := by
    refine hrequired (.requires ["kind"]) ?_ "kind" List.mem_cons_self
    cases g <;> exact List.mem_cons_self
  -- the kind is a text, and one of those that the grammar lists
  obtain ⟨j, hj⟩ := Option.isSome_iff_exists.mp hpresent
  obtain ⟨s, hs, rfl⟩ :=
    Shape.violations_oneOf.mp (Shape.fieldViolations_eq_nil.mp hfields _ hkinds j hj)
  obtain ⟨kind, hkind, rfl⟩ := List.mem_map.mp hs
  exact ⟨fields, kind, hkind, rfl, hj,
    Shape.fieldViolations_subset (readShapes_subset hkind) hfields,
    required_of_conditions hkind hj hrequired⟩

theorem memberFits_eq {g : Grammar} {kind : EntityKind} (h : kind ∈ g.kinds) {fields : Keyed Json}
    (hkind : Keyed.find? "kind" fields = some (.str (g.kindName kind))) :
    g.memberFits (.obj fields) = Shape.fieldsFit (g.readShapes kind) fields := by
  rw [memberFits, Json.textField?, Json.field?, hkind, Option.bind_some, Json.text?,
    Option.bind_some, find?_kinds h]
  rfl

end Grammar

section

variable {fields : Keyed Json} {kind : EntityKind}

/-- A member is read from its name, its documentation and the fields of its body. -/
theorem readsFields_decodeWith? {shapes : List (String × Shape)}
    {body? : RecordSource → Option EntityBody}
    (hbody : ReadsFields fields shapes (body? (.named fields))) :
    ReadsFields fields (("name", nameShape) :: ("documentation", textShape) :: shapes)
      (MemberDecl.decodeWith? body? (.obj fields)) :=
  .object <|
    .cons (.withDefault (.text _) "") fun _ => .cons (.optional (.text _)) fun _ => .last hbody

theorem readsFields_member (hkind : Keyed.find? "kind" fields = some (.str kind.name))
    (hrequired : ∀ name ∈ kind.requiredNames, (Keyed.find? name fields).isSome) :
    ReadsFields fields (("name", nameShape) :: ("documentation", textShape) :: kind.shapes)
      (MemberDecl.decode? (.obj fields)) := by
  rw [MemberDecl.decode?_eq hkind]
  exact readsFields_decodeWith? (readsFields_body hrequired)

theorem readsFields_mapM {α β : Type} {shape : α → String × Shape} {f : α → Option β}
    (h : ∀ a, ReadsFields fields [shape a] (f a)) (as : List α) :
    ReadsFields fields (as.map shape) (as.mapM f) := by
  induction as with
  | nil => exact .done []
  | cons a rest ih =>
    rw [List.map_cons, List.mapM_cons]
    exact .cons (h a) fun _ => .last ih

theorem readsFields_inlineMember (hkind : Keyed.find? "kind" fields = some (.str kind.name))
    (hrequired : ∀ name ∈ kind.requiredNames, (Keyed.find? name fields).isSome) :
    ReadsFields fields (readShapes .v1_5 kind) (InlineMember.decode? (.obj fields)) := by
  refine .object (.append (readsFields_mapM (fun k => ?_) _) fun facets => ?_)
  · exact .last (.withDefault (.list reads_inlineFacet) [])
  · exact .last (readsFields_member hkind hrequired)

theorem readsFields_oldMember (h : kind ∈ oldKinds)
    (hkind : Keyed.find? "kind" fields = some (.str (oldKindName kind)))
    (hrequired : ∀ name ∈ kind.requiredNames, (Keyed.find? name fields).isSome) :
    ReadsFields fields (readShapes .v1_4 kind) (decodeOldMember? (.obj fields)) := by
  rw [decodeOldMember?_eq h hkind]
  refine readsFields_decodeWith? ?_
  rw [oldBody?]
  split
  · next he =>
    -- an enumeration of literals is read by rules of its own
    subst he
    refine .map EntityBody.enumeration ?_
    exact .cons (.withDefault .boolean false) fun _ =>
      .cons (.withDefault (.list (.text _)) []) fun _ => .last (.optional (.reference _))
  · next he =>
    rw [bodyShapes_of_ne he]
    exact readsFields_body hrequired

/-- The members of a document are read, unless a number does not fit. -/
theorem isSome_decode? {j : Json} (h : (memberShape .v1_6).violations j = []) :
    (MemberDecl.decode? j).isSome = memberFits .v1_6 j := by
  obtain ⟨fields, kind, hmem, rfl, hkind, hfields, hrequired⟩ := admitted_member h
  rw [memberFits_eq hmem hkind]
  exact readsFields_member hkind hrequired hfields

theorem isSome_decodeInline? {j : Json} (h : (memberShape .v1_5).violations j = []) :
    (InlineMember.decode? j).isSome = memberFits .v1_5 j := by
  obtain ⟨fields, kind, hmem, rfl, hkind, hfields, hrequired⟩ := admitted_member h
  rw [memberFits_eq hmem hkind]
  exact readsFields_inlineMember hkind hrequired hfields

theorem isSome_decodeOldMember? {j : Json} (h : (memberShape .v1_4).violations j = []) :
    (decodeOldMember? j).isSome = memberFits .v1_4 j := by
  obtain ⟨fields, kind, hmem, rfl, hkind, hfields, hrequired⟩ := admitted_member h
  rw [memberFits_eq hmem hkind]
  exact readsFields_oldMember hmem hkind hrequired hfields

/-- No admitted member with inline facets is a contextual facet. -/
theorem kind_ne_of_decodeInline? {j : Json} (h : (memberShape .v1_5).violations j = [])
    {m : InlineMember} (hm : InlineMember.decode? j = some m) :
    m.decl.body.kind ≠ .contextualFacet := by
  obtain ⟨fields, kind, hmem, rfl, hkind, -, -⟩ := admitted_member h
  have hdecl := (InlineMember.decode?_eq_some.mp hm).1
  rw [MemberDecl.decode?_eq hkind, MemberDecl.decodeWith?_eq_some] at hdecl
  rw [EntityBody.kind_of_decode? hdecl.2.2]
  simpa using (List.mem_filter.mp hmem).2

end

/-! ## Documents -/

theorem reads_import : Reads importShape ImportDecl.decode? := by
  refine .record fun fields _ => ?_
  exact .cons (.optional (.text _)) fun _ =>
    .cons (.optional (.text _)) fun _ => .last (.withDefault (.list (.text _)) [])

theorem reads_context : Reads contextShape ContextDecl.decode? := by
  refine .record fun fields hrequired => ?_
  exact .cons (.required (.text _) (hrequired "contextId" (by simp))) fun _ =>
    .last (.optional (.text _))

theorem readsFields_header {fields : Keyed Json} (hname : (Keyed.find? "name" fields).isSome) :
    ReadsFields fields headerShapes (LibraryHeader.decode? (.named fields)) :=
  .cons (.required (.text _) hname) fun _ =>
    .cons (.optional (.text _)) fun _ =>
    .cons (.optional (.text _)) fun _ =>
    .cons (.optional (.text _)) fun _ =>
    .cons (.withDefault (.choice (by decide)) LibraryStatus.draft) fun _ =>
    .last (.optional (.text _))

theorem readsFields_frame {fields : Keyed Json} (hname : (Keyed.find? "name" fields).isSome)
    (withContexts : Bool) :
    ReadsFields fields (frameShapes withContexts)
      (DocumentFrame.decode? (.named fields) withContexts) := by
  refine .append (readsFields_header hname) fun _ => ?_
  refine .cons (.withDefault (.list reads_import) []) fun _ => ?_
  refine .cons (.withDefault (.list (.text _)) []) fun _ => ?_
  cases withContexts with
  | true => exact .last (.withDefault (.list reads_context) [])
  | false => exact .done _

/-- A document holds no number besides those of its members. -/
theorem frameShapes_fit (withContexts : Bool) (fields : Keyed Json) :
    Shape.fieldsFit (frameShapes withContexts) fields = true := by
  refine Shape.fieldsFit_of_numberFree _ ?_ fields
  cases withContexts <;> rfl

namespace Grammar

theorem frameShapes_subset {g : Grammar} {withContexts : Bool}
    (h : withContexts = true → g ≠ .v1_4) : frameShapes withContexts ⊆ g.shape.fieldShapes := by
  cases withContexts with
  | false =>
    cases g <;> simp [frameShapes, headerShapes, shape, documentShapes, Shape.fieldShapes]
  | true =>
    cases g with
    | v1_4 => exact absurd rfl (h rfl)
    | _ => simp [frameShapes, headerShapes, shape, documentShapes, Shape.fieldShapes]

theorem shape_eq (g : Grammar) :
    g.shape = .record g.shape.fieldShapes [.requires [key, "name", "members"]] := by
  cases g <;> rfl

/-- An admitted document names its grammar, and has a name and admitted members. -/
theorem admitted_document {g : Grammar} {document : Json} (h : g.violations document = []) :
    ∃ fields items, document = .obj fields ∧ Shape.fieldViolations g.shape.fieldShapes fields = [] ∧
      Keyed.find? key fields = some (.str g.ns) ∧ (Keyed.find? "name" fields).isSome ∧
      Keyed.find? "members" fields = some (.arr items) ∧
      ∀ j ∈ items, g.memberShape.violations j = [] := by
  rw [violations, shape_eq] at h
  obtain ⟨fields, rfl, hfields, hrequired⟩ := Shape.violations_record h
  have hpresent : ∀ name ∈ [key, "name", "members"], (Keyed.find? name fields).isSome :=
    hrequired _ List.mem_cons_self
  have hvalid := Shape.fieldViolations_eq_nil.mp hfields
  obtain ⟨j, hj⟩ := Option.isSome_iff_exists.mp (hpresent key (by simp))
  have hns : (key, Shape.oneOf [g.ns]) ∈ g.shape.fieldShapes := by
    cases g <;> exact List.mem_cons_self
  obtain ⟨s, hs, rfl⟩ := Shape.violations_oneOf.mp (hvalid _ hns j hj)
  rw [List.mem_singleton] at hs
  subst hs
  obtain ⟨j, hmembers⟩ := Option.isSome_iff_exists.mp (hpresent "members" (by simp))
  have hlist : ("members", Shape.list g.memberShape) ∈ g.shape.fieldShapes := by
    cases g <;> simp [shape, documentShapes, Shape.fieldShapes]
  obtain ⟨items, rfl, hitems⟩ := Shape.violations_list.mp (hvalid _ hlist j hmembers)
  exact ⟨fields, items, rfl, hfields, hj, hpresent "name" (by simp), hmembers, hitems⟩

/-- An admitted document is read if all of its members are. -/
theorem isSome_readDocument? {g : Grammar} {withContexts : Bool} {α : Type}
    {member? : Json → Option α} (hcontexts : withContexts = true → g ≠ .v1_4)
    (hmember : ∀ j, g.memberShape.violations j = [] → (member? j).isSome = g.memberFits j)
    {document : Json} (h : g.violations document = []) :
    (readDocument? withContexts member? document).isSome = g.numbersFit document := by
  obtain ⟨fields, items, rfl, hfields, -, hname, hmembers, hitems⟩ := admitted_document h
  -- the frame is read, whatever the members are
  have hframe : (DocumentFrame.decode? (.named fields) withContexts).isSome = true := by
    rw [readsFields_frame hname withContexts
      (Shape.fieldViolations_subset (frameShapes_subset hcontexts) hfields)]
    exact frameShapes_fit withContexts fields
  obtain ⟨frame, hframe⟩ := Option.isSome_iff_exists.mp hframe
  have hread : (items.mapM member?).isSome = items.all g.memberFits :=
    isSome_mapM fun i hi => hmember i (hitems i hi)
  rw [numbersFit, Json.field?, hmembers, Option.bind_some, Json.items?, Option.all_some, ← hread]
  simp only [readDocument?, RecordSource.object?, RecordSource.required, RecordSource.get?,
    Json.list?, Option.bind_eq_bind, Option.bind_some, hframe, hmembers]
  cases items.mapM member? <;> rfl

section

variable {document : Json}

theorem isSome_readMembers (h : violations .v1_6 document = []) :
    (readDocument? true MemberDecl.decode? document).isSome = numbersFit .v1_6 document :=
  isSome_readDocument? (fun _ => by decide) (fun _ => isSome_decode?) h

theorem isSome_readInlineMembers (h : violations .v1_5 document = []) :
    (readDocument? true InlineMember.decode? document).isSome = numbersFit .v1_5 document :=
  isSome_readDocument? (fun _ => by decide) (fun _ => isSome_decodeInline?) h

theorem isSome_readOldMembers (h : violations .v1_4 document = []) :
    (readDocument? false decodeOldMember? document).isSome = numbersFit .v1_4 document :=
  isSome_readDocument? (fun h => absurd h Bool.false_ne_true) (fun _ => isSome_decodeOldMember?) h

/-- No admitted document has a contextual facet where facets are inline. -/
theorem find?_contextualFacet {frame : DocumentFrame} {members : List InlineMember}
    (h : violations .v1_5 document = [])
    (hread : readDocument? true InlineMember.decode? document = some (frame, members)) :
    (members.find? fun m => m.decl.body.kind = .contextualFacet) = none := by
  obtain ⟨fields, items, rfl, -, -, -, hitems, hvalid⟩ := admitted_document h
  obtain ⟨-, items', hitems', hmembers⟩ := readDocument?_eq_some.mp hread
  -- the members that were checked are the ones that were read
  rw [hitems, Option.some.injEq, Json.arr.injEq] at hitems'
  subst hitems'
  rw [List.find?_eq_none]
  simpa using forall_mem_of_mapM hmembers fun j hj m => kind_ne_of_decodeInline? (hvalid j hj)

/-- A document that its grammar admits is read if its numbers fit. -/
theorem read_of_numbersFit {g : Grammar} (h : g.violations document = [])
    (hfit : g.numbersFit document = true) (url : Url) : ∃ m, g.read url document = .ok m := by
  cases g with
  | v1_6 =>
    rw [← isSome_readMembers h] at hfit
    obtain ⟨parts, hread⟩ := Option.isSome_iff_exists.mp hfit
    rw [read, readCurrent?, hread]
    exact ⟨_, rfl⟩
  | v1_5 =>
    rw [← isSome_readInlineMembers h] at hfit
    obtain ⟨⟨frame, members⟩, hread⟩ := Option.isSome_iff_exists.mp hfit
    rw [read, readInline, hread]
    simp only [find?_contextualFacet h hread]
    exact ⟨_, rfl⟩
  | v1_4 =>
    rw [← isSome_readOldMembers h] at hfit
    obtain ⟨parts, hread⟩ := Option.isSome_iff_exists.mp hfit
    rw [read, readOld?, hread]
    exact ⟨_, rfl⟩

/-- A document that its grammar admits is malformed if a number does not fit. -/
theorem read_of_not_numbersFit {g : Grammar} (h : g.violations document = [])
    (hfit : g.numbersFit document = false) (url : Url) :
    g.read url document = .error (.malformed g) := by
  cases g with
  | v1_6 =>
    rw [← isSome_readMembers h, Option.isSome_eq_false_iff, Option.isNone_iff_eq_none] at hfit
    rw [read, readCurrent?, hfit]
    rfl
  | v1_5 =>
    rw [← isSome_readInlineMembers h, Option.isSome_eq_false_iff, Option.isNone_iff_eq_none]
      at hfit
    rw [read, readInline, hfit]
  | v1_4 =>
    rw [← isSome_readOldMembers h, Option.isSome_eq_false_iff, Option.isNone_iff_eq_none] at hfit
    rw [read, readOld?, hfit]
    rfl

end

end Grammar

/-! ## Loading -/

/-- A document that its grammar admits is read exactly if its numbers are written as
whole ones and fit, where a member of its kind has them: then it is loaded without a
finding, else it is reported as unreadable. -/
theorem strict_document_loads (g : Grammar) (document : Json) (h : g.violations document = []) :
    (∀ url, (∃ m, g.read url document = .ok m) ↔ g.numbersFit document = true) ∧
    ∀ (l : Loader) (source : ModuleSource), g ∈ l.grammars →
      source.bytes.bind Json.parseBytes? = some document →
      (g.numbersFit document = true →
        ∃ m, g.read source.url document = .ok m ∧
          l.load source = { url := source.url, module := some m, findings := [] }) ∧
      (g.numbersFit document = false →
        ∃ f, f.code = .unreadableLibraryContent ∧
          l.load source = { url := source.url, module := none, findings := [f] }) := by
  refine ⟨fun url => ⟨?_, fun hfit => Grammar.read_of_numbersFit h hfit url⟩, ?_⟩
  · rintro ⟨m, hm⟩
    by_contra hfit
    rw [Grammar.read_of_not_numbersFit h (Bool.eq_false_iff.mpr hfit)] at hm
    cases hm
  · intro l source hg hjson
    obtain ⟨fields, items, rfl, -, hns, -⟩ := Grammar.admitted_document h
    have hnames : (Json.obj fields).textField? Grammar.key = some g.ns := by
      rw [Json.textField?, Json.field?, hns]
      rfl
    constructor
    · intro hfit
      obtain ⟨m, hm⟩ := Grammar.read_of_numbersFit h hfit source.url
      refine ⟨m, hm, ?_⟩
      rw [Loader.load_of_reading hg ⟨hjson, hnames, hm⟩, h]
      rfl
    · intro hfit
      obtain ⟨bytes, hbytes, -⟩ := Option.bind_eq_some_iff.mp hjson
      -- no other grammar is named, and this one does not read the document
      have hunread : ∀ document', ∀ g' ∈ l.grammars, ∀ m,
          ¬ Loader.ReadsAs source document' g' m := by
        intro document' g' _ m hm
        obtain rfl : Json.obj fields = document' := Option.some.inj (hjson.symm.trans hm.json)
        have hsame : g = g' :=
          Grammar.eq_of_claims (Grammar.claims_iff.mpr hnames) (Grammar.claims_iff.mpr hm.names)
        subst hsame
        have hform := hm.form
        rw [Grammar.read_of_not_numbersFit h hfit] at hform
        cases hform
      obtain ⟨problem, hload⟩ := Loader.load_of_unreadable hbytes hunread
      exact ⟨_, rfl, hload⟩

/-- A library with one service, which has a length of more than 32 bits. -/
def serviceSource : ModuleSource :=
  { url :=
      { scheme := "file", authority := none, path := .rooted ["Orders.otm"], query := none
        fragment := none }
    bytes := some <| String.toUTF8 <|
      "\x7b\"$grammar\":\"http://www.OpenTravel.org/ns/OTA2/LibraryModel_v01_06\"," ++
        "\"name\":\"A\",\"members\":[\x7b\"kind\":\"service\",\"name\":\"B\",\"maxLength\":4294967296\x7d]\x7d" }

/-- The length of a service is not read, so it does not have to fit. -/
theorem serviceSource_loaded :
    ∃ document m, serviceSource.bytes.bind Json.parseBytes? = some document ∧
      Grammar.v1_6.violations document = [] ∧
      Grammar.v1_6.read serviceSource.url document = .ok m ∧
      ({} : Loader).load serviceSource =
        { url := serviceSource.url, module := some m, findings := [] } := by
  have htest : (serviceSource.bytes.bind Json.parseBytes?).any (fun document =>
      (Grammar.v1_6.violations document).isEmpty && Grammar.v1_6.numbersFit document) = true := by
    decide +kernel
  obtain ⟨document, hjson, htest⟩ := (Option.any_eq_true ..).mp htest
  rw [Bool.and_eq_true, List.isEmpty_iff] at htest
  obtain ⟨-, hloads⟩ := strict_document_loads .v1_6 document htest.1
  obtain ⟨m, hm, hload⟩ := (hloads {} serviceSource (by decide) hjson).1 htest.2
  exact ⟨document, m, hjson, htest.1, hm, hload⟩

/-- The grammar sets no bound to the length of a simple type, but one of more than 32
bits makes the document unreadable. -/
theorem wide_length_unreadable :
    let document := Json.object
      [ (Grammar.key, .str Grammar.v1_6.ns), ("name", .str "Codes"),
        ("members", .arr
          [ .object
              [ ("kind", .str "simpleType"), ("name", .str "Code"),
                ("maxLength", .nat 4294967296) ] ]) ]
    let result := ({} : Loader).loadDocument serviceSource.url (some document)
    Grammar.v1_6.violations document = [] ∧
      (∀ url m, Grammar.v1_6.read url document ≠ .ok m) ∧
      result.module = none ∧ result.findings.map Finding.code = [.unreadableLibraryContent] := by
  intro document result
  have hvalid : Grammar.v1_6.violations document = [] := by
    rw [← List.isEmpty_iff]
    decide +kernel
  refine ⟨hvalid, ?_, by decide +kernel⟩
  intro url m hm
  rw [Grammar.read_of_not_numbersFit hvalid (by decide +kernel)] at hm
  cases hm

end TravelModel
