import TravelModel.Proofs.Keyed
import TravelModel.Proofs.Needs
import TravelModel.Proofs.Reading

/-!
# TravelModel — members written and read back

The JSON form of a member leaves out what has its default, keeps the fields of a
body beside the name of the member, and writes a reference as its name. What is
read back from it is the member that was written, for each that could have been
read at all: its references are not bound and its numbers fit.

Main results:

* `optional_back`, `withDefault_list` — a field is read back from the entry that is
  written for it, or from none.
* `FacetContent.decode?_encode`, `Resource.decode?_entries` and the like — so are
  the parts of a body.
* `EntityBody.storable_of_decode?` — what is read is unbound and fits.
* `member_round_trip` — a member is read back exactly if that holds of it.
-/

namespace TravelModel

/-! ## Unbound references -/

/-- No reference of a value is bound. -/
def Unbound {α : Type} [References α] (a : α) : Prop :=
  ∀ r ∈ refs a, r.target = none

section

variable {α β : Type} [References α] [References β]

theorem unbound_pair {p : α × β} : Unbound p ↔ Unbound p.1 ∧ Unbound p.2 :=
  List.forall_mem_append

theorem unbound_list {as : List α} : Unbound as ↔ ∀ a ∈ as, Unbound a := by
  simp only [Unbound, mem_refs_list]
  exact ⟨fun h a ha r hr => h r ⟨a, ha, hr⟩, fun h r ⟨a, ha, hr⟩ => h a ha r hr⟩

theorem unbound_option {a : Option α} : Unbound a ↔ ∀ b ∈ a, Unbound b := by
  simp only [Unbound, mem_refs_option]
  exact ⟨fun h b hb r hr => h r ⟨b, hb, hr⟩, fun h r ⟨b, hb, hr⟩ => h b hb r hr⟩

theorem unbound_reference {r : Reference} : Unbound r ↔ r.target = none :=
  List.forall_mem_singleton

end

/-! ## Entries -/

namespace Json

variable (k name : String)

@[simp] theorem find?_optEntry (s : Option String) :
    Keyed.find? k (Keyed.ofList (optEntry name s)) = if k = name then s.map .str else none := by
  cases s <;> simp [optEntry]

@[simp] theorem find?_natEntry (n : Option Nat) :
    Keyed.find? k (Keyed.ofList (natEntry name n)) = if k = name then n.map .nat else none := by
  cases n <;> simp [natEntry]

@[simp] theorem find?_flagEntry (b : Bool) :
    Keyed.find? k (Keyed.ofList (flagEntry name b)) =
      if k = name then (if b then some (.bool true) else none) else none := by
  cases b <;> simp [flagEntry]

@[simp] theorem find?_listEntry (items : List Json) :
    Keyed.find? k (Keyed.ofList (listEntry name items)) =
      if k = name then (if items = [] then none else some (.arr items)) else none := by
  cases items <;> simp [listEntry]

@[simp] theorem find?_refEntry (r : Option Reference) :
    Keyed.find? k (Keyed.ofList (refEntry name r)) =
      if k = name then r.map fun r => .str r.name else none := by
  rw [refEntry, find?_optEntry, Option.map_map]
  rfl

end Json

/-! ## Values and fields that are read back -/

theorem bind_eq_some {α β : Type} {p : Option α} {f : α → Option β} {a : α} {b : β}
    (hp : p = some a) (hf : f a = some b) : (p >>= f) = some b := by
  rw [hp]
  exact hf

/-- A value is read back from how it is written, which is not as null. -/
structure ReadBack {α : Type} (read : Json → Option α) (write : α → Json) (x : α) : Prop where
  read_write : read (write x) = some x
  ne_null : write x ≠ .null

section

variable {α : Type} {fields : Keyed Json} {place : Nat} {name : String}
  {read : Json → Option α} {write : α → Json}

namespace ReadBack

theorem text (s : String) : ReadBack Json.text? .str s :=
  ⟨rfl, nofun⟩

theorem boolean (b : Bool) : ReadBack Json.bool? .bool b :=
  ⟨rfl, nofun⟩

theorem natBelow {bound n : Nat} (h : n < bound) : ReadBack (Json.natBelow? bound) .nat n :=
  ⟨Option.filter_some_pos (decide_eq_true h), nofun⟩

theorem reference {r : Reference} (h : Unbound r) :
    ReadBack Reference.decode? (fun r => .str r.name) r := by
  obtain ⟨name, target⟩ := r
  obtain rfl : target = none := unbound_reference.mp h
  exact ⟨rfl, nofun⟩

theorem choice {ofName? : String → Option α} {name : α → String} {x : α}
    (h : ofName? (name x) = some x) : ReadBack (Json.choice? ofName?) (fun x => .str (name x)) x :=
  ⟨h, nofun⟩

theorem mapM_map {xs : List α} (h : ∀ x ∈ xs, ReadBack read write x) :
    (xs.map write).mapM read = some xs := by
  induction xs with
  | nil => rfl
  | cons x rest ih =>
    rw [List.forall_mem_cons] at h
    rw [List.map_cons, mapM_cons_eq_some]
    exact ⟨x, rest, h.1.read_write, ih h.2, rfl⟩

theorem list {xs : List α} (h : ∀ x ∈ xs, ReadBack read write x) :
    ReadBack (Json.list? read) (fun xs => .arr (xs.map write)) xs :=
  ⟨mapM_map h, nofun⟩

end ReadBack

namespace RecordSource

theorem required_back {x : α} (hx : ReadBack read write x)
    (h : Keyed.find? name fields = some (write x)) :
    (named fields).required place name read = some x := by
  rw [required, get?, h]
  exact hx.read_write

theorem withDefault_back {x d : α} (hx : ReadBack read write x)
    (h : Keyed.find? name fields = some (write x)) :
    (named fields).withDefault place name read d = some x := by
  rw [withDefault, get?, h]
  exact hx.read_write

/-- A mark is written if it is set. -/
theorem withDefault_flag {b : Bool}
    (h : Keyed.find? name fields = if b then some (.bool true) else none) :
    (named fields).withDefault place name Json.bool? false = some b := by
  rw [withDefault, get?, h]
  cases b <;> rfl

/-- A list is written if it has items. -/
theorem withDefault_list {xs : List α} (hxs : ∀ x ∈ xs, ReadBack read write x)
    (h : Keyed.find? name fields = if xs = [] then none else some (.arr (xs.map write))) :
    (named fields).withDefault place name (Json.list? read) [] = some xs := by
  rw [withDefault, get?, h]
  cases xs with
  | nil => rfl
  | cons x rest => exact (ReadBack.list hxs).read_write

/-- A value is written if it is there. -/
theorem optional_back {o : Option α} (ho : ∀ x ∈ o, ReadBack read write x)
    (h : Keyed.find? name fields = o.map write) :
    (named fields).optional place name read = some o := by
  rw [optional, get?, h]
  cases o with
  | none => rfl
  | some x =>
    obtain ⟨hread, hnull⟩ := ho x rfl
    rw [Option.map_some]
    cases hwrite : write x with
    | null => exact absurd hwrite hnull
    | _ =>
      rw [hwrite] at hread
      exact congrArg (Option.map some) hread

end RecordSource

end

open RecordSource

/-! ## Parts of declarations -/

theorem readBack_attribute {a : Attribute} (h : Unbound a) :
    ReadBack Attribute.decode? Attribute.encode a := by
  -- one step for each field, in the order of the reader; what is left to show is where the
  -- entry of the field stands
  refine ⟨bind_eq_some rfl <| bind_eq_some (required_back (.text _) ?_) <|
    bind_eq_some (required_back (.reference h) ?_) <|
    bind_eq_some (withDefault_back (.boolean _) ?_) <|
    bind_eq_some (optional_back (fun s _ => .text s) ?_) rfl, nofun⟩
  all_goals simp

theorem readBack_element {e : Element} (h : Unbound e) (hsize : e.maxRepeat < Nat.pow 2 32) :
    ReadBack Element.decode? Element.encode e := by
  refine ⟨bind_eq_some rfl <| bind_eq_some (withDefault_back (.text _) ?_) <|
    bind_eq_some (required_back (.reference h) ?_) <|
    bind_eq_some (withDefault_back (.boolean _) ?_) <|
    bind_eq_some (withDefault_back (.natBelow hsize) ?_) <|
    bind_eq_some (withDefault_back (.boolean _) ?_) <|
    bind_eq_some (withDefault_back (.boolean _) ?_) <|
    bind_eq_some (optional_back (fun s _ => .text s) ?_) rfl, nofun⟩
  all_goals simp

theorem readBack_indicator (i : Indicator) : ReadBack Indicator.decode? Indicator.encode i := by
  refine ⟨bind_eq_some rfl <| bind_eq_some (required_back (.text _) ?_) <|
    bind_eq_some (withDefault_back (.boolean _) ?_) <|
    bind_eq_some (optional_back (fun s _ => .text s) ?_) rfl, nofun⟩
  all_goals simp

/-- The repeats of a content fit. -/
def FacetContent.Sized (c : FacetContent) : Prop :=
  ∀ e ∈ c.elements, e.maxRepeat < Nat.pow 2 32

/-- A content is read back from any record that has its entries. -/
theorem FacetContent.decodeFields?_entries {c : FacetContent} {fields : Keyed Json}
    (h : Unbound c) (hsize : c.Sized)
    (hfields : ∀ name ∈ Grammar.contentShapes.map Prod.fst,
      Keyed.find? name fields = Keyed.find? name (.ofList c.entries)) :
    FacetContent.decodeFields? (.named fields) = some c := by
  obtain ⟨hattributes, helements⟩ := unbound_pair.mp h
  -- what stands around the content in the record does not matter
  rw [FacetContent.decodeFields?_congr hfields]
  refine bind_eq_some (withDefault_list (fun a ha =>
      readBack_attribute (unbound_list.mp hattributes a ha)) ?_) <|
    bind_eq_some (withDefault_list (fun e he =>
      readBack_element (unbound_list.mp helements e he) (hsize e he)) ?_) <|
    bind_eq_some (withDefault_list (fun i _ => readBack_indicator i) ?_) rfl
  all_goals simp [FacetContent.entries]

theorem readBack_content {c : FacetContent} (h : Unbound c) (hsize : c.Sized) :
    ReadBack FacetContent.decode? FacetContent.encode c :=
  ⟨FacetContent.decodeFields?_entries h hsize fun _ _ => rfl, nofun⟩

/-! ## Simple kinds -/

/-- The lengths and digits of a simple type fit. -/
def SimpleType.Sized (t : SimpleType) : Prop :=
  ∀ o ∈ [t.minLength, t.maxLength, t.fractionDigits, t.totalDigits], ∀ n ∈ o, n < Nat.pow 2 32

theorem SimpleType.decode?_entries {t : SimpleType} (h : Unbound t) (hsize : t.Sized) :
    SimpleType.decode? (.named (.ofList t.entries)) = some t := by
  have hnumber : ∀ o ∈ [t.minLength, t.maxLength, t.fractionDigits, t.totalDigits], ∀ n ∈ o,
      ReadBack Json.nat32? .nat n := fun o ho n hn => .natBelow (hsize o ho n hn)
  refine bind_eq_some (optional_back (fun r hr => .reference (unbound_option.mp h r hr)) ?_) <|
    bind_eq_some (optional_back (fun s _ => .text s) ?_) <|
    bind_eq_some (optional_back (hnumber _ (by simp)) ?_) <|
    bind_eq_some (optional_back (hnumber _ (by simp)) ?_) <|
    bind_eq_some (optional_back (hnumber _ (by simp)) ?_) <|
    bind_eq_some (optional_back (hnumber _ (by simp)) ?_) <|
    bind_eq_some (optional_back (fun s _ => .text s) ?_) <|
    bind_eq_some (optional_back (fun s _ => .text s) ?_) <|
    bind_eq_some (withDefault_flag ?_) rfl
  all_goals simp [SimpleType.entries]

theorem readBack_enumValue (v : EnumValue) : ReadBack EnumValue.decode? EnumValue.encode v := by
  refine ⟨bind_eq_some rfl <| bind_eq_some (required_back (.text _) ?_) <|
    bind_eq_some (optional_back (fun s _ => .text s) ?_) rfl, nofun⟩
  all_goals simp

theorem Enumeration.decode?_entries {e : Enumeration} (h : Unbound e) :
    Enumeration.decode? (.named (.ofList e.entries)) = some e := by
  refine bind_eq_some (withDefault_back (.boolean _) ?_) <|
    bind_eq_some (withDefault_back (.list fun v _ => readBack_enumValue v) ?_) <|
    bind_eq_some (optional_back (fun r hr => .reference (unbound_option.mp h r hr)) ?_) rfl
  all_goals simp [Enumeration.entries]

theorem ValueWithAttributes.decode?_entries {v : ValueWithAttributes} (h : Unbound v)
    (hsize : v.content.Sized) :
    ValueWithAttributes.decode? (.named (.ofList v.entries)) = some v := by
  obtain ⟨htype, hcontent⟩ := unbound_pair.mp h
  refine bind_eq_some (optional_back (fun r hr => .reference (unbound_option.mp htype r hr)) ?_) <|
    bind_eq_some (FacetContent.decodeFields?_entries hcontent hsize ?_) rfl
  all_goals simp [ValueWithAttributes.entries, FacetContent.entries, Grammar.contentShapes]

/-! ## Objects -/

theorem CoreObject.decode?_entries {o : CoreObject} (h : Unbound o) (hsummary : o.summary.Sized)
    (hdetail : o.detail.Sized) : CoreObject.decode? (.named (.ofList o.entries)) = some o := by
  obtain ⟨hextension, h⟩ := unbound_pair.mp h
  obtain ⟨htype, h⟩ := unbound_pair.mp h
  obtain ⟨hunbound, hunbound'⟩ := unbound_pair.mp h
  refine
    bind_eq_some (optional_back (fun r hr => .reference (unbound_option.mp hextension r hr)) ?_) <|
    bind_eq_some (optional_back (fun r hr => .reference (unbound_option.mp htype r hr)) ?_) <|
    bind_eq_some (withDefault_back (readBack_content hunbound hsummary) ?_) <|
    bind_eq_some (withDefault_back (readBack_content hunbound' hdetail) ?_) <|
    bind_eq_some (withDefault_list (fun s _ => .text s) ?_) <|
    bind_eq_some (withDefault_list (fun s _ => .text s) ?_) <|
    bind_eq_some (withDefault_flag ?_) rfl
  all_goals simp [CoreObject.entries]

theorem BusinessObject.decode?_entries {o : BusinessObject} (h : Unbound o) (hid : o.id.Sized)
    (hsummary : o.summary.Sized) (hdetail : o.detail.Sized) :
    BusinessObject.decode? (.named (.ofList o.entries)) = some o := by
  obtain ⟨hextension, h⟩ := unbound_pair.mp h
  obtain ⟨hunbound, h⟩ := unbound_pair.mp h
  obtain ⟨hunbound', hunbound''⟩ := unbound_pair.mp h
  refine
    bind_eq_some (optional_back (fun r hr => .reference (unbound_option.mp hextension r hr)) ?_) <|
    bind_eq_some (withDefault_back (readBack_content hunbound hid) ?_) <|
    bind_eq_some (withDefault_back (readBack_content hunbound' hsummary) ?_) <|
    bind_eq_some (withDefault_back (readBack_content hunbound'' hdetail) ?_) <|
    bind_eq_some (withDefault_list (fun s _ => .text s) ?_) <|
    bind_eq_some (withDefault_flag ?_) rfl
  all_goals simp [BusinessObject.entries]

theorem ChoiceObject.decode?_entries {o : ChoiceObject} (h : Unbound o)
    (hshared : o.shared.Sized) :
    ChoiceObject.decode? (.named (.ofList o.entries)) = some o := by
  obtain ⟨hextension, hunbound⟩ := unbound_pair.mp h
  refine
    bind_eq_some (optional_back (fun r hr => .reference (unbound_option.mp hextension r hr)) ?_) <|
    bind_eq_some (withDefault_back (readBack_content hunbound hshared) ?_) <|
    bind_eq_some (withDefault_list (fun s _ => .text s) ?_) <|
    bind_eq_some (withDefault_flag ?_) rfl
  all_goals simp [ChoiceObject.entries]

theorem ContextualFacet.decode?_entries {f : ContextualFacet} (h : Unbound f)
    (hsize : f.content.Sized) : ContextualFacet.decode? (.named (.ofList f.entries)) = some f := by
  obtain ⟨howner, hcontent⟩ := unbound_pair.mp h
  refine bind_eq_some (required_back (.choice f.facetKind.ofName?_name) ?_) <|
    bind_eq_some (required_back (.text _) ?_) <|
    bind_eq_some (required_back (.reference howner) ?_) <|
    bind_eq_some (optional_back (fun s _ => .text s) ?_) <|
    bind_eq_some (FacetContent.decodeFields?_entries hcontent hsize ?_) rfl
  all_goals simp [ContextualFacet.entries, FacetContent.entries, Grammar.contentShapes]

theorem ExtensionPointFacet.decode?_entries {f : ExtensionPointFacet} (h : Unbound f)
    (hsize : f.content.Sized) :
    ExtensionPointFacet.decode? (.named (.ofList f.entries)) = some f := by
  obtain ⟨hextended, hcontent⟩ := unbound_pair.mp h
  refine bind_eq_some (required_back (.reference hextended) ?_) <|
    bind_eq_some (FacetContent.decodeFields?_entries hcontent hsize ?_) rfl
  all_goals simp [ExtensionPointFacet.entries, FacetContent.entries, Grammar.contentShapes]

/-! ## Resources -/

theorem readBack_parameter (p : Parameter) : ReadBack Parameter.decode? Parameter.encode p := by
  have hlocation : ParameterLocation.ofName? p.location.name = some p.location := by
    cases p.location <;> decide
  refine ⟨bind_eq_some rfl <| bind_eq_some (required_back (.text _) ?_) <|
    bind_eq_some (withDefault_back (.choice hlocation) ?_) rfl, nofun⟩
  all_goals simp

theorem readBack_parameterGroup {g : ParameterGroup} (h : Unbound g) :
    ReadBack ParameterGroup.decode? ParameterGroup.encode g := by
  refine ⟨bind_eq_some rfl <| bind_eq_some (required_back (.text _) ?_) <|
    bind_eq_some (withDefault_back (.boolean _) ?_) <|
    bind_eq_some (optional_back (fun r hr => .reference (unbound_option.mp h r hr)) ?_) <|
    bind_eq_some (withDefault_back (.list fun p _ => readBack_parameter p) ?_) rfl, nofun⟩
  all_goals simp

theorem readBack_parentRef {p : ParentRef} (h : Unbound p) :
    ReadBack ParentRef.decode? ParentRef.encode p := by
  refine ⟨bind_eq_some rfl <| bind_eq_some (required_back (.reference h) ?_) <|
    bind_eq_some (withDefault_back (.text _) ?_) <|
    bind_eq_some (optional_back (fun s _ => .text s) ?_) rfl, nofun⟩
  all_goals simp

theorem readBack_request {q : ActionRequest} (h : Unbound q) :
    ReadBack ActionRequest.decode? ActionRequest.encode q := by
  have hmethod : HttpMethod.ofName? q.method.name = some q.method := by
    cases q.method <;> decide
  refine ⟨bind_eq_some rfl <| bind_eq_some (required_back (.choice hmethod) ?_) <|
    bind_eq_some (withDefault_back (.text _) ?_) <|
    bind_eq_some (optional_back (fun s _ => .text s) ?_) <|
    bind_eq_some (optional_back (fun r hr => .reference (unbound_option.mp h r hr)) ?_) <|
    bind_eq_some (withDefault_list (fun s _ => .text s) ?_) rfl, nofun⟩
  all_goals simp

/-- The status codes of a response fit. -/
def ActionResponse.Sized (p : ActionResponse) : Prop :=
  ∀ code ∈ p.statusCodes, code < Nat.pow 2 16

theorem readBack_response {p : ActionResponse} (h : Unbound p) (hsize : p.Sized) :
    ReadBack ActionResponse.decode? ActionResponse.encode p := by
  refine ⟨bind_eq_some rfl <|
    bind_eq_some (required_back (.list fun code hcode => .natBelow (hsize code hcode)) ?_) <|
    bind_eq_some (optional_back (fun r hr => .reference (unbound_option.mp h r hr)) ?_) <|
    bind_eq_some (withDefault_list (fun s _ => .text s) ?_) rfl, nofun⟩
  all_goals simp

theorem readBack_action {a : ResourceAction} (h : Unbound a)
    (hsize : ∀ p ∈ a.responses, p.Sized) :
    ReadBack ResourceAction.decode? ResourceAction.encode a := by
  obtain ⟨hrequest, hresponses⟩ := unbound_pair.mp h
  refine ⟨bind_eq_some rfl <| bind_eq_some (required_back (.text _) ?_) <|
    bind_eq_some (withDefault_back (.boolean _) ?_) <|
    bind_eq_some (required_back (readBack_request hrequest) ?_) <|
    bind_eq_some (withDefault_back (.list fun p hp =>
      readBack_response (unbound_list.mp hresponses p hp) (hsize p hp)) ?_) rfl, nofun⟩
  all_goals simp

theorem Resource.decode?_entries {x : Resource} (h : Unbound x)
    (hsize : ∀ a ∈ x.actions, ∀ p ∈ a.responses, p.Sized) :
    Resource.decode? (.named (.ofList x.entries)) = some x := by
  obtain ⟨hobject, h⟩ := unbound_pair.mp h
  obtain ⟨hparents, h⟩ := unbound_pair.mp h
  obtain ⟨hgroups, hactions⟩ := unbound_pair.mp h
  refine
    bind_eq_some (optional_back (fun r hr => .reference (unbound_option.mp hobject r hr)) ?_) <|
    bind_eq_some (withDefault_back (.text _) ?_) <|
    bind_eq_some (withDefault_flag ?_) <|
    bind_eq_some (withDefault_back (.boolean _) ?_) <|
    bind_eq_some (withDefault_list (fun p hp =>
      readBack_parentRef (unbound_list.mp hparents p hp)) ?_) <|
    bind_eq_some (withDefault_list (fun g hg =>
      readBack_parameterGroup (unbound_list.mp hgroups g hg)) ?_) <|
    bind_eq_some (withDefault_back (.list fun a ha =>
      readBack_action (unbound_list.mp hactions a ha) (hsize a ha)) ?_) rfl
  all_goals simp [Resource.entries]

/-! ## Services -/

/-- The repeats in the messages of an operation fit. -/
def Operation.Sized (op : Operation) : Prop :=
  ∀ o ∈ [op.request, op.response, op.notification], ∀ c ∈ o, c.Sized

/-- Which messages are written is for the operation to say. -/
theorem Operation.encode_eq (op : Operation) :
    op.encode = .object (("name", .str op.name) ::
      ((op.request.map fun c => ("request", c.encode)).toList ++
        (op.response.map fun c => ("response", c.encode)).toList ++
        (op.notification.map fun c => ("notification", c.encode)).toList)) := by
  obtain ⟨name, request, response, notification⟩ := op
  cases request <;> cases response <;> cases notification <;> rfl

theorem readBack_operation {op : Operation} (h : Unbound op) (hsize : op.Sized) :
    ReadBack Operation.decode? Operation.encode op := by
  obtain ⟨hrequest, h⟩ := unbound_pair.mp h
  obtain ⟨hresponse, hnotification⟩ := unbound_pair.mp h
  refine ⟨bind_eq_some (congrArg (record? 4) op.encode_eq) <|
    bind_eq_some (required_back (.text _) ?_) <|
    bind_eq_some (optional_back (fun c hc =>
      readBack_content (unbound_option.mp hrequest c hc) (hsize _ (by simp) c hc)) ?_) <|
    bind_eq_some (optional_back (fun c hc =>
      readBack_content (unbound_option.mp hresponse c hc) (hsize _ (by simp) c hc)) ?_) <|
    bind_eq_some (optional_back (fun c hc =>
      readBack_content (unbound_option.mp hnotification c hc) (hsize _ (by simp) c hc)) ?_) rfl,
    nofun⟩
  all_goals simp

theorem Service.decode?_entries {s : Service} (h : Unbound s)
    (hsize : ∀ op ∈ s.operations, op.Sized) :
    Service.decode? (.named (.ofList s.entries)) = some s := by
  refine bind_eq_some (withDefault_back (.list fun op hop =>
    readBack_operation (unbound_list.mp h op hop) (hsize op hop)) ?_) rfl
  simp [Service.entries]

/-! ## Members -/

namespace EntityBody

/-- The numbers of a body fit where they are read. -/
def Sized : EntityBody → Prop
  | simpleType t => t.Sized
  | enumeration _ => True
  | valueWithAttributes v => v.content.Sized
  | coreObject o => o.summary.Sized ∧ o.detail.Sized
  | businessObject o => o.id.Sized ∧ o.summary.Sized ∧ o.detail.Sized
  | choiceObject o => o.shared.Sized
  | contextualFacet f => f.content.Sized
  | extensionPointFacet f => f.content.Sized
  | resource r => ∀ a ∈ r.actions, ∀ p ∈ a.responses, p.Sized
  | service s => ∀ op ∈ s.operations, op.Sized

theorem decode?_entries {b : EntityBody} (h : Unbound b) (hsize : b.Sized) :
    decode? b.kind (.named (.ofList b.entries)) = some b := by
  cases b with
  | simpleType t => exact congrArg (Option.map _) (SimpleType.decode?_entries h hsize)
  | enumeration e => exact congrArg (Option.map _) (Enumeration.decode?_entries h)
  | valueWithAttributes v =>
    exact congrArg (Option.map _) (ValueWithAttributes.decode?_entries h hsize)
  | coreObject o => exact congrArg (Option.map _) (CoreObject.decode?_entries h hsize.1 hsize.2)
  | businessObject o =>
    exact congrArg (Option.map _)
      (BusinessObject.decode?_entries h hsize.1 hsize.2.1 hsize.2.2)
  | choiceObject o => exact congrArg (Option.map _) (ChoiceObject.decode?_entries h hsize)
  | contextualFacet f => exact congrArg (Option.map _) (ContextualFacet.decode?_entries h hsize)
  | extensionPointFacet f =>
    exact congrArg (Option.map _) (ExtensionPointFacet.decode?_entries h hsize)
  | resource r => exact congrArg (Option.map _) (Resource.decode?_entries h hsize)
  | service s => exact congrArg (Option.map _) (Service.decode?_entries h hsize)

/-- The fields of a body do not get in the way of those beside it. -/
theorem find?_entries (b : EntityBody) {name : String} (h : name ∈ EntityKind.sharedNames) :
    Keyed.find? name (.ofList b.entries) = none := by
  simp only [EntityKind.sharedNames, List.mem_cons, List.not_mem_nil, or_false] at h
  -- no kind has a field of one of the three names
  rcases h with rfl | rfl | rfl <;> cases b <;>
    simp [entries, SimpleType.entries, Enumeration.entries, ValueWithAttributes.entries,
      CoreObject.entries, BusinessObject.entries, ChoiceObject.entries, ContextualFacet.entries,
      ExtensionPointFacet.entries, Resource.entries, Service.entries, FacetContent.entries]

end EntityBody

namespace MemberDecl

/-- What the record of a member has under a name. -/
theorem field?_encode (m : MemberDecl) (name : String) :
    m.encode.field? name =
      (Keyed.find? name (.ofList m.body.entries)).or
        (if name = "kind" then some (.str m.body.kind.name)
        else if name = "documentation" then m.documentation.map .str
        else if name = "name" then some (.str m.name)
        else none) := by
  rw [encode, Json.object, Json.field?]
  by_cases hkind : name = "kind"
  · simp [hkind]
  · by_cases hdocumentation : name = "documentation"
    · simp [hdocumentation]
    · simp [hkind, hdocumentation]

theorem decode?_encode {m : MemberDecl} (h : Unbound m.body) (hsize : m.body.Sized) :
    decode? m.encode = some m := by
  have hkind : m.encode.field? "kind" = some (.str m.body.kind.name) := by
    rw [field?_encode, m.body.find?_entries (by decide)]
    rfl
  have hname : m.encode.field? "name" = some (.str m.name) := by
    rw [field?_encode, m.body.find?_entries (by decide)]
    rfl
  have hdocumentation : m.encode.field? "documentation" = m.documentation.map .str := by
    rw [field?_encode, m.body.find?_entries (by decide)]
    rfl
  rw [encode, Json.object, MemberDecl.decode?_eq hkind, MemberDecl.decodeWith?_eq_some]
  refine ⟨withDefault_back (.text _) hname, optional_back (fun s _ => .text s) hdocumentation, ?_⟩
  -- the body reads none of the fields that stand beside it
  rw [← EntityBody.decode?_entries h hsize]
  refine EntityBody.decode?_congr fun name hname => (m.field?_encode name).trans ?_
  have hshared := EntityKind.notMem_sharedNames hname
  simp only [EntityKind.sharedNames, List.mem_cons, List.not_mem_nil, or_false, not_or] at hshared
  simp [hshared]

end MemberDecl

/-! ## What can be read -/

/-- Whatever is read has a property. -/
def Yields {α : Type} (read : Json → Option α) (p : α → Prop) : Prop :=
  ∀ j x, read j = some x → p x

namespace Yields

variable {α : Type} {read : Json → Option α} {p : α → Prop} {s : RecordSource} {place : Nat}
  {name : String}

theorem reference : Yields Reference.decode? Unbound := by
  intro j r h
  obtain ⟨name, -, rfl⟩ := Option.map_eq_some_iff.mp h
  exact unbound_reference.mpr rfl

theorem natBelow (bound : Nat) : Yields (Json.natBelow? bound) (· < bound) := by
  intro j n h
  simpa using (Option.filter_eq_some_iff.mp h).2

theorem list (hread : Yields read p) : Yields (Json.list? read) fun xs => ∀ x ∈ xs, p x := by
  intro j xs h
  cases j with
  | arr items => exact forall_mem_of_mapM h fun i _ x hx => hread i x hx
  | _ => cases h

theorem required (hread : Yields read p) {x : α} (h : s.required place name read = some x) :
    p x := by
  obtain ⟨j, -, hj⟩ := Option.bind_eq_some_iff.mp h
  exact hread j x hj

theorem withDefault (hread : Yields read p) {d x : α} (hd : p d)
    (h : s.withDefault place name read d = some x) : p x := by
  rw [RecordSource.withDefault] at h
  split at h
  · exact hread _ x h
  · obtain rfl := Option.some.inj h
    exact hd

theorem withDefault_list (hread : Yields read p) {xs : List α}
    (h : s.withDefault place name (Json.list? read) [] = some xs) : ∀ x ∈ xs, p x :=
  hread.list.withDefault (List.forall_mem_nil _) h

theorem optional (hread : Yields read p) {o : Option α}
    (h : s.optional place name read = some o) : ∀ x ∈ o, p x := by
  rw [RecordSource.optional] at h
  split at h
  · obtain rfl := Option.some.inj h
    exact fun x hx => absurd hx (Option.not_mem_none x)
  · obtain rfl := Option.some.inj h
    exact fun x hx => absurd hx (Option.not_mem_none x)
  · obtain ⟨x, hx, rfl⟩ := Option.map_eq_some_iff.mp h
    intro y hy
    obtain rfl := Option.mem_some_iff.mp hy
    exact hread _ x hx

end Yields

theorem yields_attribute : Yields Attribute.decode? Unbound := by
  intro j a h
  simp only [Attribute.decode?, Option.bind_eq_bind, Option.bind_eq_some_iff, Option.pure_def,
    Option.some.injEq] at h
  -- of the fields that were read, only those count that hold a reference or a number
  obtain ⟨s, -, name, -, type, htype, mandatory, -, documentation, -, rfl⟩ := h
  exact Yields.reference.required htype

theorem yields_element :
    Yields Element.decode? fun e => Unbound e ∧ e.maxRepeat < Nat.pow 2 32 := by
  intro j e h
  simp only [Element.decode?, Option.bind_eq_bind, Option.bind_eq_some_iff, Option.pure_def,
    Option.some.injEq] at h
  obtain ⟨s, -, name, -, type, htype, mandatory, -, maxRepeat, hrepeat, unbounded, -, byReference,
    -, documentation, -, rfl⟩ := h
  exact ⟨Yields.reference.required htype, (Yields.natBelow _).withDefault (by decide) hrepeat⟩

theorem FacetContent.storable_of_decodeFields? {s : RecordSource} {c : FacetContent}
    (h : FacetContent.decodeFields? s = some c) : Unbound c ∧ c.Sized := by
  simp only [FacetContent.decodeFields?, Option.bind_eq_bind, Option.bind_eq_some_iff,
    Option.pure_def, Option.some.injEq] at h
  obtain ⟨attributes, hattributes, elements, helements, indicators, -, rfl⟩ := h
  have helement := yields_element.withDefault_list helements
  refine ⟨unbound_pair.mpr ⟨?_, ?_⟩, fun e he => (helement e he).2⟩
  · exact unbound_list.mpr (yields_attribute.withDefault_list hattributes)
  · exact unbound_list.mpr fun e he => (helement e he).1

theorem yields_content : Yields FacetContent.decode? fun c => Unbound c ∧ c.Sized := by
  intro j c h
  obtain ⟨s, -, hs⟩ := Option.bind_eq_some_iff.mp h
  exact FacetContent.storable_of_decodeFields? hs

/-- A content that is left out is empty. -/
theorem FacetContent.storable_empty : Unbound ({} : FacetContent) ∧ ({} : FacetContent).Sized :=
  ⟨fun _ h => absurd h List.not_mem_nil, fun _ h => absurd h List.not_mem_nil⟩

theorem yields_parameterGroup : Yields ParameterGroup.decode? Unbound := by
  intro j g h
  simp only [ParameterGroup.decode?, Option.bind_eq_bind, Option.bind_eq_some_iff,
    Option.pure_def, Option.some.injEq] at h
  obtain ⟨s, -, name, -, idGroup, -, facet, hfacet, parameters, -, rfl⟩ := h
  exact unbound_option.mpr (Yields.reference.optional hfacet)

theorem yields_parentRef : Yields ParentRef.decode? Unbound := by
  intro j p h
  simp only [ParentRef.decode?, Option.bind_eq_bind, Option.bind_eq_some_iff, Option.pure_def,
    Option.some.injEq] at h
  obtain ⟨s, -, resource, hresource, path, -, group, -, rfl⟩ := h
  exact Yields.reference.required hresource

theorem yields_request : Yields ActionRequest.decode? Unbound := by
  intro j q h
  simp only [ActionRequest.decode?, Option.bind_eq_bind, Option.bind_eq_some_iff, Option.pure_def,
    Option.some.injEq] at h
  obtain ⟨s, -, method, -, path, -, group, -, payload, hpayload, types, -, rfl⟩ := h
  exact unbound_option.mpr (Yields.reference.optional hpayload)

theorem yields_response : Yields ActionResponse.decode? fun p => Unbound p ∧ p.Sized := by
  intro j p h
  simp only [ActionResponse.decode?, Option.bind_eq_bind, Option.bind_eq_some_iff,
    Option.pure_def, Option.some.injEq] at h
  obtain ⟨s, -, codes, hcodes, payload, hpayload, types, -, rfl⟩ := h
  exact ⟨unbound_option.mpr (Yields.reference.optional hpayload),
    (Yields.natBelow _).list.required hcodes⟩

theorem yields_action :
    Yields ResourceAction.decode? fun a => Unbound a ∧ ∀ p ∈ a.responses, p.Sized := by
  intro j a h
  simp only [ResourceAction.decode?, Option.bind_eq_bind, Option.bind_eq_some_iff,
    Option.pure_def, Option.some.injEq] at h
  obtain ⟨s, -, id, -, common, -, request, hrequest, responses, hresponses, rfl⟩ := h
  have hresponse := yields_response.withDefault_list hresponses
  refine ⟨unbound_pair.mpr ⟨yields_request.required hrequest, ?_⟩, fun p hp => (hresponse p hp).2⟩
  exact unbound_list.mpr fun p hp => (hresponse p hp).1

theorem yields_operation : Yields Operation.decode? fun op => Unbound op ∧ op.Sized := by
  intro j op h
  simp only [Operation.decode?, Option.bind_eq_bind, Option.bind_eq_some_iff, Option.pure_def,
    Option.some.injEq] at h
  obtain ⟨s, -, name, -, request, hrequest, response, hresponse, notification, hnotification,
    rfl⟩ := h
  have hrequest := yields_content.optional hrequest
  have hresponse := yields_content.optional hresponse
  have hnotification := yields_content.optional hnotification
  refine ⟨unbound_pair.mpr ⟨unbound_option.mpr fun c hc => (hrequest c hc).1, unbound_pair.mpr
    ⟨unbound_option.mpr fun c hc => (hresponse c hc).1,
      unbound_option.mpr fun c hc => (hnotification c hc).1⟩⟩, ?_⟩
  simp only [Operation.Sized, List.forall_mem_cons]
  exact ⟨fun c hc => (hrequest c hc).2, fun c hc => (hresponse c hc).2,
    fun c hc => (hnotification c hc).2, List.forall_mem_nil _⟩

section

variable {s : RecordSource}

theorem SimpleType.storable_of_decode? {t : SimpleType} (h : SimpleType.decode? s = some t) :
    Unbound t ∧ t.Sized := by
  simp only [SimpleType.decode?, Option.bind_eq_bind, Option.bind_eq_some_iff, Option.pure_def,
    Option.some.injEq] at h
  obtain ⟨base, hbase, pattern, -, minLength, hmin, maxLength, hmax, fractionDigits, hfraction,
    totalDigits, htotal, minInclusive, -, maxInclusive, -, list, -, rfl⟩ := h
  refine ⟨unbound_option.mpr (Yields.reference.optional hbase), ?_⟩
  simp only [SimpleType.Sized, List.forall_mem_cons]
  exact ⟨(Yields.natBelow _).optional hmin, (Yields.natBelow _).optional hmax,
    (Yields.natBelow _).optional hfraction, (Yields.natBelow _).optional htotal,
    List.forall_mem_nil _⟩

theorem Enumeration.unbound_of_decode? {e : Enumeration} (h : Enumeration.decode? s = some e) :
    Unbound e := by
  simp only [Enumeration.decode?, Option.bind_eq_bind, Option.bind_eq_some_iff, Option.pure_def,
    Option.some.injEq] at h
  obtain ⟨isOpen, -, values, -, extension, hextension, rfl⟩ := h
  exact unbound_option.mpr (Yields.reference.optional hextension)

theorem ValueWithAttributes.storable_of_decode? {v : ValueWithAttributes}
    (h : ValueWithAttributes.decode? s = some v) : Unbound v ∧ v.content.Sized := by
  simp only [ValueWithAttributes.decode?, Option.bind_eq_bind, Option.bind_eq_some_iff,
    Option.pure_def, Option.some.injEq] at h
  obtain ⟨valueType, htype, content, hcontent, rfl⟩ := h
  obtain ⟨hunbound, hsize⟩ := FacetContent.storable_of_decodeFields? hcontent
  exact ⟨unbound_pair.mpr ⟨unbound_option.mpr (Yields.reference.optional htype), hunbound⟩, hsize⟩

theorem CoreObject.storable_of_decode? {o : CoreObject} (h : CoreObject.decode? s = some o) :
    Unbound o ∧ o.summary.Sized ∧ o.detail.Sized := by
  simp only [CoreObject.decode?, Option.bind_eq_bind, Option.bind_eq_some_iff, Option.pure_def,
    Option.some.injEq] at h
  obtain ⟨extension, hextension, simpleType, htype, summary, hsummary, detail, hdetail, roles, -,
    aliases, -, notExtendable, -, rfl⟩ := h
  obtain ⟨hsummary, hsummarySize⟩ := yields_content.withDefault FacetContent.storable_empty hsummary
  obtain ⟨hdetail, hdetailSize⟩ := yields_content.withDefault FacetContent.storable_empty hdetail
  refine ⟨unbound_pair.mpr ⟨unbound_option.mpr (Yields.reference.optional hextension),
    unbound_pair.mpr ⟨unbound_option.mpr (Yields.reference.optional htype), ?_⟩⟩,
    hsummarySize, hdetailSize⟩
  exact unbound_pair.mpr ⟨hsummary, hdetail⟩

theorem BusinessObject.storable_of_decode? {o : BusinessObject}
    (h : BusinessObject.decode? s = some o) :
    Unbound o ∧ o.id.Sized ∧ o.summary.Sized ∧ o.detail.Sized := by
  simp only [BusinessObject.decode?, Option.bind_eq_bind, Option.bind_eq_some_iff,
    Option.pure_def, Option.some.injEq] at h
  obtain ⟨extension, hextension, id, hid, summary, hsummary, detail, hdetail, aliases, -,
    notExtendable, -, rfl⟩ := h
  obtain ⟨hid, hidSize⟩ := yields_content.withDefault FacetContent.storable_empty hid
  obtain ⟨hsummary, hsummarySize⟩ := yields_content.withDefault FacetContent.storable_empty hsummary
  obtain ⟨hdetail, hdetailSize⟩ := yields_content.withDefault FacetContent.storable_empty hdetail
  refine ⟨unbound_pair.mpr ⟨unbound_option.mpr (Yields.reference.optional hextension), ?_⟩,
    hidSize, hsummarySize, hdetailSize⟩
  exact unbound_pair.mpr ⟨hid, unbound_pair.mpr ⟨hsummary, hdetail⟩⟩

theorem ChoiceObject.storable_of_decode? {o : ChoiceObject} (h : ChoiceObject.decode? s = some o) :
    Unbound o ∧ o.shared.Sized := by
  simp only [ChoiceObject.decode?, Option.bind_eq_bind, Option.bind_eq_some_iff, Option.pure_def,
    Option.some.injEq] at h
  obtain ⟨extension, hextension, shared, hshared, aliases, -, notExtendable, -, rfl⟩ := h
  obtain ⟨hshared, hsize⟩ := yields_content.withDefault FacetContent.storable_empty hshared
  exact ⟨unbound_pair.mpr ⟨unbound_option.mpr (Yields.reference.optional hextension), hshared⟩,
    hsize⟩

theorem ContextualFacet.storable_of_decode? {f : ContextualFacet}
    (h : ContextualFacet.decode? s = some f) : Unbound f ∧ f.content.Sized := by
  simp only [ContextualFacet.decode?, Option.bind_eq_bind, Option.bind_eq_some_iff,
    Option.pure_def, Option.some.injEq] at h
  obtain ⟨facetKind, -, facetName, -, owner, howner, context, -, content, hcontent, rfl⟩ := h
  obtain ⟨hunbound, hsize⟩ := FacetContent.storable_of_decodeFields? hcontent
  exact ⟨unbound_pair.mpr ⟨Yields.reference.required howner, hunbound⟩, hsize⟩

theorem ExtensionPointFacet.storable_of_decode? {f : ExtensionPointFacet}
    (h : ExtensionPointFacet.decode? s = some f) : Unbound f ∧ f.content.Sized := by
  simp only [ExtensionPointFacet.decode?, Option.bind_eq_bind, Option.bind_eq_some_iff,
    Option.pure_def, Option.some.injEq] at h
  obtain ⟨extended, hextended, content, hcontent, rfl⟩ := h
  obtain ⟨hunbound, hsize⟩ := FacetContent.storable_of_decodeFields? hcontent
  exact ⟨unbound_pair.mpr ⟨Yields.reference.required hextended, hunbound⟩, hsize⟩

theorem Resource.storable_of_decode? {r : Resource} (h : Resource.decode? s = some r) :
    Unbound r ∧ ∀ a ∈ r.actions, ∀ p ∈ a.responses, p.Sized := by
  simp only [Resource.decode?, Option.bind_eq_bind, Option.bind_eq_some_iff, Option.pure_def,
    Option.some.injEq] at h
  obtain ⟨businessObject, hobject, basePath, -, isAbstract, -, firstClass, -, parents, hparents,
    parameterGroups, hgroups, actions, hactions, rfl⟩ := h
  have haction := yields_action.withDefault_list hactions
  refine ⟨unbound_pair.mpr ⟨unbound_option.mpr (Yields.reference.optional hobject),
    unbound_pair.mpr ⟨unbound_list.mpr (yields_parentRef.withDefault_list hparents), ?_⟩⟩,
    fun a ha => (haction a ha).2⟩
  exact unbound_pair.mpr ⟨unbound_list.mpr (yields_parameterGroup.withDefault_list hgroups),
    unbound_list.mpr fun a ha => (haction a ha).1⟩

theorem Service.storable_of_decode? {x : Service} (h : Service.decode? s = some x) :
    Unbound x ∧ ∀ op ∈ x.operations, op.Sized := by
  simp only [Service.decode?, Option.bind_eq_bind, Option.bind_eq_some_iff, Option.pure_def,
    Option.some.injEq] at h
  obtain ⟨operations, hoperations, rfl⟩ := h
  have hoperation := yields_operation.withDefault_list hoperations
  exact ⟨unbound_list.mpr fun op hop => (hoperation op hop).1, fun op hop => (hoperation op hop).2⟩

/-- What is read as a body is unbound, and its numbers fit. -/
theorem EntityBody.storable_of_decode? {kind : EntityKind} {b : EntityBody}
    (h : EntityBody.decode? kind s = some b) : Unbound b ∧ b.Sized := by
  cases kind <;> obtain ⟨x, hx, rfl⟩ := Option.map_eq_some_iff.mp h
  case simpleType => exact SimpleType.storable_of_decode? hx
  case enumeration => exact ⟨Enumeration.unbound_of_decode? hx, trivial⟩
  case valueWithAttributes => exact ValueWithAttributes.storable_of_decode? hx
  case coreObject => exact CoreObject.storable_of_decode? hx
  case businessObject => exact BusinessObject.storable_of_decode? hx
  case choiceObject => exact ChoiceObject.storable_of_decode? hx
  case contextualFacet => exact ContextualFacet.storable_of_decode? hx
  case extensionPointFacet => exact ExtensionPointFacet.storable_of_decode? hx
  case resource => exact Resource.storable_of_decode? hx
  case service => exact Service.storable_of_decode? hx

theorem MemberDecl.storable_of_decode? {j : Json} {m : MemberDecl}
    (h : MemberDecl.decode? j = some m) : Unbound m.body ∧ m.body.Sized := by
  cases j with
  | obj fields =>
    obtain ⟨kind, -, hbody⟩ := Option.bind_eq_some_iff.mp (decodeWith?_eq_some.mp h).2.2
    exact EntityBody.storable_of_decode? hbody
  | _ => cases h

end

/-- A member is read back from its JSON form exactly if its references are not bound
and its numbers fit, as is so for each that is read at all. -/
theorem member_round_trip (m : MemberDecl) :
    MemberDecl.decode? m.encode = some m ↔
      (∀ r ∈ refs m.body, r.target = none) ∧ m.body.Sized :=
  ⟨MemberDecl.storable_of_decode?, fun h => MemberDecl.decode?_encode h.1 h.2⟩

end TravelModel
