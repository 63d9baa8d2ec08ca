import Mathlib.Data.List.Basic
import TravelModel.Library.Document

/-!
# TravelModel — reading members and documents

A list is read if all of its items are. A member is read from the fields of its
kind, besides its kind, its name and its documentation; what stands under any
other name is passed over. Here the fields of each kind and of a document are
listed with the shapes that grammars give them.

Main results:

* `forall_mem_of_mapM`, `mapM_flatMap` — what is read from a list, item by item.
* `EntityKind.shapes`, `frameShapes` — the fields of a kind and of a document,
  with their shapes.
* `EntityBody.decode?_congr`, `MemberDecl.decode?_congr`,
  `DocumentFrame.decode?_congr` — records that agree on these fields give the
  same body, member and frame, or none.
* `MemberDecl.decode?_eq`, `decodeOldMember?_eq` — the kind decides how the rest
  of a member is read.
* `InlineMember.decode?_eq_some`, `readDocument?_eq_some` — a member with inline
  facets and a document are read part by part.
-/

namespace TravelModel

/-! ## Lists -/

section

variable {α β γ δ : Type} {read : α → Option β} {items : List α} {xs : List β}

theorem mapM_cons_eq_some {i : α} :
    (i :: items).mapM read = some xs ↔
      ∃ x ys, read i = some x ∧ items.mapM read = some ys ∧ xs = x :: ys := by
  rw [List.mapM_cons]
  cases read i <;> cases items.mapM read <;> simp [eq_comm]

/-- What holds of each item that is read holds of all. -/
theorem forall_mem_of_mapM {p : β → Prop} (h : items.mapM read = some xs)
    (hitem : ∀ i ∈ items, ∀ x, read i = some x → p x) : ∀ x ∈ xs, p x := by
  induction items generalizing xs with
  | nil =>
    rw [List.mapM_nil, Option.pure_def, Option.some.injEq] at h
    simp [← h]
  | cons i rest ih =>
    rw [List.forall_mem_cons] at hitem
    obtain ⟨x, ys, hx, hys, rfl⟩ := mapM_cons_eq_some.mp h
    exact List.forall_mem_cons.mpr ⟨hitem.1 x hx, ih hys hitem.2⟩

/-- If each item gives way to some that are read as what it stands for, so does the
list. -/
theorem mapM_flatMap {read' : γ → Option δ} {f : α → List γ} {g : β → List δ}
    (h : items.mapM read = some xs)
    (hitem : ∀ i ∈ items, ∀ x, read i = some x → (f i).mapM read' = some (g x)) :
    (items.flatMap f).mapM read' = some (xs.flatMap g) := by
  induction items generalizing xs with
  | nil =>
    rw [List.mapM_nil, Option.pure_def, Option.some.injEq] at h
    simp [← h]
  | cons i rest ih =>
    rw [List.forall_mem_cons] at hitem
    obtain ⟨x, ys, hx, hys, rfl⟩ := mapM_cons_eq_some.mp h
    rw [List.flatMap_cons, List.flatMap_cons, List.mapM_append, hitem.1 x hx, ih hys hitem.2]
    rfl

/-- If each item gives way to one that is read as what it stands for, so does the
list. -/
theorem mapM_map_of_read {read' : γ → Option δ} {f : α → γ} {g : β → δ}
    (h : items.mapM read = some xs)
    (hitem : ∀ i ∈ items, ∀ x, read i = some x → read' (f i) = some (g x)) :
    (items.map f).mapM read' = some (xs.map g) := by
  rw [List.map_eq_flatMap, List.map_eq_flatMap]
  refine mapM_flatMap h fun i hi x hx => ?_
  rw [List.mapM_cons, hitem i hi x hx]
  rfl

end

open Grammar

/-! ## Fields by kind -/

namespace EntityKind

/-- The fields that a member of a kind is read from, with their shapes. -/
def shapes : EntityKind → List (String × Shape)
  | simpleType =>
    [ ("base", typeNameShape), ("pattern", textShape), ("minLength", atLeast 0),
      ("maxLength", atLeast 0), ("fractionDigits", atLeast 0), ("totalDigits", atLeast 1),
      ("minInclusive", textShape), ("maxInclusive", textShape), ("list", .boolean) ]
  | enumeration =>
    [("open", .boolean), ("values", .list enumValueShape), ("extension", typeNameShape)]
  | valueWithAttributes => ("valueType", typeNameShape) :: contentShapes
  | coreObject =>
    [ ("extension", typeNameShape), ("simpleType", typeNameShape), ("summary", facetShape),
      ("detail", facetShape), ("roles", .list nameShape), ("aliases", .list nameShape),
      ("notExtendable", .boolean) ]
  | businessObject =>
    [ ("extension", typeNameShape), ("id", facetShape), ("summary", facetShape),
      ("detail", facetShape), ("aliases", .list nameShape), ("notExtendable", .boolean) ]
  | choiceObject =>
    [ ("extension", typeNameShape), ("shared", facetShape), ("aliases", .list nameShape),
      ("notExtendable", .boolean) ]
  | contextualFacet =>
    ("facetKind", .oneOf ["custom", "query", "update", "choice"]) :: ("facetName", nameShape) ::
      ("owner", typeNameShape) :: ("context", filledShape) :: contentShapes
  | extensionPointFacet => ("extends", typeNameShape) :: contentShapes
  | resource =>
    [ ("businessObject", typeNameShape), ("basePath", textShape), ("abstract", .boolean),
      ("firstClass", .boolean), ("parents", .list parentShape),
      ("parameterGroups", .list parameterGroupShape), ("actions", .list actionShape) ]
  | service => [("operations", .list operationShape)]

/-- The names of the fields of a kind. -/
def fieldNames (kind : EntityKind) : List String :=
  kind.shapes.map Prod.fst

/-- The names of the fields that members of all kinds have. -/
def sharedNames : List String :=
  ["kind", "name", "documentation"]

theorem notMem_sharedNames {kind : EntityKind} {name : String} (h : name ∈ kind.fieldNames) :
    name ∉ sharedNames := by
  revert name
  cases kind <;> decide

theorem ofName?_name (kind : EntityKind) : ofName? kind.name = some kind := by
  cases kind <;> decide

end EntityKind

/-! ## Fields of documents -/

/-- The fields of a header. -/
def headerShapes : List (String × Shape) :=
  [ ("name", nameShape), ("namespace", .text .namespaceUri), ("prefix", nameShape),
    ("version", .text .versionNumber),
    ("status", .oneOf ["draft", "underReview", "final", "obsolete"]), ("documentation", textShape) ]

/-- The fields of a document besides its members. -/
def frameShapes (withContexts : Bool) : List (String × Shape) :=
  headerShapes ++ ("imports", .list importShape) :: ("includes", .list filledShape) ::
    if withContexts then [("contexts", .list contextShape)] else []

/-! ## What is read depends on these fields -/

section

variable {fields fields' : Keyed Json}

namespace RecordSource

-- a field of an object is read alike wherever it stands, and under whatever name

variable {α : Type} {read : Json → Option α} {place place' : Nat} {name name' : String}

theorem required_congr (h : Keyed.find? name fields = Keyed.find? name' fields') :
    (named fields).required place name read = (named fields').required place' name' read := by
  rw [required, get?, h, required, get?]

theorem withDefault_congr {d : α} (h : Keyed.find? name fields = Keyed.find? name' fields') :
    (named fields).withDefault place name read d =
      (named fields').withDefault place' name' read d := by
  rw [withDefault, get?, h, withDefault, get?]

theorem optional_congr (h : Keyed.find? name fields = Keyed.find? name' fields') :
    (named fields).optional place name read = (named fields').optional place' name' read := by
  rw [optional, get?, h, optional, get?]

end RecordSource

theorem FacetContent.decodeFields?_congr
    (h : ∀ name ∈ contentShapes.map Prod.fst, Keyed.find? name fields = Keyed.find? name fields') :
    FacetContent.decodeFields? (.named fields) = FacetContent.decodeFields? (.named fields') := by
  simp only [contentShapes, List.map_cons, List.map_nil, List.forall_mem_cons] at h
  obtain ⟨hattributes, helements, hindicators, -⟩ := h
  simp only [FacetContent.decodeFields?, RecordSource.withDefault, RecordSource.get?, hattributes,
    helements, hindicators]

/-- Records that agree on the fields of a kind give the same body, or none. -/
theorem EntityBody.decode?_congr {kind : EntityKind}
    (h : ∀ name ∈ kind.fieldNames, Keyed.find? name fields = Keyed.find? name fields') :
    EntityBody.decode? kind (.named fields) = EntityBody.decode? kind (.named fields') := by
  -- one equation for each field of the kind, which is all that its reader asks for
  cases kind <;>
    simp only [EntityKind.fieldNames, EntityKind.shapes, contentShapes, List.map_cons,
      List.map_nil, List.forall_mem_cons] at h <;>
    simp only [EntityBody.decode?, SimpleType.decode?, Enumeration.decode?,
      ValueWithAttributes.decode?, CoreObject.decode?, BusinessObject.decode?,
      ChoiceObject.decode?, ContextualFacet.decode?, ExtensionPointFacet.decode?,
      Resource.decode?, Service.decode?, FacetContent.decodeFields?, RecordSource.required,
      RecordSource.optional, RecordSource.withDefault, RecordSource.get?, h]

/-- Records that agree on the kind, the name, the documentation and the fields of
the kind give the same member, or none. -/
theorem MemberDecl.decode?_congr
    (hshared : ∀ name ∈ EntityKind.sharedNames,
      Keyed.find? name fields = Keyed.find? name fields')
    (h : ∀ kind : EntityKind, ∀ name ∈ kind.fieldNames,
      Keyed.find? name fields = Keyed.find? name fields') :
    MemberDecl.decode? (.obj fields) = MemberDecl.decode? (.obj fields') := by
  simp only [EntityKind.sharedNames, List.forall_mem_cons] at hshared
  obtain ⟨hkind, hname, hdocumentation, -⟩ := hshared
  have hbody := fun kind => EntityBody.decode?_congr (h kind)
  simp only [MemberDecl.decode?, MemberDecl.decodeWith?, RecordSource.object?,
    RecordSource.required, RecordSource.optional, RecordSource.withDefault, RecordSource.get?,
    hkind, hname, hdocumentation, Option.bind_eq_bind, Option.bind_some, hbody]

/-- Documents that agree on the fields around their members have the same frame,
or none. -/
theorem DocumentFrame.decode?_congr {withContexts : Bool}
    (h : ∀ name ∈ (frameShapes withContexts).map Prod.fst,
      Keyed.find? name fields = Keyed.find? name fields') :
    DocumentFrame.decode? (.named fields) withContexts =
      DocumentFrame.decode? (.named fields') withContexts := by
  cases withContexts <;>
    simp only [frameShapes, headerShapes, List.cons_append, List.nil_append, List.map_cons,
      List.map_nil, List.forall_mem_cons, if_true, Bool.false_eq_true, if_false] at h <;>
    simp only [DocumentFrame.decode?, LibraryHeader.decode?, RecordSource.required,
      RecordSource.optional, RecordSource.withDefault, RecordSource.get?, h, Bool.false_eq_true,
      if_false]

/-- Without contexts it makes no difference whether they are read. -/
theorem DocumentFrame.decode?_of_no_contexts (h : Keyed.find? "contexts" fields = none) :
    DocumentFrame.decode? (.named fields) true = DocumentFrame.decode? (.named fields) false := by
  simp only [DocumentFrame.decode?, if_true, Bool.false_eq_true, if_false,
    RecordSource.withDefault, RecordSource.get?, h]

end

/-! ## What has been read -/

theorem ContextualKind.ofName?_name (kind : ContextualKind) :
    ContextualKind.ofName? kind.name = some kind := by
  cases kind <;> decide

theorem EntityBody.kind_of_decode? {kind : EntityKind} {s : RecordSource} {b : EntityBody}
    (h : EntityBody.decode? kind s = some b) : b.kind = kind := by
  cases kind <;>
    · obtain ⟨_, -, rfl⟩ := Option.map_eq_some_iff.mp h
      rfl

/-- A member is its name, its documentation and its body, read one by one. -/
theorem MemberDecl.decodeWith?_eq_some {body? : RecordSource → Option EntityBody}
    {fields : Keyed Json} {m : MemberDecl} :
    MemberDecl.decodeWith? body? (.obj fields) = some m ↔
      (RecordSource.named fields).withDefault 0 "name" Json.text? "" = some m.name ∧
      (RecordSource.named fields).optional 1 "documentation" Json.text? = some m.documentation ∧
      body? (.named fields) = some m.body := by
  obtain ⟨name, documentation, body⟩ := m
  simp only [MemberDecl.decodeWith?, RecordSource.object?, Option.bind_eq_bind, Option.bind_some,
    Option.bind_eq_some_iff, Option.pure_def, Option.some.injEq, MemberDecl.mk.injEq]
  constructor
  · rintro ⟨_, hname, _, hdocumentation, _, hbody, rfl, rfl, rfl⟩
    exact ⟨hname, hdocumentation, hbody⟩
  · rintro ⟨hname, hdocumentation, hbody⟩
    exact ⟨_, hname, _, hdocumentation, _, hbody, rfl, rfl, rfl⟩

/-- A member whose fields name a kind is read as one of that kind. -/
theorem MemberDecl.decode?_eq {fields : Keyed Json} {kind : EntityKind}
    (hkind : Keyed.find? "kind" fields = some (.str kind.name)) :
    MemberDecl.decode? (.obj fields) =
      MemberDecl.decodeWith? (EntityBody.decode? kind) (.obj fields) := by
  have hread : (RecordSource.named fields).required 0 "kind"
      (EntityKind.decode? EntityKind.all EntityKind.ofName?) = some kind := by
    rw [RecordSource.required, RecordSource.get?, hkind]
    exact kind.ofName?_name
  simp only [MemberDecl.decode?, MemberDecl.decodeWith?, RecordSource.object?, Option.bind_eq_bind,
    Option.bind_some, hread]

/-- Reads the body of a member of version 1.4. -/
def oldBody? (kind : EntityKind) (s : RecordSource) : Option EntityBody :=
  if kind = .enumeration then (Enumeration.decodeLiterals? s).map .enumeration
  else EntityBody.decode? kind s

/-- The same for version 1.4. -/
theorem decodeOldMember?_eq {fields : Keyed Json} {kind : EntityKind} (h : kind ∈ oldKinds)
    (hkind : Keyed.find? "kind" fields = some (.str (oldKindName kind))) :
    decodeOldMember? (.obj fields) = MemberDecl.decodeWith? (oldBody? kind) (.obj fields) := by
  have hname : (oldKinds.find? fun k => oldKindName k = oldKindName kind) = some kind := by
    revert h
    cases kind <;> decide
  have hread : (RecordSource.named fields).required 0 "kind"
      (EntityKind.decode? oldKinds fun n => oldKinds.find? fun k => oldKindName k = n) =
        some kind := by
    rw [RecordSource.required, RecordSource.get?, hkind]
    exact hname
  simp only [decodeOldMember?, MemberDecl.decodeWith?, RecordSource.object?, Option.bind_eq_bind,
    Option.bind_some, hread, oldBody?]

/-- The name of a member stands in its fields; a member without one has the empty
name. -/
theorem name_of_decode? {fields : Keyed Json} {m : MemberDecl}
    (h : MemberDecl.decode? (.obj fields) = some m) :
    ((Json.obj fields).textField? "name").getD "" = m.name := by
  have hname := (MemberDecl.decodeWith?_eq_some.mp h).1
  rw [RecordSource.withDefault, RecordSource.get?] at hname
  rw [Json.textField?, Json.field?]
  cases hfound : Keyed.find? "name" fields with
  | none =>
    rw [hfound] at hname
    exact Option.some.inj hname
  | some j =>
    rw [hfound] at hname
    have htext : j.text? = some m.name := hname
    rw [Option.bind_some, htext, Option.getD_some]

/-- A contextual facet is read field by field. -/
theorem ContextualFacet.decode?_eq_some {fields : Keyed Json} {f : ContextualFacet} :
    ContextualFacet.decode? (.named fields) = some f ↔
      (RecordSource.named fields).required 0 "facetKind" (Json.choice? ContextualKind.ofName?) =
        some f.facetKind ∧
      (RecordSource.named fields).required 1 "facetName" Json.text? = some f.facetName ∧
      (RecordSource.named fields).required 2 "owner" Reference.decode? = some f.owner ∧
      (RecordSource.named fields).optional 3 "context" Json.text? = some f.context ∧
      FacetContent.decodeFields? (.named fields) = some f.content := by
  obtain ⟨facetKind, facetName, owner, context, content⟩ := f
  simp only [ContextualFacet.decode?, Option.bind_eq_bind, Option.bind_eq_some_iff,
    Option.pure_def, Option.some.injEq, ContextualFacet.mk.injEq]
  constructor
  · rintro ⟨_, hkind, _, hname, _, howner, _, hcontext, _, hcontent, rfl, rfl, rfl, rfl, rfl⟩
    exact ⟨hkind, hname, howner, hcontext, hcontent⟩
  · rintro ⟨hkind, hname, howner, hcontext, hcontent⟩
    exact ⟨_, hkind, _, hname, _, howner, _, hcontext, _, hcontent, rfl, rfl, rfl, rfl, rfl⟩

/-- So is an inline facet. -/
theorem InlineFacet.decode?_eq_some {fields : Keyed Json} {f : InlineFacet} :
    InlineFacet.decode? (.obj fields) = some f ↔
      (RecordSource.named fields).required 0 "name" Json.text? = some f.name ∧
      (RecordSource.named fields).optional 1 "context" Json.text? = some f.context ∧
      (RecordSource.named fields).optional 2 "documentation" Json.text? = some f.documentation ∧
      FacetContent.decodeFields? (.named fields) = some f.content := by
  obtain ⟨name, context, documentation, content⟩ := f
  simp only [InlineFacet.decode?, RecordSource.object?, Option.bind_eq_bind, Option.bind_some,
    Option.bind_eq_some_iff, Option.pure_def, Option.some.injEq, InlineFacet.mk.injEq]
  constructor
  · rintro ⟨_, hname, _, hcontext, _, hdocumentation, _, hcontent, rfl, rfl, rfl, rfl⟩
    exact ⟨hname, hcontext, hdocumentation, hcontent⟩
  · rintro ⟨hname, hcontext, hdocumentation, hcontent⟩
    exact ⟨_, hname, _, hcontext, _, hdocumentation, _, hcontent, rfl, rfl, rfl, rfl⟩

/-- A member with inline facets is the member and the facets, read one by one. -/
theorem InlineMember.decode?_eq_some {fields : Keyed Json} {m : InlineMember} :
    InlineMember.decode? (.obj fields) = some m ↔
      MemberDecl.decode? (.obj fields) = some m.decl ∧
        (ContextualKind.all.mapM fun k => do
          let fs ← (RecordSource.named fields).withDefault 0 k.inlineField
            (Json.list? InlineFacet.decode?) []
          return (k, fs)) = some m.facets := by
  obtain ⟨decl, facets⟩ := m
  simp only [InlineMember.decode?, RecordSource.object?, Option.bind_eq_bind, Option.bind_some,
    Option.bind_eq_some_iff, Option.pure_def, Option.some.injEq, InlineMember.mk.injEq]
  constructor
  · rintro ⟨_, hfacets, _, hdecl, rfl, rfl⟩
    exact ⟨hdecl, hfacets⟩
  · rintro ⟨hdecl, hfacets⟩
    exact ⟨_, hfacets, _, hdecl, rfl, rfl⟩

/-- A document is its frame and its members, read one by one. -/
theorem readDocument?_eq_some {α : Type} {withContexts : Bool} {member? : Json → Option α}
    {fields : Keyed Json} {frame : DocumentFrame} {members : List α} :
    readDocument? withContexts member? (.obj fields) = some (frame, members) ↔
      DocumentFrame.decode? (.named fields) withContexts = some frame ∧
        ∃ items, Keyed.find? "members" fields = some (.arr items) ∧
          items.mapM member? = some members := by
  simp only [readDocument?, RecordSource.object?, Option.bind_eq_bind, Option.bind_some,
    Option.bind_eq_some_iff, Option.pure_def, Option.some.injEq, Prod.mk.injEq,
    RecordSource.required, RecordSource.get?]
  constructor
  · rintro ⟨_, hframe, _, ⟨j, hj, hmembers⟩, rfl, rfl⟩
    refine ⟨hframe, ?_⟩
    cases j with
    | arr items => exact ⟨items, hj, hmembers⟩
    | _ => cases hmembers
  · rintro ⟨hframe, items, hitems, hmembers⟩
    exact ⟨_, hframe, _, ⟨_, hitems, hmembers⟩, rfl, rfl⟩

/-- Without contexts it makes no difference whether they are read. -/
theorem readDocument?_of_no_contexts {α : Type} {member? : Json → Option α} {document : Json}
    (h : document.field? "contexts" = none) :
    readDocument? true member? document = readDocument? false member? document := by
  cases document with
  | obj fields =>
    simp only [readDocument?, RecordSource.object?, Option.bind_eq_bind, Option.bind_some,
      DocumentFrame.decode?_of_no_contexts h]
  | _ => rfl

/-- A module with inline facets is made of the parts of its document. -/
theorem exists_of_readInline {url : Url} {document : Json} {m : LibraryModule}
    (h : readInline url document = .ok m) :
    ∃ frame members, readDocument? true InlineMember.decode? document = some (frame, members) ∧
      m = frame.toModule url .v1_5 (members.flatMap InlineMember.expand) := by
  rw [readInline] at h
  split at h
  · cases h
  · split at h
    · cases h
    · exact ⟨_, _, ‹_›, (Except.ok.inj h).symm⟩

end TravelModel
