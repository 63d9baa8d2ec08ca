import TravelModel.Proofs.GrammarTags
import TravelModel.Proofs.Keyed
import TravelModel.Proofs.Reading

/-!
# TravelModel — documents of older grammars

A document of an older grammar can be written for the current one. Here this is
done on the JSON values, member by member, without reading them: inline facets
become members with an owner, enumerations of literals become ones of values. The
current grammar then reads what the older one read.

Main results:

* `mapM_standaloneMembers` — a member without its inline facets and the facets as
  members are read as what the member stands for.
* `decode?_currentMember` — a member of version 1.4 is read the same once its kind
  and its literals are written anew.
* `inline_document_rewritten`, `old_document_rewritten` — so are whole documents,
  and the models they assemble to differ in grammar tags at most.
-/

namespace TravelModel

open Grammar

/-! ## Rewriting objects -/

namespace Json

/-- Fields without some of them and with entries put in. -/
def rewriteFields (dropped : List String) (entries : List (String × Json)) (fields : Keyed Json) :
    Keyed Json :=
  Keyed.insertAll (fields.filter fun f => f.1 ∉ dropped) entries

/-- An object with its fields rewritten; other values stay as they are. -/
def rewrite (dropped : List String) (entries : List (String × Json)) : Json → Json
  | .obj fields => .obj (rewriteFields dropped entries fields)
  | j => j

/-- The items of the list under a name. -/
def itemsUnder (j : Json) (name : String) : List Json :=
  ((j.field? name).bind items?).getD []

/-- What a function makes of the value under a name, as an entry under another. -/
def copyEntry (j : Json) (name target : String) (f : Json → Json := id) : List (String × Json) :=
  ((j.field? name).map fun v => (target, f v)).toList

theorem find?_rewriteFields (name : String) (dropped : List String)
    (entries : List (String × Json)) (fields : Keyed Json) :
    Keyed.find? name (rewriteFields dropped entries fields) =
      (Keyed.find? name (Keyed.ofList entries)).or
        (if name ∈ dropped then none else Keyed.find? name fields) := by
  rw [rewriteFields, Keyed.find?_insertAll, Keyed.find?_filter_notMem]

/-- A list that may be left out is read item by item. -/
theorem mapM_itemsUnder {α : Type} {read : Json → Option α} {fields : Keyed Json} {place : Nat}
    {name : String} {xs : List α}
    (h : (RecordSource.named fields).withDefault place name (list? read) [] = some xs) :
    ((obj fields).itemsUnder name).mapM read = some xs := by
  rw [RecordSource.withDefault, RecordSource.get?] at h
  rw [itemsUnder, field?]
  cases hfound : Keyed.find? name fields with
  | none =>
    rw [hfound] at h
    exact h
  | some j =>
    rw [hfound] at h
    cases j with
    | arr items => exact h
    | _ => cases h

theorem find?_ofList_copyEntry (k : String) (j : Json) (name target : String) (f : Json → Json) :
    Keyed.find? k (Keyed.ofList (j.copyEntry name target f)) =
      if k = target then (j.field? name).map f else none :=
  Keyed.find?_ofList_toList k target (j.field? name) f

theorem find?_ofList_copyEntries (k : String) (j : Json) (names : List String) :
    Keyed.find? k (Keyed.ofList (names.flatMap fun name => j.copyEntry name name)) =
      if k ∈ names then j.field? k else none := by
  induction names with
  | nil => rfl
  | cons name rest ih =>
    rw [List.flatMap_cons, Keyed.find?_ofList_append, ih, find?_ofList_copyEntry,
      Option.map_id_fun, id]
    by_cases hk : k = name
    · subst hk
      by_cases hrest : k ∈ rest <;> simp [hrest]
    · simp [hk]

end Json

/-! ## Inline facets as members -/

/-- The fields that an inline facet keeps as a member of its own. -/
def keptFields : List String :=
  ["context", "documentation", "attributes", "elements", "indicators"]

/-- The fields of an inline facet as a member with an owner. -/
def standaloneFields (kind : ContextualKind) (owner : String) (facet : Json) : Keyed Json :=
  .ofList <|
    [("kind", .str EntityKind.contextualFacet.name), ("facetKind", .str kind.name),
      ("owner", .str owner)] ++
      facet.copyEntry "name" "facetName" ++ keptFields.flatMap fun f => facet.copyEntry f f

/-- An inline facet, written as a member with an owner. -/
def standaloneFacet (kind : ContextualKind) (owner : String) (facet : Json) : Json :=
  .obj (standaloneFields kind owner facet)

/-- A member without its inline facets, and after it each of these as a member. -/
def standaloneMembers (member : Json) : List Json :=
  member.rewrite (ContextualKind.all.map ContextualKind.inlineField) [] ::
    ContextualKind.all.flatMap fun kind =>
      (member.itemsUnder kind.inlineField).map
        (standaloneFacet kind ((member.textField? "name").getD ""))

/-- A document with inline facets, written with facets on their own. -/
def standaloneDocument (document : Json) : Json :=
  match document.field? "members" with
  | some (.arr items) =>
    document.rewrite [] [("members", .arr (items.flatMap standaloneMembers))]
  | _ => document

/-- What a facet on its own has under a name. -/
theorem find?_standaloneFields (name : String) (kind : ContextualKind) (owner : String)
    (facet : Json) :
    Keyed.find? name (standaloneFields kind owner facet) =
      (if name ∈ keptFields then facet.field? name else none).or
        ((if name = "facetName" then facet.field? "name" else none).or
          (Keyed.find? name (.ofList
            [("kind", .str EntityKind.contextualFacet.name), ("facetKind", .str kind.name),
              ("owner", .str owner)]))) := by
  rw [standaloneFields, Keyed.find?_ofList_append, Keyed.find?_ofList_append,
    Json.find?_ofList_copyEntries, Json.find?_ofList_copyEntry, Option.map_id_fun, id]

section

variable {fields : Keyed Json} {f : InlineFacet} (kind : ContextualKind) (owner : String)

/-- The fields that are kept are the same for a facet on its own. -/
theorem find?_keptField {name : String} (h : name ∈ keptFields) :
    Keyed.find? name (standaloneFields kind owner (.obj fields)) = Keyed.find? name fields := by
  revert h name
  simp [find?_standaloneFields, keptFields, Json.field?]

/-- A facet on its own has the body that its inline form stands for. -/
theorem decode?_standaloneFields (h : InlineFacet.decode? (.obj fields) = some f) :
    ContextualFacet.decode? (.named (standaloneFields kind owner (.obj fields))) =
      some { facetKind := kind, facetName := f.name, owner := .unbound owner,
             context := f.context, content := f.content } := by
  obtain ⟨hname, hcontext, -, hcontent⟩ := InlineFacet.decode?_eq_some.mp h
  rw [ContextualFacet.decode?_eq_some]
  refine ⟨?_, ?_, ?_, ?_, ?_⟩
  · simp [RecordSource.required, RecordSource.get?, find?_standaloneFields, keptFields,
      Json.choice?, kind.ofName?_name]
  · -- the name has moved to another field, where it is read in the same way
    rw [← hname]
    refine RecordSource.required_congr ?_
    simp [find?_standaloneFields, keptFields, Json.field?]
  · simp [RecordSource.required, RecordSource.get?, find?_standaloneFields, keptFields,
      Reference.decode?, Json.text?]
  · exact (RecordSource.optional_congr (find?_keptField kind owner (by decide))).trans hcontext
  · rw [← hcontent]
    refine FacetContent.decodeFields?_congr fun name hname => find?_keptField kind owner ?_
    revert name
    decide

theorem decode?_standaloneFacet {facet : Json} (h : InlineFacet.decode? facet = some f) :
    MemberDecl.decode? (standaloneFacet kind owner facet) = some (f.toMember kind owner) := by
  cases facet with
  | obj fields =>
    have hfield := fun name => find?_standaloneFields name kind owner (.obj fields)
    have hkind : Keyed.find? "kind" (standaloneFields kind owner (.obj fields)) =
        some (.str EntityKind.contextualFacet.name) := by
      simp [hfield, keptFields]
    rw [standaloneFacet, MemberDecl.decode?_eq hkind, MemberDecl.decodeWith?_eq_some]
    refine ⟨?_, ?_, ?_⟩
    · -- a facet on its own has no name of its own
      simp [RecordSource.withDefault, RecordSource.get?, hfield, keptFields, InlineFacet.toMember]
    · exact (RecordSource.optional_congr (find?_keptField kind owner (by decide))).trans
        (InlineFacet.decode?_eq_some.mp h).2.2.1
    · rw [EntityBody.decode?, decode?_standaloneFields kind owner h]
      rfl
  | _ => cases h

end

/-- The names under which a member holds its inline facets are not read otherwise. -/
theorem decode?_withoutInline (fields : Keyed Json) :
    MemberDecl.decode?
      ((Json.obj fields).rewrite (ContextualKind.all.map ContextualKind.inlineField) []) =
        MemberDecl.decode? (.obj fields) := by
  have hother : ∀ name ∉ ContextualKind.all.map ContextualKind.inlineField,
      Keyed.find? name (Json.rewriteFields
        (ContextualKind.all.map ContextualKind.inlineField) [] fields) =
          Keyed.find? name fields := by
    intro name hname
    rw [Json.find?_rewriteFields, if_neg hname, Keyed.find?_ofList_nil, Option.none_or]
  refine MemberDecl.decode?_congr (fun name hname => hother name ?_)
    fun kind name hname => hother name ?_
  · revert name
    decide
  · revert name
    cases kind <;> decide

/-- The inline facets of a kind, each on its own. -/
theorem mapM_standaloneFacet {fields : Keyed Json} {kind : ContextualKind} {fs : List InlineFacet}
    (owner : String)
    (h : (RecordSource.named fields).withDefault 0 kind.inlineField
      (Json.list? InlineFacet.decode?) [] = some fs) :
    (((Json.obj fields).itemsUnder kind.inlineField).map (standaloneFacet kind owner)).mapM
      MemberDecl.decode? = some (fs.map fun f => f.toMember kind owner) :=
  mapM_map_of_read (Json.mapM_itemsUnder h) fun _ _ _ hf => decode?_standaloneFacet kind owner hf

/-- What a member with inline facets stands for is what it is written as without
them. -/
theorem mapM_standaloneMembers {member : Json} {m : InlineMember}
    (h : InlineMember.decode? member = some m) :
    (standaloneMembers member).mapM MemberDecl.decode? = some m.expand := by
  cases member with
  | obj fields =>
    obtain ⟨hdecl, hfacets⟩ := InlineMember.decode?_eq_some.mp h
    rw [standaloneMembers, InlineMember.expand, mapM_cons_eq_some]
    refine ⟨m.decl, _, (decode?_withoutInline fields).trans hdecl, ?_, rfl⟩
    -- the owner is named as the member is read, and the kinds come in the same order
    rw [name_of_decode? hdecl]
    refine mapM_flatMap hfacets fun kind _ x hx => ?_
    obtain ⟨fs, hfs, hpair⟩ := Option.bind_eq_some_iff.mp hx
    obtain rfl := Option.some.inj hpair
    exact mapM_standaloneFacet m.decl.name hfs
  | _ => cases h

/-- A document with other members is read with the frame it had, if what is dropped
is not read. -/
theorem readDocument?_rewrite {α : Type} {withContexts : Bool} {member? : Json → Option α}
    {fields : Keyed Json} {frame : DocumentFrame} {members : List α} {dropped : List String}
    {items : List Json}
    (hdropped : ∀ name ∈ (frameShapes withContexts).map Prod.fst, name ∉ dropped)
    (hframe : DocumentFrame.decode? (.named fields) withContexts = some frame)
    (hmembers : items.mapM member? = some members) :
    readDocument? withContexts member?
      ((Json.obj fields).rewrite dropped [("members", .arr items)]) = some (frame, members) := by
  rw [Json.rewrite, readDocument?_eq_some]
  refine ⟨?_, items, ?_, hmembers⟩
  · rw [← hframe]
    refine DocumentFrame.decode?_congr fun name hname => ?_
    -- the members are no part of the frame
    have hmember : name ≠ "members" := by
      rintro rfl
      revert hname
      cases withContexts <;> decide
    rw [Json.find?_rewriteFields, Keyed.find?_ofList_cons, if_neg hmember,
      if_neg (hdropped name hname)]
    rfl
  · rw [Json.find?_rewriteFields, Keyed.find?_ofList_cons, if_pos rfl]
    rfl

theorem readCurrent?_standaloneDocument {url : Url} {document : Json} {m : LibraryModule}
    (h : readInline url document = .ok m) :
    readCurrent? url (standaloneDocument document) = some { m with grammar := .v1_6 } := by
  obtain ⟨frame, members, hread, rfl⟩ := exists_of_readInline h
  cases document with
  | obj fields =>
    obtain ⟨hframe, items, hitems, hmembers⟩ := readDocument?_eq_some.mp hread
    have hstandalone := mapM_flatMap hmembers fun item _ m hm => mapM_standaloneMembers hm
    rw [standaloneDocument, Json.field?, hitems, readCurrent?,
      readDocument?_rewrite (by decide) hframe hstandalone]
    rfl
  | _ => cases hread

/-- A document with inline facets, written with facets on their own, is read by the
current grammar as the module that it was, and whatever libraries stand around it, the
models that the two modules assemble to differ in grammar tags at most. -/
theorem inline_document_rewritten {url : Url} {document : Json} {m : LibraryModule}
    (h : readInline url document = .ok m) :
    readCurrent? url (standaloneDocument document) = some { m with grammar := .v1_6 } ∧
    ∀ before after builtIns : List LibraryModule,
      let rewritten := Model.assemble (before ++ { m with grammar := .v1_6 } :: after) builtIns
      let original := Model.assemble (before ++ m :: after) builtIns
      rewritten.1.untagged = original.1.untagged ∧ rewritten.2 = original.2 := by
  refine ⟨readCurrent?_standaloneDocument h, fun before after builtIns => ?_⟩
  refine Model.assemble_congr builtIns ?_
  -- the two lists of modules differ in one tag
  exact List.rel_append (List.forall₂_refl _)
    (.cons ⟨m.grammar, rfl⟩ (List.forall₂_refl _))

/-- A library whose business object has facets of two kinds and whose extension point,
which has no name, has one as well. -/
def orderDocument : Json :=
  .object
    [ ("name", .str "Orders"), ("namespace", .str "urn:orders"),
      ("members", .arr
        [ .object
            [ ("kind", .str "businessObject"), ("name", .str "Order"),
              ("queryFacets", .arr
                [ .object [("name", .str "ByDate"), ("context", .str "shop")],
                  .object [("name", .str "ByItem"), ("elements", .arr [])] ]),
              ("customFacets", .arr [.object [("name", .str "Gift"), ("documentation", .null)]]) ],
          .object
            [ ("kind", .str "extensionPointFacet"), ("extends", .str "Order"),
              ("choiceFacets", .arr [.object [("name", .str "Paid")]]) ] ]) ]

/-- Where the library is kept. -/
def orderUrl : Url :=
  { scheme := "file", authority := none, path := .rooted ["Orders.otm"], query := none
    fragment := none }

/-- The facets of the sample follow their owners by kind, and the rewritten document
has the same members. -/
theorem orderDocument_rewritten :
    ∃ m, readInline orderUrl orderDocument = .ok m ∧
      m.members.map MemberDecl.entityName =
        ["Order", "Order_Custom_Gift", "Order_Query_ByDate", "Order_Query_ByItem",
          "ExtensionPoint_Order", "_Choice_Paid"] ∧
      readCurrent? orderUrl (standaloneDocument orderDocument) =
        some { m with grammar := .v1_6 } := by
  have htest : (readInline orderUrl orderDocument).toOption.any (fun m =>
      m.members.map MemberDecl.entityName =
        ["Order", "Order_Custom_Gift", "Order_Query_ByDate", "Order_Query_ByItem",
          "ExtensionPoint_Order", "_Choice_Paid"]) = true := by
    decide +kernel
  cases hread : readInline orderUrl orderDocument with
  | error e =>
    rw [hread] at htest
    cases htest
  | ok m =>
    rw [hread] at htest
    exact ⟨m, rfl, of_decide_eq_true htest, (inline_document_rewritten hread).1⟩

/-! ## Version 1.4 -/

/-- A literal as a value of an enumeration. -/
def literalValue (literal : Json) : Json :=
  .object [("literal", literal)]

/-- A list of literals as one of values; other values stay as they are. -/
def literalValues : Json → Json
  | .arr items => .arr (items.map literalValue)
  | j => j

/-- An enumeration of literals, written as one of values. -/
def currentEnumeration (member : Json) : Json :=
  member.rewrite ["extensible", "open"]
    (member.copyEntry "extensible" "open" ++ member.copyEntry "values" "values" literalValues)

/-- A member of version 1.4, written for the current grammar. -/
def currentMember (member : Json) : Json :=
  if member.textField? "kind" = some "valueWithAttrs" then
    member.rewrite [] [("kind", .str "valueWithAttributes")]
  else if member.textField? "kind" = some "enumeration" then
    currentEnumeration member
  else
    member

/-- A document of version 1.4, written for the current grammar. -/
def currentDocument (document : Json) : Json :=
  match document.field? "members" with
  | some (.arr items) =>
    document.rewrite ["contexts"] [("members", .arr (items.map currentMember))]
  | _ => document

/-- What an enumeration has under a name when it is written with values. -/
theorem field?_currentEnumeration (name : String) (fields : Keyed Json) :
    (currentEnumeration (.obj fields)).field? name =
      if name = "values" then (Keyed.find? "values" fields).map literalValues
      else if name = "open" then Keyed.find? "extensible" fields
      else if name = "extensible" then none
      else Keyed.find? name fields := by
  rw [currentEnumeration, Json.rewrite, Json.field?, Json.find?_rewriteFields,
    Keyed.find?_ofList_append, Json.find?_ofList_copyEntry, Json.find?_ofList_copyEntry,
    Option.map_id_fun, id, Json.field?, Json.field?]
  by_cases hvalues : name = "values"
  · subst hvalues
    cases Keyed.find? "values" fields <;> simp
  · by_cases hopen : name = "open"
    · subst hopen
      simp
    · simp [hvalues, hopen]

/-- A literal becomes the value it stands for. -/
theorem decode?_literalValue {literal : Json} {text : String} (h : literal.text? = some text) :
    EnumValue.decode? (literalValue literal) = some { literal := text, documentation := none } := by
  cases literal with
  | str s =>
    obtain rfl := Option.some.inj h
    rfl
  | _ => cases h

theorem body_currentEnumeration {fields fields' : Keyed Json} {e : Enumeration}
    (hfields : currentEnumeration (.obj fields) = .obj fields')
    (h : Enumeration.decodeLiterals? (.named fields) = some e) :
    Enumeration.decode? (.named fields') = some e := by
  have hfind : ∀ name, Keyed.find? name fields' = _ := fun name =>
    (congrArg (Json.field? name) hfields).symm.trans (field?_currentEnumeration name fields)
  simp only [Enumeration.decodeLiterals?, Option.bind_eq_bind, Option.bind_eq_some_iff,
    Option.pure_def, Option.some.injEq] at h
  obtain ⟨isOpen, hopen, literals, hliterals, extension, hextension, rfl⟩ := h
  have hopen' : (RecordSource.named fields').withDefault 0 "open" Json.bool? false = some isOpen :=
    (RecordSource.withDefault_congr (by simp [hfind])).trans hopen
  have hextension' : (RecordSource.named fields').optional 2 "extension" Reference.decode? =
      some extension :=
    (RecordSource.optional_congr (by simp [hfind])).trans hextension
  have hvalues : (RecordSource.named fields').withDefault 1 "values"
      (Json.list? EnumValue.decode?) [] =
        some (literals.map fun literal => { literal, documentation := none }) := by
    rw [RecordSource.withDefault, RecordSource.get?] at hliterals ⊢
    rw [hfind, if_pos rfl]
    cases hfound : Keyed.find? "values" fields with
    | none =>
      rw [hfound, Option.some.injEq] at hliterals
      rw [← hliterals]
      rfl
    | some j =>
      rw [hfound] at hliterals
      cases j with
      | arr items =>
        exact mapM_map_of_read hliterals fun literal _ text htext => decode?_literalValue htext
      | _ => cases hliterals
  simp only [Enumeration.decode?, hopen', hvalues, hextension']
  rfl

/-- A member of version 1.4 whose kind is named is of one of its kinds. -/
theorem exists_oldKind {fields : Keyed Json} {m : MemberDecl} {kindName : String}
    (h : decodeOldMember? (.obj fields) = some m)
    (hname : Keyed.find? "kind" fields = some (.str kindName)) :
    ∃ kind ∈ oldKinds, oldKindName kind = kindName := by
  obtain ⟨kind, hkind, -⟩ :=
    Option.bind_eq_some_iff.mp (MemberDecl.decodeWith?_eq_some.mp h).2.2
  rw [RecordSource.required, RecordSource.get?, hname, Option.bind_some] at hkind
  have hfound : (oldKinds.find? fun k => oldKindName k = kindName) = some kind := hkind
  exact ⟨kind, List.mem_of_find?_eq_some hfound, by simpa using List.find?_some hfound⟩

/-- A member of version 1.4 is read from fields of the current grammar that name its
kind and hold its name, its documentation and its body. -/
theorem decode?_of_oldMember {fields fields' : Keyed Json} {kind : EntityKind} {m : MemberDecl}
    (hold : MemberDecl.decodeWith? (oldBody? kind) (.obj fields) = some m)
    (hkind : Keyed.find? "kind" fields' = some (.str kind.name))
    (hname : Keyed.find? "name" fields' = Keyed.find? "name" fields)
    (hdocumentation : Keyed.find? "documentation" fields' = Keyed.find? "documentation" fields)
    (hbody : ∀ b, oldBody? kind (.named fields) = some b →
      EntityBody.decode? kind (.named fields') = some b) :
    MemberDecl.decode? (.obj fields') = some m := by
  rw [MemberDecl.decodeWith?_eq_some] at hold
  rw [MemberDecl.decode?_eq hkind, MemberDecl.decodeWith?_eq_some]
  exact ⟨(RecordSource.withDefault_congr hname).trans hold.1,
    (RecordSource.optional_congr hdocumentation).trans hold.2.1, hbody _ hold.2.2⟩

theorem decode?_currentValue {fields : Keyed Json} {m : MemberDecl}
    (h : MemberDecl.decodeWith? (oldBody? .valueWithAttributes) (.obj fields) = some m) :
    MemberDecl.decode? ((Json.obj fields).rewrite [] [("kind", .str "valueWithAttributes")]) =
      some m := by
  have hother : ∀ name ≠ "kind",
      Keyed.find? name (Json.rewriteFields [] [("kind", .str "valueWithAttributes")] fields) =
        Keyed.find? name fields := by
    intro name hname
    simp [Json.find?_rewriteFields, hname]
  refine decode?_of_oldMember h ?_ (hother _ (by decide)) (hother _ (by decide)) fun b hb => ?_
  · simp [Json.find?_rewriteFields, EntityKind.name]
  · rw [← hb]
    refine EntityBody.decode?_congr fun name hname => hother name ?_
    revert name
    decide

theorem decode?_currentEnumeration {fields : Keyed Json} {m : MemberDecl}
    (hkind : Keyed.find? "kind" fields = some (.str EntityKind.enumeration.name))
    (h : MemberDecl.decodeWith? (oldBody? .enumeration) (.obj fields) = some m) :
    MemberDecl.decode? (currentEnumeration (.obj fields)) = some m := by
  have hfind := fun name => field?_currentEnumeration name fields
  refine decode?_of_oldMember h ((hfind _).trans ?_) ((hfind _).trans ?_) ((hfind _).trans ?_)
    fun b hb => ?_
  · simpa using hkind
  · simp
  · simp
  · obtain ⟨e, he, rfl⟩ := Option.map_eq_some_iff.mp hb
    rw [EntityBody.decode?, body_currentEnumeration rfl he]
    rfl

/-- Which form a member takes is for its kind to say. -/
theorem currentMember_eq {member : Json} {kind : EntityKind}
    (h : member.textField? "kind" = some (oldKindName kind)) :
    currentMember member =
      match kind with
      | .valueWithAttributes => member.rewrite [] [("kind", .str "valueWithAttributes")]
      | .enumeration => currentEnumeration member
      | _ => member := by
  cases kind <;> simp [currentMember, h, oldKindName, EntityKind.name]

theorem decode?_currentMember {member : Json} {m : MemberDecl}
    (hkind : (member.textField? "kind").isSome) (h : decodeOldMember? member = some m) :
    MemberDecl.decode? (currentMember member) = some m := by
  cases member with
  | obj fields =>
    obtain ⟨kindName, hkindName⟩ := Option.isSome_iff_exists.mp hkind
    obtain ⟨j, hfound, hj⟩ := Option.bind_eq_some_iff.mp hkindName
    cases j with
    | str s =>
      obtain rfl := Option.some.inj hj
      obtain ⟨kind, hold, rfl⟩ := exists_oldKind h hfound
      rw [decodeOldMember?_eq hold hfound] at h
      rw [currentMember_eq hkindName]
      cases kind with
      | valueWithAttributes => exact decode?_currentValue h
      | enumeration => exact decode?_currentEnumeration hfound h
      -- the other kinds are written alike in both versions
      | _ => exact decode?_of_oldMember h hfound rfl rfl fun b hb => hb
    | _ => cases hj
  | _ => cases hkind

/-- A document of version 1.4 that names the kinds of its members, written for the
current grammar, is read as the module that it was. -/
theorem old_document_rewritten {url : Url} {document : Json} {m : LibraryModule}
    (hkinds : ∀ item ∈ document.itemsUnder "members", (item.textField? "kind").isSome)
    (h : readOld? url document = some m) :
    readCurrent? url (currentDocument document) = some { m with grammar := .v1_6 } := by
  obtain ⟨⟨frame, members⟩, hread, hm⟩ := Option.bind_eq_some_iff.mp h
  obtain rfl := Option.some.inj hm
  cases document with
  | obj fields =>
    obtain ⟨hframe, items, hitems, hmembers⟩ := readDocument?_eq_some.mp hread
    rw [Json.itemsUnder, Json.field?, hitems] at hkinds
    have hcurrent := mapM_map_of_read hmembers fun item hitem m hm =>
      decode?_currentMember (hkinds item hitem) hm
    rw [List.map_id'] at hcurrent
    -- the current grammar finds no contexts, where version 1.4 does not look for them
    have hcontexts : ((Json.obj fields).rewrite ["contexts"]
        [("members", .arr (items.map currentMember))]).field? "contexts" = none := by
      rw [Json.rewrite, Json.field?, Json.find?_rewriteFields]
      rfl
    rw [currentDocument, Json.field?, hitems, readCurrent?]
    dsimp only
    rw [readDocument?_of_no_contexts hcontexts, readDocument?_rewrite (by decide) hframe hcurrent]
    rfl
  | _ => cases hread

/-- A library of version 1.4 with an enumeration that says whether it is open in two
ways, and with contexts that no grammar admits. -/
def paletteDocument : Json :=
  .object
    [ ("name", .str "Palette"), ("contexts", .str "none"),
      ("members", .arr
        [ .object
            [ ("kind", .str "enumeration"), ("name", .str "Color"), ("extensible", .bool true),
              ("open", .str "no"), ("values", .arr [.str "Red", .str "Blue"]) ],
          .object
            [ ("kind", .str "valueWithAttrs"), ("name", .str "Shade"),
              ("valueType", .str "Color") ] ]) ]

/-- Neither the second answer nor the contexts are read. -/
theorem paletteDocument_rewritten :
    ∃ m, readOld? orderUrl paletteDocument = some m ∧
      m.members.map MemberDecl.entityName = ["Color", "Shade"] ∧
      readCurrent? orderUrl (currentDocument paletteDocument) =
        some { m with grammar := .v1_6 } := by
  have htest : (readOld? orderUrl paletteDocument).any (fun m =>
      m.members.map MemberDecl.entityName = ["Color", "Shade"]) = true := by
    decide +kernel
  obtain ⟨m, hread, hnames⟩ := (Option.any_eq_true ..).mp htest
  exact ⟨m, hread, of_decide_eq_true hnames, old_document_rewritten (by decide +kernel) hread⟩

end TravelModel
