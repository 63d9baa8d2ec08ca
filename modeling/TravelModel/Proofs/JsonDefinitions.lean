import TravelModel.Proofs.JsonRefs

/-!
# TravelModel — definitions in JSON schemas

Every `$ref` in a schema of an entity is written for a reference that the entity
needs, in any style of references. Types that come with the program are written out,
so they bring no `$ref` of their own; the definitions of a user type are there under
every name that is written for it.

A `$ref` alone does not show what it was written for. What it leads to is therefore
said of the references that are written so, and of the entities they are bound to.

Main results:

* `schemaIn_typeSchemaWithin` — the schema of a needed reference has the `$ref` of a
  needed reference only.
* `mem_definitions_declaredType`, `mem_definitions_facet` — the names that
  references use are names of definitions.
* `schemaIn_definitions` — so have all schemas of an entity.
* `definedByFile_of_writes` — in the document of a library, the file that a
  `$ref` names is that of the library with the definition.
-/

namespace TravelModel

namespace GenerationContext

open Json JsonSchema Model

variable {c : GenerationContext} {style : RefStyle}

/-! ## Types -/

/-- A reference that is bound to an entity of the user is written as a `$ref`. -/
structure Writes (c : GenerationContext) (style : RefStyle) (r : Reference) (o : NamedEntity)
    (text : String) : Prop where
  target : (r.target.bind fun s => c.model.entity? s.owner) = some o
  user : c.isBuiltIn o.id = false
  schema : c.typeSchema style r = .object [("$ref", .str text)]

/-- A `$ref` is written for a reference that an entity needs. -/
def RefersFrom (c : GenerationContext) (style : RefStyle) (x : EntityId) (text : String) : Prop :=
  ∃ r o, c.model.Needs x r ∧ c.Writes style r o text

/-- Where every `$ref` comes from and leads to. It is written for a reference that is
needed, and if a needed reference to an entity that has types is written so, it leads
to a definition of that entity. -/
structure Answered (c : GenerationContext) (style : RefStyle) (needed : Reference → Prop)
    (defined : NamedEntity → String → Prop) (text : String) : Prop where
  written : ∃ r o, needed r ∧ c.Writes style r o text
  defined : ∀ r o, needed r → c.Writes style r o text → ¬ HasNoTypes o → defined o text

theorem RefersFrom.trans {x y : EntityId} (hxy : c.model.Reaches x y) {text : String}
    (h : c.RefersFrom style y text) : c.RefersFrom style x text := by
  obtain ⟨r, o, hr, hwrites⟩ := h
  exact ⟨r, o, hxy.needs hr, hwrites⟩

/-- Every fixed facet has a definition. -/
theorem mem_definitions_facet (style : RefStyle) {e : NamedEntity} {kind : FacetKind}
    (h : kind ∈ e.body.fixedFacetKinds) :
    Naming.facetType e.name kind ∈ (c.definitions style e).map Prod.fst := by
  have hfixed : ∀ kinds, kind ∈ kinds →
      Naming.facetType e.name kind ∈ (c.fixedDefinitions style e kinds).map Prod.fst := by
    intro kinds hkind
    rw [fixedDefinitions, List.map_map]
    exact List.mem_map_of_mem (f := fun k => Naming.facetType e.name k) hkind
  unfold definitions
  cases hbody : e.body with
  | coreObject o =>
    simp only [hbody, EntityBody.fixedFacetKinds, List.mem_cons, List.not_mem_nil, or_false] at h
    simp only [List.map_cons, List.map_append, List.mem_cons, List.mem_append]
    rcases h with rfl | h
    · exact Or.inl rfl
    · exact Or.inr (Or.inl (Or.inr (hfixed _ (by simpa using h))))
  | businessObject o =>
    rw [hbody] at h
    simp only [List.map_append, List.mem_append]
    exact Or.inl (hfixed _ h)
  | choiceObject o =>
    rw [hbody] at h
    simp only [List.map_append, List.mem_append]
    exact Or.inl (hfixed _ h)
  | _ =>
    rw [hbody] at h
    exact absurd h List.not_mem_nil

/-- The type that a reference to an entity stands for has a definition. -/
theorem mem_definitions_declaredType (style : RefStyle) {e : NamedEntity} (h : ¬ HasNoTypes e) :
    c.declaredType e ∈ (c.definitions style e).map Prod.fst := by
  rw [HasNoTypes, NamedEntity.kind] at h
  cases hbody : e.body with
  | coreObject o =>
    rw [declaredType, hbody]
    exact mem_definitions_facet style (by simp [hbody, EntityBody.fixedFacetKinds])
  | businessObject o =>
    rw [declaredType, hbody]
    exact mem_definitions_facet style (by simp [hbody, EntityBody.fixedFacetKinds])
  | choiceObject o =>
    rw [declaredType, hbody]
    exact mem_definitions_facet style (by simp [hbody, EntityBody.fixedFacetKinds])
  | resource r =>
    rw [hbody] at h
    exact absurd (Or.inl rfl) h
  | service x =>
    rw [hbody] at h
    exact absurd (Or.inr rfl) h
  | _ =>
    rw [declaredType, definitions, hbody]
    exact List.mem_cons_self

/-- How a reference to an entity of the user is written. -/
theorem typeSchemaWithin_of_user (style : RefStyle) (budget : Nat) {r : Reference} {s : Symbol}
    {o : NamedEntity} (hs : r.target = some s) (ho : c.model.entity? s.owner = some o)
    (huser : c.isBuiltIn o.id = false) :
    c.typeSchemaWithin style (budget + 1) r =
      .object [("$ref", .str (c.jsonReference style o.id ((c.typeName? s).getD o.name)))] := by
  rw [typeSchemaWithin, hs, Option.bind_some, ho, Option.map_some]
  dsimp only
  rw [huser]
  rfl

/-- A needed reference that is written as a `$ref` is bound to an entity that is
reached, and the name in it is that of a definition if the entity has types. -/
theorem Writes.exists_type (hm : c.model.Settled) {x : EntityId} {r : Reference}
    {o : NamedEntity} {text : String} (h : c.Writes style r o text) (hr : c.model.Needs x r) :
    c.model.entity? o.id = some o ∧ c.model.Reaches x o.id ∧
      ∃ type, text = c.jsonReference style o.id type ∧
        (¬ HasNoTypes o → ∀ style', type ∈ (c.definitions style' o).map Prod.fst) := by
  obtain ⟨s, hs, hfound⟩ := Option.bind_eq_some_iff.mp h.target
  obtain ⟨o', ho, howner, hreach, name, hname⟩ := hr.target hm hs
  obtain rfl : o' = o := Option.some.inj (ho.symm.trans hfound)
  have hschema := h.schema
  rw [typeSchema, typeSchemaWithin_of_user style _ hs ho h.user] at hschema
  rw [howner] at ho
  refine ⟨ho, hreach, (c.typeName? s).getD o'.name, ?_, fun htyped style' => ?_⟩
  · have hfields := (List.cons.inj (Json.obj.inj hschema)).1
    exact (Json.str.inj (Prod.mk.inj hfields).2).symm
  · rcases typeName?_cases ho hname with htype | ⟨kind, hkind, htype⟩
    · rw [htype, Option.getD_some]
      exact mem_definitions_declaredType style' htyped
    · rw [htype, Option.getD_some]
      exact mem_definitions_facet style' hkind

/-- The schema of a needed reference. A base that comes with the program is
written out, and what it is based on in turn is needed too. -/
theorem schemaIn_typeSchemaWithin (hm : c.model.Settled) (style : RefStyle) {x : EntityId}
    (budget : Nat) {r : Reference} (hr : c.model.Needs x r) :
    (c.typeSchemaWithin style budget r).SchemaIn (c.RefersFrom style x) := by
  -- on the budget, as a base can lead to another; what is needed stays needed by `x`
  induction budget generalizing r with
  | zero => exact schemaIn_ofType _
  | succ budget ih =>
    rw [typeSchemaWithin]
    split
    · exact schemaIn_ofType _
    · next s e hbound =>
      obtain ⟨s', hs', hmap⟩ := Option.bind_eq_some_iff.mp hbound
      obtain ⟨e', he', heq⟩ := Option.map_eq_some_iff.mp hmap
      obtain ⟨rfl, rfl⟩ := Prod.mk.inj heq
      obtain ⟨o, ho, howner, hreach, -⟩ := hr.target hm hs'
      obtain rfl : e' = o := Option.some.inj (he'.symm.trans ho)
      rw [howner] at ho
      split
      · -- a type that comes with the program has no definition to refer to
        split
        · exact schemaIn_primitive _
        · split
          · next t hbody =>
            refine schemaIn_simpleType t ?_
            cases hbase : t.base with
            | none => exact schemaIn_ofType _
            | some b =>
              refine ih (hreach.needs (needs_of_mem ho ?_))
              rw [hbody]
              exact mem_refs_option.mpr ⟨b, hbase, mem_refs_reference.mpr rfl⟩
          · exact schemaIn_ofType _
      · next huser =>
        -- a user type is written as a `$ref`, whatever is left of the budget
        have huser : c.isBuiltIn e'.id = false := by simpa using huser
        refine schemaIn_object fun f hf => ?_
        rw [List.mem_singleton.mp hf]
        refine ⟨refsIn_str _, fun text htext => ⟨r, e', hr, ?_, huser, ?_⟩⟩
        · rw [hs', Option.bind_some, he']
        · rw [typeSchema, typeSchemaWithin_of_user style _ hs' he' huser,
            (Prod.mk.inj htext).2]

theorem schemaIn_typeSchema (hm : c.model.Settled) (style : RefStyle) {x : EntityId}
    {r : Reference} (hr : c.model.Needs x r) :
    (c.typeSchema style r).SchemaIn (c.RefersFrom style x) :=
  schemaIn_typeSchemaWithin hm style _ hr

theorem schemaIn_typeSchemaOr (hm : c.model.Settled) (style : RefStyle) {x : EntityId}
    {r : Option Reference} (hr : ∀ r' ∈ refs r, c.model.Needs x r') :
    (c.typeSchemaOr style r).SchemaIn (c.RefersFrom style x) := by
  cases r with
  | none => exact schemaIn_ofType _
  | some r => exact schemaIn_typeSchema hm style (hr r List.mem_cons_self)

/-! ## Content -/

section

variable {P : String → Prop}

theorem schemaIn_objectSchema {properties : List (String × Json)}
    (h : ∀ f ∈ properties, f.2.SchemaIn P) (required : List String) :
    (objectSchema properties required).SchemaIn P := by
  have hproperties : (object properties).RefsIn P :=
    refsIn_object fun f hf => entryIn_of_schemaIn (h f hf)
  refine schemaIn_object (List.forall_mem_append.mpr ⟨by simp [hproperties], ?_⟩)
  split
  · simp
  · simp

theorem schemaIn_literalSchema (literals : List String) : (literalSchema literals).SchemaIn P :=
  schemaIn_object (by simp)

theorem schemaIn_enumerationSchema (e : NamedEntity) (x : Enumeration) :
    (c.enumerationSchema e x).SchemaIn P := by
  have hclosed := schemaIn_literalSchema (P := P) (c.enumLiterals e.id)
  rw [enumerationSchema]
  split
  · refine schemaIn_object ?_
    simp [refsIn_arr, hclosed.2, (schemaIn_ofType (P := P) "string").2]
  · exact hclosed

theorem schemaIn_describe (e : NamedEntity) {schema : Json} (h : schema.SchemaIn P) :
    (describe e schema).SchemaIn P := by
  rw [describe]
  split
  · exact schemaIn_setField h (by simp)
  · exact h

end

section

variable {x : EntityId} {content : FacetContent}

theorem schemaIn_elementSchema (hm : c.model.Settled) (style : RefStyle) {e : Element}
    (hr : c.model.Needs x e.type) :
    (c.elementSchema style e).SchemaIn (c.RefersFrom style x) := by
  have hitem : (if e.byReference then ofType "string" else c.typeSchema style e.type).SchemaIn
      (c.RefersFrom style x) := by
    split
    · exact schemaIn_ofType _
    · exact schemaIn_typeSchema hm style hr
  rw [elementSchema]
  split
  · -- a list, with the greatest number of items if there is one
    refine schemaIn_object (List.forall_mem_append.mpr ⟨by simp [hitem.2], ?_⟩)
    split
    · simp
    · simp
  · exact hitem

theorem schemaIn_contentProperties (hm : c.model.Settled) (style : RefStyle)
    (hr : ∀ r ∈ refs content, c.model.Needs x r) :
    ∀ f ∈ c.contentProperties style content, f.2.SchemaIn (c.RefersFrom style x) := by
  intro f hf
  simp only [contentProperties, List.mem_append, List.mem_map] at hf
  rcases hf with (⟨a, ha, rfl⟩ | ⟨e, he, rfl⟩) | ⟨i, -, rfl⟩
  · exact schemaIn_typeSchema hm style (hr _ (FacetContent.mem_refs.mpr (Or.inl ⟨a, ha, rfl⟩)))
  · exact schemaIn_elementSchema hm style (hr _ (FacetContent.mem_refs.mpr (Or.inr ⟨e, he, rfl⟩)))
  · exact schemaIn_ofType _

theorem schemaIn_contentSchema (hm : c.model.Settled) (style : RefStyle)
    (hr : ∀ r ∈ refs content, c.model.Needs x r) :
    (c.contentSchema style content).SchemaIn (c.RefersFrom style x) :=
  schemaIn_objectSchema (schemaIn_contentProperties hm style hr) _

end

/-! ## Definitions -/

theorem schemaIn_fixedDefinitions (hm : c.model.Settled) (style : RefStyle) (e : NamedEntity)
    (kinds : List FacetKind) :
    ∀ d ∈ c.fixedDefinitions style e kinds, d.2.SchemaIn (c.RefersFrom style e.id) := by
  intro d hd
  obtain ⟨kind, -, rfl⟩ := List.mem_map.mp hd
  exact schemaIn_contentSchema hm style fun r hr => needs_of_facetContent hr

theorem schemaIn_ghostDefinitions (hm : c.model.Settled) (style : RefStyle) (e : NamedEntity) :
    ∀ d ∈ c.ghostDefinitions style e, d.2.SchemaIn (c.RefersFrom style e.id) := by
  intro d hd
  obtain ⟨g, hg, hd⟩ := List.mem_filterMap.mp hd
  split at hd
  · next f hsource =>
    obtain ⟨source, hsource, hbody⟩ := Option.map_eq_some_iff.mp hsource
    obtain rfl := Option.some.inj hd
    exact schemaIn_contentSchema hm style fun r hr => needs_of_ghostFacet hg hsource hbody hr
  · cases hd

/-- The definitions of an entity refer to what it reaches. -/
theorem schemaIn_definitions (hm : c.model.Settled) (style : RefStyle) {e : NamedEntity}
    (he : c.model.entity? e.id = some e) :
    ∀ d ∈ c.definitions style e, d.2.SchemaIn (c.RefersFrom style e.id) := by
  intro d hd
  have hown : ∀ r ∈ refs e.body, c.model.Needs e.id r := fun r hr => needs_of_mem he hr
  unfold definitions at hd
  cases hbody : e.body with
  | simpleType t =>
    rw [hbody] at hd hown
    rw [List.mem_singleton.mp hd]
    exact schemaIn_describe e (schemaIn_simpleType t (schemaIn_typeSchemaOr hm style hown))
  | enumeration x =>
    rw [hbody] at hd
    rw [List.mem_singleton.mp hd]
    exact schemaIn_describe e (schemaIn_enumerationSchema e x)
  | valueWithAttributes v =>
    rw [hbody] at hd hown
    rw [List.mem_singleton.mp hd]
    refine schemaIn_describe e (schemaIn_objectSchema (fun f hf => ?_) _)
    rcases List.mem_append.mp hf with hf | hf
    · exact schemaIn_contentProperties hm style
        (fun r hr => hown r (mem_refs_pair.mpr (Or.inr hr))) f hf
    · rw [List.mem_singleton.mp hf]
      exact schemaIn_typeSchemaOr hm style fun r hr => hown r (mem_refs_pair.mpr (Or.inl hr))
  | coreObject o =>
    rw [hbody] at hd hown
    simp only [List.mem_cons, List.mem_append] at hd
    rcases hd with rfl | (hd | hd) | hd
    · refine schemaIn_typeSchemaOr hm style fun r hr => hown r ?_
      exact mem_refs_pair.mpr (Or.inr (mem_refs_pair.mpr (Or.inl hr)))
    · split at hd
      · exact absurd hd List.not_mem_nil
      · rw [List.mem_singleton.mp hd]
        exact schemaIn_literalSchema _
    · exact schemaIn_fixedDefinitions hm style e _ d hd
    · exact schemaIn_ghostDefinitions hm style e d hd
  | businessObject o =>
    rw [hbody] at hd
    rcases List.mem_append.mp hd with hd | hd
    · exact schemaIn_fixedDefinitions hm style e _ d hd
    · exact schemaIn_ghostDefinitions hm style e d hd
  | choiceObject o =>
    rw [hbody] at hd
    rcases List.mem_append.mp hd with hd | hd
    · exact schemaIn_fixedDefinitions hm style e _ d hd
    · exact schemaIn_ghostDefinitions hm style e d hd
  | contextualFacet f =>
    rw [hbody] at hd
    rw [List.mem_singleton.mp hd]
    exact schemaIn_describe e (schemaIn_contentSchema hm style fun r hr =>
      needs_of_contextualFacet hm.wellFormed he hbody hr)
  | extensionPointFacet f =>
    rw [hbody] at hd hown
    rw [List.mem_singleton.mp hd]
    exact schemaIn_describe e (schemaIn_contentSchema hm style fun r hr =>
      hown r (mem_refs_pair.mpr (Or.inr hr)))
  | resource r =>
    rw [hbody] at hd
    exact absurd hd List.not_mem_nil
  | service x =>
    rw [hbody] at hd
    exact absurd hd List.not_mem_nil

/-! ## Documents of libraries -/

theorem getFitting_jsonSchema (kind : EntityKind) :
    Registry.standard.getFitting kind .jsonSchema = .ok .definitions := by
  cases kind <;> rfl

theorem registeredDefinitions_eq (h : c.registry = .standard) (style : RefStyle)
    (e : NamedEntity) : c.registeredDefinitions style e = .ok (c.definitions style e) := by
  rw [registeredDefinitions, h, getFitting_jsonSchema]
  rfl

/-- The definitions of a library. -/
def libraryDefinitions (c : GenerationContext) (l : Library) : List (String × Json) :=
  (c.emittedEntities l.id).flatMap (c.definitions (.library l.id))

/-- The document of a library. -/
def jsonDocument (c : GenerationContext) (l : Library) : Json :=
  c.libraryJson l (c.libraryDefinitions l)

/-- The file of a library with its document. -/
def jsonFile (c : GenerationContext) (d : Library × String) : OutputFile :=
  { path := d.2, format := .jsonSchema, contents := documentText (c.jsonDocument d.1) }

theorem libraryJsonFile_eq (h : c.registry = .standard) (l : Library) :
    c.libraryJsonFile l =
      .ok ((c.libraryFile? l .jsonSchema).toList.map fun path => c.jsonFile (l, path)) := by
  rw [libraryJsonFile]
  split
  · next hfile => rw [hfile]; rfl
  · next path hfile =>
    rw [mapM_eq_ok fun e _ => registeredDefinitions_eq h (.library l.id) e, hfile]
    rfl

theorem jsonFiles_eq (hc : c.Closed) :
    c.jsonFiles = .ok ((c.libraryFiles .jsonSchema).map c.jsonFile) := by
  refine mapM_order_eq hc (libraryJsonFile_eq hc.registry) fun id l hl => ?_
  rw [checkCancelled, hc.running, hl]
  rfl

/-- The definitions of a document are found below `definitions`. -/
theorem isSome_at?_jsonDocument {l : Library} {name : String} :
    ((c.jsonDocument l).at? ["definitions", name]).isSome ↔
      name ∈ (c.libraryDefinitions l).map Prod.fst := by
  rw [jsonDocument, libraryJson, at?_object (j := object (c.libraryDefinitions l)),
    isSome_at?_object]
  · simp
  · simp

theorem refsIn_jsonDocument {P : String → Prop} {l : Library}
    (h : ∀ d ∈ c.libraryDefinitions l, d.2.SchemaIn P) : (c.jsonDocument l).RefsIn P := by
  have hdefinitions : (object (c.libraryDefinitions l)).RefsIn P :=
    refsIn_object fun d hd => entryIn_of_schemaIn (h d hd)
  refine refsIn_object fun f hf => ?_
  simp only [List.mem_append, List.mem_cons, List.not_mem_nil, or_false, Option.mem_toList,
    Option.map_eq_some_iff] at hf
  rcases hf with ((rfl | rfl | rfl) | ⟨ns, -, rfl⟩) | ⟨doc, -, rfl⟩
  · simp
  · simp
  · simp [hdefinitions]
  · simp
  · simp

/-- A `$ref` in the document of a library leads to a definition of an entity. It names
the file of the library that the entity is emitted for, which is in scope, unless that
is the document itself, and the definition is found there. The text is the pointer to
it if and only if the name can stand in a pointer as it is. -/
def DefinedByFile (c : GenerationContext) (l : Library) (o : NamedEntity) (text : String) : Prop :=
  ∃ t path name, (t, path) ∈ c.libraryFiles .jsonSchema ∧ t.id ∈ c.scope.libraries ∧
    text = (if t.id = l.id then "" else path) ++ pathText ["definitions", name] ∧
    o ∈ c.emittedEntities t.id ∧ name ∈ (c.definitions (.library t.id) o).map Prod.fst ∧
    ((c.jsonDocument t).at? ["definitions", name]).isSome ∧
    (IsPointerTo (pathText ["definitions", name]) ["definitions", name] ↔ Unescaped name)

theorem pathText_definitions (name : String) :
    pathText ["definitions", name] = "#/definitions/" ++ name :=
  congrArg (· ++ name) (by decide : "#" ++ "/" ++ "definitions" ++ "/" = "#/definitions/")

theorem jsonReference_library {id : EntityId} {t : Library} {path : String}
    (howner : c.model.owner? id = some t) (hfile : c.libraryFile? t .jsonSchema = some path)
    (library : LibraryId) (name : String) :
    c.jsonReference (.library library) id name =
      (if t.id = library then "" else path) ++ pathText ["definitions", name] := by
  rw [pathText_definitions, ← String.append_assoc]
  unfold jsonReference
  rw [howner]
  by_cases hsame : t.id = library
  · simp [Option.filter_some, hsame]
  · simp [Option.filter_some, hsame, hfile]

theorem definedByFile_of_writes (hc : c.Closed) {l : Library} {e : NamedEntity}
    (he : e ∈ c.emittedEntities l.id) {r : Reference} (hr : c.model.Needs e.id r)
    {o : NamedEntity} {text : String} (h : c.Writes (.library l.id) r o text)
    (htyped : ¬ HasNoTypes o) : c.DefinedByFile l o text := by
  have hm := hc.settled.wellFormed
  obtain ⟨ho, hpath, type, rfl, hdefined⟩ := h.exists_type hc.settled hr
  have huser := h.user
  obtain ⟨t, howner, ht, htid, hbuiltIn | ⟨horder, hemitted⟩⟩ := hc.emitted he hpath ho
  · rw [isBuiltIn, howner, Option.map_some, hbuiltIn] at huser
    cases huser
  · -- the library of the target has a file, and its document the definition
    have hbuiltIn : t.builtIn = false := by
      rw [isBuiltIn, howner] at huser
      exact huser
    obtain ⟨path, hfile⟩ := c.exists_libraryFile? hbuiltIn (Or.inr rfl)
    have hname := hdefined htyped (.library t.id)
    refine ⟨t, path, type, (mem_libraryFiles hm).mpr ⟨horder, htid ▸ ht, hfile⟩,
      hc.inScope horder, jsonReference_library howner hfile l.id type, hemitted, hname,
      isSome_at?_jsonDocument.mpr ?_, ?_⟩
    · obtain ⟨d, hd, hname⟩ := List.mem_map.mp hname
      exact List.mem_map.mpr ⟨d, List.mem_flatMap.mpr ⟨o, hemitted, hd⟩, hname⟩
    · exact isPointerTo_concat_iff ["definitions"] (by decide)

end GenerationContext

end TravelModel
