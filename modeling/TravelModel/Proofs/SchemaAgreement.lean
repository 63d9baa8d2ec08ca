import TravelModel.Proofs.JsonDefinitions
import TravelModel.Proofs.SchemaClosure

/-!
# TravelModel — XML and JSON schemas of the same model

An entity is written as components of an XML schema and as definitions of a
JSON schema by two independent passes. Both name the same types in the same
order, and the type of a facet has the same fields in both: the same names, the
same ones required and the same ones repeated.

Main results:

* `typeNames_components` — the types of an entity are its definitions, but for
  the base of an open enumeration.
* `perm_fieldNames` — the properties of a content are the attributes and
  elements of its complex type.
* `types_match_definitions`, `fields_match_properties` — the agreement of the
  two forms.
-/

namespace TravelModel

/-! ## Types and definitions -/

namespace Xsd

/-- The names of the types among some components, in order. -/
def typeNames (ks : List Component) : List String :=
  (ks.filter fun k => k.sort = .type).map Component.name

@[simp] theorem typeNames_nil : typeNames [] = [] :=
  rfl

@[simp] theorem typeNames_append (ks ks' : List Component) :
    typeNames (ks ++ ks') = typeNames ks ++ typeNames ks' := by
  rw [typeNames, List.filter_append, List.map_append, typeNames, typeNames]

@[simp] theorem typeNames_simpleType (t : SimpleTypeDef) (ks : List Component) :
    typeNames (.simpleType t :: ks) = t.name :: typeNames ks :=
  rfl

@[simp] theorem typeNames_complexType (t : ComplexTypeDef) (ks : List Component) :
    typeNames (.complexType t :: ks) = t.name :: typeNames ks :=
  rfl

@[simp] theorem typeNames_element (e : ElementDef) (ks : List Component) :
    typeNames (.element e :: ks) = typeNames ks :=
  rfl

end Xsd

namespace GenerationContext

open Xsd

/-- The types that only the XML form of an entity has: the base of an open
enumeration. -/
def helperTypes (e : NamedEntity) : List String :=
  match e.body with
  | .enumeration x => if x.isOpen then [Naming.openEnumBase e.name] else []
  | _ => []

section

variable (c : GenerationContext) (style : RefStyle) (e : NamedEntity)

theorem typeNames_ownElements (names : List String) (type : String) :
    typeNames (names.map fun name => c.ownElement e name type) = [] := by
  induction names with
  | nil => rfl
  | cons name rest ih => rw [List.map_cons, ownElement, typeNames_element, ih]

theorem typeNames_fixedFacets (kinds : List FacetKind) :
    typeNames (kinds.flatMap (c.fixedFacetComponents e)) =
      (c.fixedDefinitions style e kinds).map Prod.fst := by
  induction kinds with
  | nil => rfl
  | cons kind rest ih =>
    rw [List.flatMap_cons, typeNames_append, ih, fixedFacetComponents, typeNames_complexType,
      typeNames_ownElements]
    rfl

theorem typeNames_ghosts :
    typeNames (c.allGhostComponents e) = (c.ghostDefinitions style e).map Prod.fst := by
  rw [allGhostComponents, ghostDefinitions]
  induction c.model.ghostFacets e.id with
  | nil => rfl
  | cons g rest ih =>
    rw [List.flatMap_cons, typeNames_append, ih, ghostComponents, List.filterMap_cons]
    -- a source that is no contextual facet adds nothing in either form
    cases c.model.entity? g.source with
    | none => rfl
    | some source =>
      dsimp only [Option.map_some]
      cases source.body <;> rfl

/-- The types of an entity are its definitions, in order, after the base of an
open enumeration. -/
theorem typeNames_components :
    typeNames (c.components e) = helperTypes e ++ (c.definitions style e).map Prod.fst := by
  rw [components, definitions, helperTypes]
  cases e.body with
  | simpleType t => rfl
  | enumeration x =>
    dsimp only
    rw [enumerationComponents]
    split <;> rfl
  | valueWithAttributes v => rfl
  | coreObject o =>
    dsimp only
    rw [typeNames_append, typeNames_append, typeNames_fixedFacets c style,
      typeNames_ghosts c style, coreComponents, typeNames_simpleType]
    -- the type of the roles is there if there are any, after that of the simple facet
    split <;> simp
  | businessObject o =>
    dsimp only
    rw [typeNames_append, typeNames_fixedFacets c style, typeNames_ghosts c style,
      List.nil_append, List.map_append]
  | choiceObject o =>
    dsimp only
    rw [typeNames_append, ← List.flatMap_singleton (c.fixedFacetComponents e),
      typeNames_fixedFacets c style, typeNames_ghosts c style, List.nil_append, List.map_append]
  | contextualFacet f => rfl
  | extensionPointFacet f =>
    dsimp only
    rw [extensionComponents, typeNames_complexType, typeNames_element]
    -- what it extends decides on the content of the type, not on its name
    split <;> rfl
  | resource r => rfl
  | service x => rfl

/-- No definition has the name of the base of an open enumeration. -/
theorem notMem_helperTypes {name : String} (h : name ∈ (c.definitions style e).map Prod.fst) :
    name ∉ helperTypes e := by
  rw [helperTypes]
  rw [definitions] at h
  cases hbody : e.body with
  | enumeration x =>
    rw [hbody, List.map_singleton, List.mem_singleton] at h
    dsimp only
    split
    · rw [List.mem_singleton, h]
      intro heq
      have hlength := congrArg String.length heq
      rw [Naming.openEnumBase, String.length_append] at hlength
      simp at hlength
    · exact List.not_mem_nil
  | _ => exact List.not_mem_nil

end

/-- With the standard transformers an entity is written in both forms, and the
names of its types in XML are those of its definitions in JSON, in order, when
the base of an open enumeration is left out. That base is the first type of the
enumeration. -/
theorem types_match_definitions (c : GenerationContext) (h : c.registry = .standard)
    (style : RefStyle) (e : NamedEntity) :
    ∃ ks ds, c.registeredComponents e = .ok ks ∧ c.registeredDefinitions style e = .ok ds ∧
      (typeNames ks).filter (fun name => name ∉ helperTypes e) = ds.map Prod.fst ∧
      typeNames ks = helperTypes e ++ ds.map Prod.fst := by
  refine ⟨c.components e, c.definitions style e, registeredComponents_eq h e,
    registeredDefinitions_eq h style e, ?_, typeNames_components c style e⟩
  rw [typeNames_components c style e, List.filter_append, List.filter_eq_nil_iff.mpr,
    List.nil_append, List.filter_eq_self.mpr]
  · intro name hname
    exact decide_eq_true (notMem_helperTypes c style e hname)
  · intro name hname
    simpa using hname

/-- The derived object of the sample has the types of its shared facet and of the
facet it inherits, in both forms. -/
theorem sampleRun_types :
    let c : GenerationContext :=
      { model := Model.run (Model.sampleRun ++ [.refresh]), scope := {}, options := default }
    ∃ e ks ds, c.model.entity? ⟨3⟩ = some e ∧ c.registeredComponents e = .ok ks ∧
      c.registeredDefinitions .components e = .ok ds ∧
      ds.map Prod.fst = ["Derived_Shared", "Derived_Choice_Red"] ∧
      typeNames ks = ["Derived_Shared", "Derived_Choice_Red"] := by
  intro c
  have htest : (c.model.entity? ⟨3⟩).any (fun e => helperTypes e = [] &&
      (c.definitions .components e).map Prod.fst = ["Derived_Shared", "Derived_Choice_Red"]) =
        true := by
    decide +kernel
  obtain ⟨e, he, htest⟩ := (Option.any_eq_true ..).mp htest
  rw [Bool.and_eq_true, decide_eq_true_eq, decide_eq_true_eq] at htest
  obtain ⟨ks, ds, hks, hds, -, htypes⟩ := types_match_definitions c rfl .components e
  have hnames : ds.map Prod.fst = ["Derived_Shared", "Derived_Choice_Red"] := by
    rw [← htest.2, ← Except.ok.inj (hds.symm.trans (registeredDefinitions_eq rfl .components e))]
  exact ⟨e, ks, ds, he, hks, hds, hnames, by rw [htypes, htest.1, hnames, List.nil_append]⟩

end GenerationContext

/-! ## Fields and properties -/

namespace Xsd

/-- The name of an element that is declared at a place of a sequence. -/
def Term.localName? : Term → Option String
  | element name _ _ => some name
  | ref _ => none

namespace ComplexTypeDef

/-- The places of a complex type. -/
def particles (t : ComplexTypeDef) : List Particle :=
  match t.content with
  | .sequence ps | .extension _ ps => ps
  | .simpleExtension _ => []

/-- The names of the attributes and of the elements declared in a type. -/
def fieldNames (t : ComplexTypeDef) : List String :=
  t.attributes.map AttributeDef.name ++ t.particles.filterMap fun p => p.term.localName?

/-- The names of the attributes that are required and of the elements that occur
at least once, in order. -/
def requiredNames (t : ComplexTypeDef) : List String :=
  (t.attributes.filter AttributeDef.required).map AttributeDef.name ++
    (t.particles.filter fun p => p.minOccurs = 1).filterMap fun p => p.term.localName?

end ComplexTypeDef

/-- Something can occur more than once. -/
def Particle.IsRepeating (p : Particle) : Prop :=
  p.maxOccurs = none ∨ ∃ n, p.maxOccurs = some n ∧ 1 < n

end Xsd

namespace Json

/-- The properties of a schema. -/
def properties (j : Json) : Keyed Json :=
  ((j.field? "properties").bind fields?).getD []

/-- The names of the properties a schema requires. -/
def requiredNames (j : Json) : List String :=
  (((j.field? "required").bind items?).getD []).filterMap text?

/-- A schema of lists of an item, of no more than a most. -/
structure IsListOf (j item : Json) (most : Option Nat) : Prop where
  type : j.field? "type" = some (.str "array")
  items : j.field? "items" = some item
  maxItems : j.field? "maxItems" = most.map .nat

/-- The only value under a name is the field. -/
theorem field?_object {entries : List (String × Json)} {name : String} {v : Json}
    (h : (name, v) ∈ entries) (hunique : ∀ w, (name, w) ∈ entries → w = v) :
    (object entries).field? name = some v :=
  Keyed.find?_ofList h hunique

theorem field?_object_eq_none {entries : List (String × Json)} {name : String}
    (h : ∀ v, (name, v) ∉ entries) : (object entries).field? name = none :=
  Keyed.find?_eq_none_iff.mpr fun v hv => h v (Keyed.mem_ofList hv)

/-- A field is smaller than the object that has it. -/
theorem sizeOf_field? {j v : Json} {name : String} (h : j.field? name = some v) :
    sizeOf v < sizeOf j := by
  cases j with
  | obj fields =>
    have hmem := List.sizeOf_lt_of_mem (Keyed.mem_of_find? h)
    rw [Prod.mk.sizeOf_spec] at hmem
    rw [obj.sizeOf_spec]
    omega
  | _ => cases h

/-- No schema is a list of itself. -/
theorem not_isListOf_self (j : Json) (most : Option Nat) : ¬ j.IsListOf j most :=
  fun h => Nat.lt_irrefl _ (sizeOf_field? h.items)

end Json

namespace GenerationContext

open Xsd

section

variable (c : GenerationContext) (style : RefStyle) (content : FacetContent)

theorem properties_contentSchema :
    (c.contentSchema style content).properties =
      Keyed.ofList (c.contentProperties style content) := by
  rw [Json.properties, contentSchema, objectSchema,
    Json.field?_object (v := .object (c.contentProperties style content)) (by simp)]
  · rfl
  · intro w hw
    split at hw <;> simpa using hw

theorem requiredNames_contentSchema :
    (c.contentSchema style content).requiredNames = contentRequired content := by
  rw [Json.requiredNames, contentSchema, objectSchema]
  split
  · -- an empty list is not written
    next hnone =>
    rw [List.isEmpty_iff.mp hnone, Json.field?_object_eq_none (by simp)]
    rfl
  · rw [Json.field?_object (v := .strings (contentRequired content)) (by simp) (by simp)]
    show ((contentRequired content).map Json.str).filterMap Json.text? = contentRequired content
    rw [List.filterMap_map]
    exact List.filterMap_some

theorem map_fst_contentProperties :
    (c.contentProperties style content).map Prod.fst =
      content.attributes.map Attribute.name ++ content.elements.map jsonElementName ++
        content.indicators.map Indicator.name := by
  rw [contentProperties, List.map_append, List.map_append, List.map_map, List.map_map,
    List.map_map]
  rfl

end

section

variable (c : GenerationContext) (library : LibraryId)

theorem localName?_elementParticle (e : Element) :
    (c.elementParticle library e).term.localName? = some (jsonElementName e) := by
  rw [elementParticle, jsonElementName]
  split <;> rfl

theorem localNames_elementParticles (es : List Element) :
    (es.map (c.elementParticle library)).filterMap (fun p => p.term.localName?) =
      es.map jsonElementName := by
  rw [List.filterMap_map, ← List.filterMap_eq_map]
  exact List.filterMap_congr fun e _ => c.localName?_elementParticle library e

theorem minOccurs_elementParticle (e : Element) :
    (c.elementParticle library e).minOccurs = if e.mandatory then 1 else 0 := by
  rw [elementParticle]
  split <;> rfl

/-- The place of an extension point declares no element and is optional. -/
theorem of_mem_extensionParticles {kind : Option FacetKind} {p : Particle}
    (h : p ∈ c.extensionParticles kind) : p.term.localName? = none ∧ p.minOccurs = 0 := by
  rw [extensionParticles] at h
  split at h
  · exact absurd h List.not_mem_nil
  · obtain ⟨name, -, rfl⟩ := List.mem_map.mp h
    exact ⟨rfl, rfl⟩

variable (name : String) (doc : Option String) (content : FacetContent) (kind : Option FacetKind)

theorem particles_facetType :
    (c.facetType name doc content kind library).particles =
      content.elements.map (c.elementParticle library) ++
        (content.indicators.filter Indicator.publishAsElement).map indicatorParticle ++
        c.extensionParticles kind :=
  rfl

/-- The fields of the type of a content are its attributes and elements and each
indicator, which is one or the other. -/
theorem fieldNames_facetType :
    (c.facetType name doc content kind library).fieldNames =
      content.attributes.map Attribute.name ++
        (content.indicators.filter fun i => !i.publishAsElement).map Indicator.name ++
        (content.elements.map jsonElementName ++
          (content.indicators.filter Indicator.publishAsElement).map Indicator.name) := by
  have hattributes : (c.facetType name doc content kind library).attributes.map AttributeDef.name =
      content.attributes.map Attribute.name ++
        (content.indicators.filter fun i => !i.publishAsElement).map Indicator.name := by
    rw [facetType, List.map_append, attributeDefs, List.map_map, List.map_map]
    rfl
  have hextension : (c.extensionParticles kind).filterMap (fun p => p.term.localName?) = [] :=
    List.filterMap_eq_nil_iff.mpr fun p hp => (c.of_mem_extensionParticles hp).1
  rw [ComplexTypeDef.fieldNames, hattributes, particles_facetType, List.filterMap_append,
    List.filterMap_append, hextension, List.append_nil, localNames_elementParticles,
    List.filterMap_map]
  congr 2
  exact congrFun List.filterMap_eq_map _

/-- The properties of a content are the fields of its type, each as often. -/
theorem perm_fieldNames (style : RefStyle) :
    ((c.contentProperties style content).map Prod.fst).Perm
      (c.facetType name doc content kind library).fieldNames := by
  rw [map_fst_contentProperties, fieldNames_facetType, List.append_assoc, List.append_assoc]
  refine List.Perm.append_left _ ?_
  -- the indicators stand together as properties, and on both sides of the elements as fields
  have hindicators := ((List.filter_append_perm Indicator.publishAsElement
    content.indicators).map Indicator.name).symm
  rw [List.map_append] at hindicators
  refine (hindicators.append_left _).trans ?_
  rw [← List.append_assoc]
  exact List.perm_append_comm

/-- Of the attributes of a type only those of the content can be required. -/
theorem requiredAttributes_facetType :
    ((c.facetType name doc content kind library).attributes.filter AttributeDef.required).map
        AttributeDef.name =
      (content.attributes.filter Attribute.mandatory).map Attribute.name := by
  have hindicators : ((content.indicators.filter fun i => !i.publishAsElement).map
      indicatorAttribute).filter AttributeDef.required = [] := by
    refine List.filter_eq_nil_iff.mpr fun a ha => ?_
    obtain ⟨i, -, rfl⟩ := List.mem_map.mp ha
    simp [indicatorAttribute]
  rw [facetType, List.filter_append, hindicators, List.append_nil, attributeDefs,
    List.filter_map, List.map_map]
  rfl

/-- Of the places of a type only those of elements have to be filled. -/
theorem requiredParticles_facetType :
    ((c.facetType name doc content kind library).particles.filter fun p => p.minOccurs = 1) =
      (content.elements.filter Element.mandatory).map (c.elementParticle library) := by
  have hextension : (c.extensionParticles kind).filter (fun p => p.minOccurs = 1) = [] := by
    refine List.filter_eq_nil_iff.mpr fun p hp => ?_
    simp [(c.of_mem_extensionParticles hp).2]
  have hindicators : ((content.indicators.filter Indicator.publishAsElement).map
      indicatorParticle).filter (fun p => p.minOccurs = 1) = [] := by
    refine List.filter_eq_nil_iff.mpr fun p hp => ?_
    obtain ⟨i, -, rfl⟩ := List.mem_map.mp hp
    simp [indicatorParticle]
  rw [particles_facetType, List.filter_append, List.filter_append, hextension, hindicators,
    List.append_nil, List.append_nil, List.filter_map]
  congr 1
  refine List.filter_congr fun e _ => ?_
  rw [Function.comp_apply, minOccurs_elementParticle]
  cases e.mandatory <;> rfl

theorem requiredNames_facetType :
    (c.facetType name doc content kind library).requiredNames = contentRequired content := by
  rw [ComplexTypeDef.requiredNames, requiredAttributes_facetType, requiredParticles_facetType,
    localNames_elementParticles, contentRequired]

end

/-! ### Elements that occur once -/

/-- Where at most one passes a test, those that pass are the same. -/
theorem eq_of_countP_le_one {α : Type} {test : α → Bool} {l : List α} (h : l.countP test ≤ 1)
    {a b : α} (ha : a ∈ l) (hta : test a = true) (hb : b ∈ l) (htb : test b = true) : b = a := by
  obtain ⟨before, after, rfl⟩ := List.append_of_mem ha
  rw [List.countP_append, List.countP_cons_of_pos hta] at h
  -- the one is used up, so none passes on either side
  have hbefore := List.countP_eq_zero.mp (show before.countP test = 0 by omega)
  have hafter := List.countP_eq_zero.mp (show after.countP test = 0 by omega)
  rcases List.mem_append.mp hb with hb | hb
  · exact absurd htb (hbefore b hb)
  · rcases List.mem_cons.mp hb with rfl | hb
    · rfl
    · exact absurd htb (hafter b hb)

section

variable (c : GenerationContext) {style : RefStyle} {e : Element}

theorem maxOccurs_elementParticle (library : LibraryId) (href : e.byReference = false) :
    (c.elementParticle library e).maxOccurs =
      if e.unbounded then none else some (max e.maxRepeat 1) := by
  rw [elementParticle, href]
  rfl

theorem isRepeating_elementParticle (library : LibraryId) (href : e.byReference = false) :
    (c.elementParticle library e).IsRepeating ↔ e.isRepeating = true := by
  rw [Particle.IsRepeating, maxOccurs_elementParticle c library href, Element.isRepeating,
    Bool.or_eq_true, decide_eq_true_eq]
  cases e.unbounded with
  | true => simp
  | false => simp

/-- An element that can occur more than once has a schema of lists, as long as
its place in a sequence admits. -/
theorem isListOf_elementSchema (library : LibraryId) (href : e.byReference = false)
    (hrepeating : e.isRepeating = true) :
    (c.elementSchema style e).IsListOf (c.typeSchema style e.type)
      (c.elementParticle library e).maxOccurs := by
  rw [elementSchema, maxOccurs_elementParticle c library href, href, hrepeating, if_pos rfl]
  rw [Element.isRepeating] at hrepeating
  cases hunbounded : e.unbounded with
  | true =>
    exact ⟨Json.field?_object (by simp) (by simp), Json.field?_object (by simp) (by simp),
      Json.field?_object_eq_none (by simp)⟩
  | false =>
    rw [hunbounded, Bool.false_or, decide_eq_true_eq] at hrepeating
    refine ⟨Json.field?_object (by simp) (by simp), Json.field?_object (by simp) (by simp), ?_⟩
    -- more than one is wanted, so the least of one that a place admits does not show
    rw [Json.field?_object (v := .nat e.maxRepeat) (by simp) (by simp)]
    simp [Nat.max_eq_left hrepeating.le]

/-- An element has a list of the schema of its type exactly when its place in a
sequence admits more than one, and that schema itself otherwise. -/
theorem elementSchema_repeats (library : LibraryId) (href : e.byReference = false) :
    ((∃ most, (c.elementSchema style e).IsListOf (c.typeSchema style e.type) most) ↔
        (c.elementParticle library e).IsRepeating) ∧
      ((c.elementParticle library e).IsRepeating →
        (c.elementSchema style e).IsListOf (c.typeSchema style e.type)
          (c.elementParticle library e).maxOccurs) ∧
      (¬ (c.elementParticle library e).IsRepeating →
        c.elementSchema style e = c.typeSchema style e.type) := by
  have hlist : e.isRepeating = true →
      (c.elementSchema style e).IsListOf (c.typeSchema style e.type)
        (c.elementParticle library e).maxOccurs :=
    c.isListOf_elementSchema library href
  have hsingle : ¬ e.isRepeating = true →
      c.elementSchema style e = c.typeSchema style e.type := by
    intro h
    rw [elementSchema, if_neg h, href]
    rfl
  rw [c.isRepeating_elementParticle library href]
  refine ⟨⟨?_, fun h => ⟨_, hlist h⟩⟩, hlist, hsingle⟩
  rintro ⟨most, h⟩
  -- a type may itself be one of lists, but no schema is a list of itself
  by_contra hnot
  rw [hsingle hnot] at h
  exact Json.not_isListOf_self _ most h

theorem jsonElementName_of_contained (href : e.byReference = false) :
    jsonElementName e = e.propertyName := by
  rw [jsonElementName, href]
  rfl

variable {content : FacetContent}

theorem mem_particles_facetType (library : LibraryId) (name : String) (doc : Option String)
    (kind : Option FacetKind) (he : e ∈ content.elements) :
    c.elementParticle library e ∈ (c.facetType name doc content kind library).particles :=
  List.mem_append_left _ (List.mem_append_left _ (List.mem_map_of_mem he))

/-- An element whose name no other field has is at one place. -/
theorem eq_elementParticle {library : LibraryId} {name : String} {doc : Option String}
    {kind : Option FacetKind} (he : e ∈ content.elements)
    (hcount : (c.facetType name doc content kind library).fieldNames.count (jsonElementName e) = 1)
    {p : Particle} (hp : p ∈ (c.facetType name doc content kind library).particles)
    (hname : p.term.localName? = some (jsonElementName e)) : p = c.elementParticle library e := by
  -- attributes count too, so at most one place has the name
  rw [ComplexTypeDef.fieldNames, List.count_append, List.count_filterMap] at hcount
  have hone : (c.facetType name doc content kind library).particles.countP
      (fun p => p.term.localName? == some (jsonElementName e)) ≤ 1 := by
    omega
  refine eq_of_countP_le_one hone (c.mem_particles_facetType library name doc kind he) ?_ hp
    (beq_iff_eq.mpr hname)
  rw [localName?_elementParticle, beq_self_eq_true]

/-- An element whose name no other field has is the property of that name. -/
theorem find?_properties (he : e ∈ content.elements)
    (hcount : ((c.contentProperties style content).map Prod.fst).count (jsonElementName e) = 1) :
    (c.contentSchema style content).properties.find? (jsonElementName e) =
      some (c.elementSchema style e) := by
  have hmem : (jsonElementName e, c.elementSchema style e) ∈ c.contentProperties style content :=
    List.mem_append_left _ (List.mem_append_right _ (List.mem_map.mpr ⟨e, he, rfl⟩))
  rw [List.count_eq_countP, List.countP_map] at hcount
  rw [properties_contentSchema]
  -- of two entries with the name the later would win, but there is one
  refine Keyed.find?_ofList hmem fun w hw => ?_
  have heq := eq_of_countP_le_one hcount.le hmem (beq_self_eq_true _) hw (beq_self_eq_true _)
  exact (Prod.mk.inj heq).2

end

/-- The type of a content in XML and its schema in JSON have the same fields, those
of the content, and the same ones are required, in order. An element that is
contained, and whose name no other field has, is at one place of the type; its
schema is a list of the schema of its type exactly when that place admits more
than one, and then of as many as the place. -/
theorem fields_match_properties (c : GenerationContext) (style : RefStyle)
    (content : FacetContent) (kind : Option FacetKind) (name : String) (doc : Option String)
    (library : LibraryId) :
    let t := c.facetType name doc content kind library
    let j := c.contentSchema style content
    (∀ n, n ∈ j.properties.keys ↔ n ∈ t.fieldNames) ∧
    t.fieldNames.Perm
      (content.attributes.map Attribute.name ++
        (content.elements.map fun e =>
          if e.byReference then e.propertyName ++ "Ref" else e.propertyName) ++
        content.indicators.map Indicator.name) ∧
    j.requiredNames = t.requiredNames ∧
    (∀ e ∈ content.elements, e.byReference = false → t.fieldNames.count e.propertyName = 1 →
      ∃ p ∈ t.particles, p.term.localName? = some e.propertyName ∧
        (∀ q ∈ t.particles, q.term.localName? = some e.propertyName → q = p) ∧
        ∃ schema, j.properties.find? e.propertyName = some schema ∧
          ((∃ most, schema.IsListOf (c.typeSchema style e.type) most) ↔ p.IsRepeating) ∧
          (p.IsRepeating → schema.IsListOf (c.typeSchema style e.type) p.maxOccurs) ∧
          (¬ p.IsRepeating → schema = c.typeSchema style e.type)) := by
  intro t j
  have hperm := c.perm_fieldNames library name doc content kind style
  refine ⟨?_, ?_, ?_, ?_⟩
  · intro n
    rw [← hperm.mem_iff, Keyed.mem_keys, c.properties_contentSchema style content,
      Keyed.isSome_find?_ofList]
  · rw [map_fst_contentProperties] at hperm
    exact hperm.symm
  · rw [c.requiredNames_contentSchema, c.requiredNames_facetType]
  · intro e he href hcount
    rw [← jsonElementName_of_contained href] at hcount ⊢
    refine ⟨c.elementParticle library e, c.mem_particles_facetType library name doc kind he,
      c.localName?_elementParticle library e, ?_, c.elementSchema style e, ?_,
      c.elementSchema_repeats library href⟩
    · exact fun q hq hname => c.eq_elementParticle he hcount hq hname
    · exact c.find?_properties he (hperm.count_eq _ ▸ hcount)

/-- A content with an attribute, an element that occurs up to three times, one by
reference and an indicator. -/
def sampleContent : FacetContent :=
  { attributes :=
      [{ name := "code", type := .unbound "xsd:string", mandatory := true, documentation := none }]
    elements :=
      [ { name := "Stop", type := .unbound "xsd:date", mandatory := true, maxRepeat := 3
          unbounded := false, byReference := false, documentation := none },
        { name := "Guest", type := .unbound "Person", mandatory := false, maxRepeat := 0
          unbounded := true, byReference := true, documentation := none } ]
    indicators := [{ name := "open", publishAsElement := true, documentation := none }] }

/-- In the sample `Stop` is a list of up to three, and it is required after the
attribute. -/
theorem sampleContent_stops :
    let c : GenerationContext := { model := {}, scope := {}, options := default }
    let t := c.facetType "Trip_Summary" none sampleContent (some .summary) ⟨0⟩
    let j := c.contentSchema .components sampleContent
    t.fieldNames.count "Stop" = 1 ∧ j.requiredNames = ["code", "Stop"] ∧
      ∃ schema, j.properties.find? "Stop" = some schema ∧
        schema.IsListOf (c.typeSchema .components (.unbound "xsd:date")) (some 3) := by
  intro c t j
  obtain ⟨-, -, hrequired, hfields⟩ :=
    fields_match_properties c .components sampleContent (some .summary) "Trip_Summary" none ⟨0⟩
  have hcount : t.fieldNames.count "Stop" = 1 := by decide +kernel
  obtain ⟨p, hp, hname, -, schema, hschema, -, hlist, -⟩ :=
    hfields sampleContent.elements[0] (by decide +kernel) rfl hcount
  have hmost : p.maxOccurs = some 3 := by
    have hstops : ∀ q ∈ t.particles, q.term.localName? = some "Stop" → q.maxOccurs = some 3 := by
      decide +kernel
    exact hstops p hp hname
  refine ⟨hcount, hrequired.trans (by decide +kernel), schema, hschema, ?_⟩
  rw [← hmost]
  exact hlist (Or.inr ⟨3, hmost, by decide⟩)

end GenerationContext

end TravelModel
