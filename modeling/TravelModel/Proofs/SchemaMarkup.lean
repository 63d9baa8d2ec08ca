import TravelModel.Proofs.Linking
import TravelModel.Proofs.XmlTokens
import TravelModel.Xsd.Writer

/-!
# TravelModel — the elements of a written schema

The markup of a schema as a list of its elements, each with its tag and its attributes, in
the order in which they are opened. What the components of a schema bring is a fixed
vocabulary of tags and attribute names; only the declarations of prefixes on the root
depend on more.

Main results:

* `elements_documented`, `elements_leafIfEmpty` — the elements of the two forms that an
  element with optional content takes.
* `known_component` — the tags and attribute names of components are in the vocabulary.
* `mem_rootAttributes_xmlns` — the prefixes that the root of a schema declares.
* `namesIn_markup` — the names that are written in a schema are the references of its
  components, in order.
* `declared_text` — a qualified name is written with a prefix that the root declares for its
  namespace and for no other.
-/

namespace TravelModel

namespace Markup

/-- The attributes of an element. -/
def attributes : Markup → List (String × String)
  | leaf _ attributes | text _ attributes _ | node _ attributes _ => attributes

end Markup

namespace Xsd

open Markup

/-! ## Elements of components -/

/-- The elements of an annotation. -/
def annotationElements (doc : Option String) : List Heading :=
  if doc.isSome then [⟨"xsd:annotation", [], false⟩, ⟨"xsd:documentation", [], true⟩] else []

@[simp] theorem elements_documentationMarkup (doc : Option String) :
    (documentationMarkup doc).flatMap elements = annotationElements doc := by
  cases doc <;> rfl

@[simp] theorem elements_documented (tag : String) (attributes : List (String × String))
    (doc : Option String) :
    (documented tag attributes doc).elements =
      ⟨tag, attributes, false⟩ :: annotationElements doc := by
  cases doc <;> rfl

@[simp] theorem elements_leafIfEmpty (tag : String) (attributes : List (String × String))
    (children : List Markup) :
    (leafIfEmpty tag attributes children).elements =
      ⟨tag, attributes, false⟩ :: children.flatMap elements := by
  cases children with
  | nil => rfl
  | cons m rest => exact elements_node tag attributes (m :: rest)

/-- The tags of a schema below its root, with the names of their attributes in order. -/
def vocabulary : List (String × List String) :=
  [ ("xsd:annotation", []), ("xsd:documentation", []),
    ("xsd:include", ["schemaLocation"]), ("xsd:import", ["namespace"]),
    ("xsd:import", ["namespace", "schemaLocation"]),
    ("xsd:simpleType", ["name"]), ("xsd:restriction", ["base"]), ("xsd:list", ["itemType"]),
    ("xsd:pattern", ["value"]), ("xsd:minLength", ["value"]), ("xsd:maxLength", ["value"]),
    ("xsd:fractionDigits", ["value"]), ("xsd:totalDigits", ["value"]),
    ("xsd:minInclusive", ["value"]), ("xsd:maxInclusive", ["value"]),
    ("xsd:enumeration", ["value"]),
    ("xsd:complexType", ["name"]), ("xsd:simpleContent", []), ("xsd:complexContent", []),
    ("xsd:extension", ["base"]), ("xsd:sequence", []),
    ("xsd:attribute", ["name", "type", "use"]),
    ("xsd:element", ["name", "type"]), ("xsd:element", ["name", "type", "minOccurs"]),
    ("xsd:element", ["name", "type", "maxOccurs"]),
    ("xsd:element", ["name", "type", "minOccurs", "maxOccurs"]),
    ("xsd:element", ["ref"]), ("xsd:element", ["ref", "minOccurs"]),
    ("xsd:element", ["ref", "maxOccurs"]), ("xsd:element", ["ref", "minOccurs", "maxOccurs"]),
    ("xsd:element", ["name", "type", "substitutionGroup"]) ]

/-- The tags behind which text stands. -/
def isTextual (tag : String) : Bool :=
  tag = "xsd:documentation"

/-- Whether an element is in the vocabulary. -/
def Known (e : Heading) : Prop :=
  (e.tag, e.attributes.map Prod.fst) ∈ vocabulary ∧ e.holdsText = isTextual e.tag

section

variable {prefixes : Keyed String}

theorem known_of_keys {tag : String} {as : List (String × String)} {holdsText : Bool}
    (keys : List String) (hkeys : as.map Prod.fst = keys)
    (h : (tag, keys) ∈ vocabulary ∧ holdsText = isTextual tag) : Known ⟨tag, as, holdsText⟩ :=
  ⟨hkeys ▸ h.1, h.2⟩

theorem known_map {α : Type} {f : α → Markup} (h : ∀ a, ∀ e ∈ (f a).elements, Known e)
    (as : List α) : ∀ e ∈ (as.map f).flatMap elements, Known e := by
  intro e he
  rw [List.flatMap_map, List.mem_flatMap] at he
  obtain ⟨a, -, he⟩ := he
  exact h a e he

theorem known_annotations (doc : Option String) : ∀ e ∈ annotationElements doc, Known e := by
  cases doc with
  | none => exact fun e he => absurd he List.not_mem_nil
  | some text =>
    exact List.forall_mem_cons.mpr ⟨known_of_keys [] rfl (by decide),
      List.forall_mem_singleton.mpr (known_of_keys [] rfl (by decide))⟩

theorem known_documented {tag : String} {as : List (String × String)} (doc : Option String)
    (h : Known ⟨tag, as, false⟩) : ∀ e ∈ (documented tag as doc).elements, Known e := by
  rw [elements_documented, List.forall_mem_cons]
  exact ⟨h, known_annotations doc⟩

theorem known_leafIfEmpty {tag : String} {as : List (String × String)} {children : List Markup}
    (h : Known ⟨tag, as, false⟩) (hchildren : ∀ e ∈ children.flatMap elements, Known e) :
    ∀ e ∈ (leafIfEmpty tag as children).elements, Known e := by
  rw [elements_leafIfEmpty, List.forall_mem_cons]
  exact ⟨h, hchildren⟩

theorem known_node {tag : String} {as : List (String × String)} {children : List Markup}
    (h : Known ⟨tag, as, false⟩) (hchildren : ∀ e ∈ children.flatMap elements, Known e) :
    ∀ e ∈ (Markup.node tag as children).elements, Known e := by
  rw [elements_node, List.forall_mem_cons]
  exact ⟨h, hchildren⟩

theorem known_singleton {m : Markup} (h : ∀ e ∈ m.elements, Known e) :
    ∀ e ∈ [m].flatMap elements, Known e := by
  rwa [List.flatMap_singleton]

/-- The tags of facets. -/
def facetTags : List String :=
  [ "xsd:pattern", "xsd:minLength", "xsd:maxLength", "xsd:fractionDigits", "xsd:totalDigits",
    "xsd:minInclusive", "xsd:maxInclusive", "xsd:enumeration" ]

theorem tag_mem_facetTags (f : Facet) : f.tag ∈ facetTags := by
  cases f <;> simp [Facet.tag, facetTags]

theorem known_facet (f : Facet) : ∀ e ∈ f.markup.elements, Known e := by
  have hlisted : ∀ tag ∈ facetTags, (tag, ["value"]) ∈ vocabulary ∧ false = isTextual tag := by
    decide
  exact known_documented _ (known_of_keys ["value"] rfl (hlisted _ (tag_mem_facetTags f)))

theorem known_simpleType (t : SimpleTypeDef) : ∀ e ∈ (t.markup prefixes).elements, Known e := by
  refine known_node (known_of_keys ["name"] rfl (by decide)) ?_
  rw [List.flatMap_append, elements_documentationMarkup, List.forall_mem_append]
  refine ⟨known_annotations _, known_singleton ?_⟩
  cases t.derivation with
  | restriction base facets =>
    exact known_leafIfEmpty (known_of_keys ["base"] rfl (by decide)) (known_map known_facet facets)
  | list item =>
    exact List.forall_mem_singleton.mpr (known_of_keys ["itemType"] rfl (by decide))

theorem known_attribute (a : AttributeDef) : ∀ e ∈ (a.markup prefixes).elements, Known e :=
  known_documented _ (known_of_keys ["name", "type", "use"] rfl (by decide))

/-- The names of the attributes that say how often something occurs. -/
def occursKeys : List (List String) :=
  [[], ["minOccurs"], ["maxOccurs"], ["minOccurs", "maxOccurs"]]

theorem keys_occurs (p : Particle) : p.occurs.map Prod.fst ∈ occursKeys := by
  rw [Particle.occurs, occursKeys]
  cases p.maxOccurs with
  | none => by_cases h : p.minOccurs = 1 <;> simp [h]
  | some n => by_cases h : p.minOccurs = 1 <;> by_cases h' : n = 1 <;> simp [h, h']

theorem fst_of_mem_occurs {p : Particle} {a : String × String} (h : a ∈ p.occurs) :
    a.1 ∈ ["minOccurs", "maxOccurs"] := by
  have hkeys : ∀ keys ∈ occursKeys, ∀ key ∈ keys, key ∈ ["minOccurs", "maxOccurs"] := by decide
  exact hkeys _ (keys_occurs p) a.1 (List.mem_map_of_mem h)

theorem known_particle (p : Particle) : ∀ e ∈ (p.markup prefixes).elements, Known e := by
  rw [Particle.markup]
  cases p.term with
  | element name type doc =>
    have hlisted : ∀ keys ∈ occursKeys, ("xsd:element", ["name", "type"] ++ keys) ∈ vocabulary ∧
        false = isTextual "xsd:element" := by
      decide
    exact known_documented doc (known_of_keys _ List.map_append (hlisted _ (keys_occurs p)))
  | ref name =>
    have hlisted : ∀ keys ∈ occursKeys, ("xsd:element", "ref" :: keys) ∈ vocabulary ∧
        false = isTextual "xsd:element" := by
      decide
    exact List.forall_mem_singleton.mpr (known_of_keys _ List.map_cons (hlisted _ (keys_occurs p)))

theorem known_sequence (ps : List Particle) :
    ∀ e ∈ (sequenceMarkup prefixes ps).elements, Known e :=
  known_leafIfEmpty (known_of_keys [] rfl (by decide)) (known_map known_particle ps)

theorem known_complexType (t : ComplexTypeDef) : ∀ e ∈ (t.markup prefixes).elements, Known e := by
  have hattributes : ∀ e ∈ (t.attributes.map (AttributeDef.markup prefixes)).flatMap elements,
      Known e := known_map known_attribute t.attributes
  -- a sequence with attributes behind it stands in both kinds of complex content
  have hsequence : ∀ ps : List Particle, ∀ e ∈ (sequenceMarkup prefixes ps ::
      t.attributes.map (AttributeDef.markup prefixes)).flatMap elements, Known e := by
    intro ps
    rw [List.flatMap_cons, List.forall_mem_append]
    exact ⟨known_sequence ps, hattributes⟩
  refine known_node (known_of_keys ["name"] rfl (by decide)) ?_
  rw [List.flatMap_append, elements_documentationMarkup, List.forall_mem_append]
  refine ⟨known_annotations _, ?_⟩
  cases t.content with
  | sequence ps => exact hsequence ps
  | extension base ps =>
    exact known_singleton (known_node (known_of_keys [] rfl (by decide)) (known_singleton
      (known_node (known_of_keys ["base"] rfl (by decide)) (hsequence ps))))
  | simpleExtension base =>
    exact known_singleton (known_node (known_of_keys [] rfl (by decide)) (known_singleton
      (known_leafIfEmpty (known_of_keys ["base"] rfl (by decide)) hattributes)))

theorem known_element (k : ElementDef) : ∀ e ∈ (k.markup prefixes).elements, Known e := by
  refine known_documented _ ?_
  cases k.substitutionGroup with
  | none => exact known_of_keys ["name", "type"] rfl (by decide)
  | some g => exact known_of_keys ["name", "type", "substitutionGroup"] rfl (by decide)

theorem known_component (k : Component) : ∀ e ∈ (k.markup prefixes).elements, Known e := by
  cases k with
  | simpleType t => exact known_simpleType t
  | complexType t => exact known_complexType t
  | element e => exact known_element e

theorem known_include (l : String) :
    ∀ e ∈ (Markup.leaf "xsd:include" [("schemaLocation", l)]).elements, Known e :=
  List.forall_mem_singleton.mpr (known_of_keys ["schemaLocation"] rfl (by decide))

theorem known_import (i : Import) : ∀ e ∈ i.markup.elements, Known e := by
  refine List.forall_mem_singleton.mpr ?_
  cases i.location with
  | none => exact known_of_keys ["namespace"] rfl (by decide)
  | some l => exact known_of_keys ["namespace", "schemaLocation"] rfl (by decide)

/-- What stands below the root of a schema. -/
def Schema.children (prefixes : Keyed String) (s : Schema) : List Markup :=
  documentationMarkup s.documentation ++
    (s.includes.map fun l => .leaf "xsd:include" [("schemaLocation", l)]) ++
    s.imports.map Import.markup ++ s.components.map (Component.markup prefixes)

/-- All elements below the root of a schema are in the vocabulary. -/
theorem known_children (s : Schema) :
    ∀ e ∈ (s.children prefixes).flatMap elements, Known e := by
  rw [Schema.children, List.flatMap_append, List.flatMap_append, List.flatMap_append,
    elements_documentationMarkup]
  simp only [List.forall_mem_append]
  exact ⟨⟨⟨known_annotations _, known_map known_include s.includes⟩,
    known_map known_import s.imports⟩, known_map known_component s.components⟩

/-! ## Written names -/

/-- The attributes that hold the name of a type or of an element. -/
def nameKeys : List String :=
  ["type", "base", "itemType", "ref", "substitutionGroup"]

/-- The names of types and elements that attributes hold. -/
def namesAmong (as : List (String × String)) : List String :=
  (as.filter fun a => nameKeys.contains a.1).map Prod.snd

/-- The names of types and elements that the attributes of some elements hold. -/
def namesIn (es : List Heading) : List String :=
  es.flatMap fun e => namesAmong e.attributes

@[simp] theorem namesIn_cons (e : Heading) (es : List Heading) :
    namesIn (e :: es) = namesAmong e.attributes ++ namesIn es :=
  List.flatMap_cons

@[simp] theorem namesIn_append (es fs : List Heading) :
    namesIn (es ++ fs) = namesIn es ++ namesIn fs :=
  List.flatMap_append

@[simp] theorem namesIn_annotations (doc : Option String) :
    namesIn (annotationElements doc) = [] := by
  cases doc <;> rfl

@[simp] theorem namesAmong_append (as bs : List (String × String)) :
    namesAmong (as ++ bs) = namesAmong as ++ namesAmong bs := by
  rw [namesAmong, List.filter_append, List.map_append]
  rfl

theorem namesIn_flatMap {α : Type} (as : List α) (f : α → Markup) :
    namesIn ((as.map f).flatMap elements) = as.flatMap fun a => namesIn (f a).elements := by
  rw [namesIn, List.flatMap_map, List.flatMap_assoc]
  rfl

theorem namesIn_eq_nil {α : Type} (as : List α) {f : α → Markup}
    (h : ∀ a, namesIn (f a).elements = []) : namesIn ((as.map f).flatMap elements) = [] := by
  rw [namesIn_flatMap, List.flatMap_eq_nil_iff]
  exact fun a _ => h a

theorem namesIn_facet (f : Facet) : namesIn f.markup.elements = [] := by
  unfold Facet.markup
  rw [elements_documented, namesIn_cons, namesIn_annotations]
  rfl

theorem namesAmong_occurs (p : Particle) : namesAmong p.occurs = [] := by
  have hkeys : ∀ key ∈ ["minOccurs", "maxOccurs"], ¬ nameKeys.contains key = true := by decide
  rw [namesAmong, List.map_eq_nil_iff, List.filter_eq_nil_iff]
  exact fun a ha => hkeys a.1 (fst_of_mem_occurs ha)

theorem namesIn_particle (p : Particle) :
    namesIn (p.markup prefixes).elements = [p.term.reference.text prefixes] := by
  rw [Particle.markup]
  cases p.term with
  | element name type doc =>
    rw [elements_documented, namesIn_cons, namesIn_annotations, namesAmong_append,
      namesAmong_occurs]
    rfl
  | ref name =>
    rw [elements_leaf, namesIn_cons, ← List.singleton_append, namesAmong_append, namesAmong_occurs]
    rfl

theorem namesIn_attribute (a : AttributeDef) :
    namesIn (a.markup prefixes).elements = [a.type.text prefixes] := by
  rw [AttributeDef.markup, elements_documented, namesIn_cons, namesIn_annotations]
  rfl

theorem namesIn_sequence (ps : List Particle) :
    namesIn (sequenceMarkup prefixes ps).elements =
      (ps.map fun p => p.term.reference).map (QName.text prefixes) := by
  rw [sequenceMarkup, elements_leafIfEmpty, namesIn_cons, namesIn_flatMap, List.map_map,
    List.map_eq_flatMap]
  simp only [namesIn_particle]
  rfl

theorem namesIn_attributes (as : List AttributeDef) :
    namesIn ((as.map (AttributeDef.markup prefixes)).flatMap elements) =
      (as.map AttributeDef.type).map (QName.text prefixes) := by
  rw [namesIn_flatMap, List.map_map, List.map_eq_flatMap]
  simp only [namesIn_attribute]
  rfl

/-- The names that are written in a component are its references, in order. -/
theorem namesIn_component (k : Component) :
    namesIn (k.markup prefixes).elements = k.references.map (QName.text prefixes) := by
  cases k with
  | simpleType t =>
    rw [Component.markup, SimpleTypeDef.markup, elements_node, List.flatMap_append,
      elements_documentationMarkup, namesIn_cons, namesIn_append,
      namesIn_annotations, Component.references]
    cases t.derivation with
    | restriction base facets =>
      rw [List.flatMap_singleton, elements_leafIfEmpty, namesIn_cons,
        namesIn_eq_nil facets namesIn_facet]
      rfl
    | list item => rfl
  | complexType t =>
    rw [Component.markup, ComplexTypeDef.markup, elements_node, List.flatMap_append,
      elements_documentationMarkup, namesIn_cons, namesIn_append,
      namesIn_annotations, Component.references]
    cases t.content with
    | sequence ps =>
      rw [List.flatMap_cons, namesIn_append, namesIn_sequence, namesIn_attributes,
        List.map_append]
      rfl
    | extension base ps =>
      simp only [List.flatMap_cons, List.flatMap_nil, List.append_nil, elements_node,
        namesIn_cons, namesIn_append, namesIn_sequence,
        namesIn_attributes, List.cons_append, List.map_cons, List.map_append]
      rfl
    | simpleExtension base =>
      simp only [List.flatMap_cons, List.flatMap_nil, List.append_nil, elements_node,
        elements_leafIfEmpty, namesIn_cons, namesIn_attributes]
      rfl
  | element e =>
    rw [Component.markup, ElementDef.markup, elements_documented, namesIn_cons,
      namesIn_annotations, Component.references]
    cases e.substitutionGroup <;> simp [namesAmong, nameKeys]

/-- The names that are written below the root of a schema are its references, in order. -/
theorem namesIn_children (s : Schema) :
    namesIn ((s.children prefixes).flatMap elements) = s.references.map (QName.text prefixes) := by
  have hinclude : ∀ l, namesIn (Markup.leaf "xsd:include" [("schemaLocation", l)]).elements = [] :=
    fun l => rfl
  have himport : ∀ i : Import, namesIn i.markup.elements = [] := by
    intro i
    rw [Import.markup, elements_leaf]
    cases i.location <;> rfl
  rw [Schema.children, List.flatMap_append, List.flatMap_append, List.flatMap_append,
    elements_documentationMarkup, namesIn_append, namesIn_append, namesIn_append,
    namesIn_annotations, namesIn_eq_nil s.includes hinclude, namesIn_eq_nil s.imports himport,
    namesIn_flatMap, Schema.references, List.map_flatMap]
  simp only [namesIn_component, List.nil_append]

/-! ## The root -/

/-- The attributes of the root of a schema. -/
def Schema.rootAttributes (prefixes : Keyed String) (s : Schema) : List (String × String) :=
  s.declarations prefixes ++
    (s.targetNamespace.map fun ns => ("targetNamespace", ns)).toList ++
    (s.version.map fun v => ("version", v)).toList ++
    [("elementFormDefault", "qualified"), ("attributeFormDefault", "unqualified")]

theorem markup_eq (s : Schema) :
    s.markup prefixes = .node "xsd:schema" (s.rootAttributes prefixes) (s.children prefixes) :=
  rfl

theorem xmlns_ne {key : String} (h : key.toList.head? ≠ some 'x') (p : String) :
    "xmlns:" ++ p ≠ key := by
  rintro rfl
  exact h (by simp)

theorem mem_declarations {s : Schema} {a : String × String} :
    a ∈ s.declarations prefixes ↔ a = ("xmlns:" ++ "xsd", primitiveNamespace) ∨
      ∃ ns p, ns ∈ s.namespaces ∧ ns ≠ primitiveNamespace ∧ prefixes.find? ns = some p ∧
        a = ("xmlns:" ++ p, ns) := by
  simp only [Schema.declarations, List.mem_cons, List.mem_filterMap, List.mem_filter,
    Option.map_eq_some_iff, decide_eq_true_eq]
  refine or_congr Iff.rfl ⟨?_, ?_⟩
  · rintro ⟨ns, ⟨hns, hne⟩, p, hp, rfl⟩
    exact ⟨ns, p, hns, hne, hp, rfl⟩
  · rintro ⟨ns, p, hns, hne, hp, rfl⟩
    exact ⟨ns, ⟨hns, hne⟩, p, hp, rfl⟩

/-- The attributes of a root that declare no prefix. -/
def rootKeys : List String :=
  ["targetNamespace", "version", "elementFormDefault", "attributeFormDefault"]

theorem xmlns_not_mem_rootKeys (p : String) : "xmlns:" ++ p ∉ rootKeys := by
  have hkeys : ∀ key ∈ rootKeys, key.toList.head? ≠ some 'x' := by decide
  exact fun hmem => xmlns_ne (hkeys _ hmem) p rfl

theorem mem_rootAttributes {s : Schema} {a : String × String}
    (h : a ∈ s.rootAttributes prefixes) : a ∈ s.declarations prefixes ∨ a.1 ∈ rootKeys := by
  simp only [Schema.rootAttributes, List.mem_append, Option.mem_toList, Option.map_eq_some_iff,
    List.mem_cons, List.not_mem_nil, or_false] at h
  rcases h with ((h | ⟨ns, -, rfl⟩) | ⟨v, -, rfl⟩) | rfl | rfl
  · exact Or.inl h
  all_goals exact Or.inr (by simp [rootKeys])

/-- The prefixes that the root of a schema declares, and what they stand for. -/
theorem mem_rootAttributes_xmlns {s : Schema} {p v : String} :
    ("xmlns:" ++ p, v) ∈ s.rootAttributes prefixes ↔
      p = "xsd" ∧ v = primitiveNamespace ∨
        v ∈ s.namespaces ∧ v ≠ primitiveNamespace ∧ prefixes.find? v = some p := by
  have hroot : ("xmlns:" ++ p, v) ∈ s.rootAttributes prefixes ↔
      ("xmlns:" ++ p, v) ∈ s.declarations prefixes := by
    refine ⟨fun h => (mem_rootAttributes h).resolve_right (xmlns_not_mem_rootKeys p), fun h => ?_⟩
    rw [Schema.rootAttributes, List.append_assoc, List.append_assoc]
    exact List.mem_append_left _ h
  simp only [hroot, mem_declarations, Prod.mk.injEq, String.append_right_inj]
  refine or_congr Iff.rfl ⟨?_, ?_⟩
  · rintro ⟨ns, q, hns, hne, hq, rfl, rfl⟩
    exact ⟨hns, hne, hq⟩
  · rintro ⟨hns, hne, hp⟩
    exact ⟨v, p, hns, hne, hp, rfl, rfl⟩

/-- The names that are written in a schema are its references, in order. -/
theorem namesIn_markup (s : Schema) :
    namesIn (s.markup prefixes).elements = s.references.map (QName.text prefixes) := by
  have hroot : namesAmong (s.rootAttributes prefixes) = [] := by
    rw [namesAmong, List.map_eq_nil_iff, List.filter_eq_nil_iff]
    intro a ha
    rw [List.contains_iff_mem]
    intro hmem
    have hnames : ∀ key ∈ nameKeys, key.toList.head? ≠ some 'x' ∧ key ∉ rootKeys := by decide
    rcases mem_rootAttributes ha with ha | ha
    · obtain ⟨p, hp⟩ : ∃ p, a.1 = "xmlns:" ++ p := by
        rcases mem_declarations.mp ha with rfl | ⟨ns, p, -, -, -, rfl⟩
        · exact ⟨_, rfl⟩
        · exact ⟨_, rfl⟩
      exact xmlns_ne (hnames _ hmem).1 p hp.symm
    · exact (hnames _ hmem).2 ha
  rw [markup_eq, elements_node, namesIn_cons, hroot, List.nil_append,
    namesIn_children]

theorem mem_namespaces {s : Schema} {ns : String} :
    ns ∈ s.namespaces ↔ s.targetNamespace = some ns ∨ (∃ i ∈ s.imports, i.ns = ns) ∨
      ∃ q ∈ s.references, q.ns = some ns := by
  simp only [Schema.namespaces, mem_sortedDistinct, List.mem_append, List.mem_map,
    List.mem_filterMap, Option.mem_toList, or_assoc]

/-- A prefix that the root of a schema declares, and that stands for one namespace. -/
structure Declares (root : Markup) (p ns : String) : Prop where
  declared : ("xmlns:" ++ p, ns) ∈ root.attributes
  only : ∀ o, ("xmlns:" ++ p, o) ∈ root.attributes → o = ns

/-- A qualified name is written with the prefix of its namespace, which the root
declares. -/
theorem declared_text {s : Schema} (hseparate : Separate prefixes)
    (hxsd : ∀ o ∈ s.namespaces, o ≠ primitiveNamespace → prefixes.find? o ≠ some "xsd")
    {q : QName} (hq : q ∈ s.references) {ns : String} (hns : q.ns = some ns)
    (hsome : ns ≠ primitiveNamespace → (prefixes.find? ns).isSome) :
    ∃ p, (ns = primitiveNamespace ∧ p = "xsd" ∨
        ns ≠ primitiveNamespace ∧ prefixes.find? ns = some p) ∧
      q.text prefixes = p ++ ":" ++ q.name ∧ Declares (s.markup prefixes) p ns := by
  rw [QName.text, hns]
  dsimp only
  by_cases hprimitive : ns = primitiveNamespace
  · refine ⟨"xsd", Or.inl ⟨hprimitive, rfl⟩, if_pos hprimitive,
      mem_rootAttributes_xmlns.mpr (Or.inl ⟨rfl, hprimitive⟩), fun o ho => ?_⟩
    rcases mem_rootAttributes_xmlns.mp ho with ⟨-, rfl⟩ | ⟨ho, hne, hfound⟩
    · exact hprimitive.symm
    · exact absurd hfound (hxsd o ho hne)
  · obtain ⟨p, hp⟩ := Option.isSome_iff_exists.mp (hsome hprimitive)
    have hmem : ns ∈ s.namespaces := mem_namespaces.mpr (Or.inr (Or.inr ⟨q, hq, hns⟩))
    refine ⟨p, Or.inr ⟨hprimitive, hp⟩, ?_,
      mem_rootAttributes_xmlns.mpr (Or.inr ⟨hmem, hprimitive, hp⟩), fun o ho => ?_⟩
    · rw [if_neg hprimitive, hp]
    · rcases mem_rootAttributes_xmlns.mp ho with ⟨rfl, -⟩ | ⟨-, -, hfound⟩
      · exact absurd hp (hxsd ns hmem hprimitive)
      · exact hseparate o ns p hfound hp

end

end Xsd

end TravelModel
