import TravelModel.Proofs.SchemaMarkup
import TravelModel.Proofs.XmlReading

/-!
# TravelModel — written schemas are read back

A reader of schemas, from the text over its tokens and its tree to the components. It goes
by tags and attributes alone and does not know how elements are laid out. Names with
prefixes stay as they are written; all else is the schema again.

Main results:

* `read?_component` — the markup of a component is read back, with its names as written.
* `ofMarkup?_markup` — so is the markup of a schema, with the prefixes it declares.
* `nodup_rootAttributes` — no prefix is declared twice.
* `write_faithful` — the text of a schema is one element whose tags match, and is read back.
-/

namespace TravelModel

namespace Markup

/-! ## Looking at elements -/

def tag : Markup → String
  | leaf tag _ | text tag _ _ | node tag _ _ => tag

def children : Markup → List Markup
  | leaf _ _ | text _ _ _ => []
  | node _ _ children => children

section

variable (t : String) (as : List (String × String)) (ms : List Markup)

@[simp] theorem tag_leaf : (leaf t as).tag = t := rfl
@[simp] theorem tag_node : (node t as ms).tag = t := rfl
@[simp] theorem attributes_leaf : (leaf t as).attributes = as := rfl
@[simp] theorem attributes_node : (node t as ms).attributes = as := rfl
@[simp] theorem children_node : (node t as ms).children = ms := rfl

end

/-- The value of an attribute. -/
def attribute? (key : String) (m : Markup) : Option String :=
  m.attributes.lookup key

end Markup

namespace Xsd

open Markup

section

variable (tag : String) (attributes : List (String × String))

@[simp] theorem tag_documented (doc : Option String) :
    (documented tag attributes doc).tag = tag := by
  cases doc <;> rfl

@[simp] theorem attributes_documented (doc : Option String) :
    (documented tag attributes doc).attributes = attributes := by
  cases doc <;> rfl

@[simp] theorem tag_leafIfEmpty (children : List Markup) :
    (leafIfEmpty tag attributes children).tag = tag := by
  cases children <;> rfl

@[simp] theorem attributes_leafIfEmpty (children : List Markup) :
    (leafIfEmpty tag attributes children).attributes = attributes := by
  cases children <;> rfl

@[simp] theorem children_leafIfEmpty (children : List Markup) :
    (leafIfEmpty tag attributes children).children = children := by
  cases children <;> rfl

end

/-- The documentation that elements begin with, and the elements behind it. -/
def splitDocumentation? : List Markup → Option (Option String × List Markup)
  | [] => some (none, [])
  | m :: rest =>
    if m.tag = "xsd:annotation" then
      match m.children with
      | [.text tag _ content] =>
        if tag = "xsd:documentation" then some (some content, rest) else none
      | _ => none
    else some (none, m :: rest)

/-- The documentation of an element that holds nothing else. -/
def documentation? (m : Markup) : Option (Option String) :=
  (splitDocumentation? m.children).bind fun r => if r.2.isEmpty then some r.1 else none

/-- Elements that do not begin with an annotation. -/
def Unannotated (ms : List Markup) : Prop :=
  ∀ m ∈ ms.head?, m.tag ≠ "xsd:annotation"

theorem splitDocumentation?_append (doc : Option String) {rest : List Markup}
    (h : Unannotated rest) :
    splitDocumentation? (documentationMarkup doc ++ rest) = some (doc, rest) := by
  cases doc with
  | some content => rfl
  | none =>
    cases rest with
    | nil => rfl
    | cons m rest => exact if_neg (h m rfl)

@[simp] theorem documentation?_documented (tag : String) (attributes : List (String × String))
    (doc : Option String) : documentation? (documented tag attributes doc) = some doc := by
  cases doc <;> rfl

/-- A number in decimal digits. -/
def number? (s : String) : Option Nat :=
  if s ≠ "" ∧ s.toList.all Char.isDigit = true then some (Nat.ofDigitChars 10 s.toList 0) else none

@[simp] theorem number?_repr (n : Nat) : number? n.repr = some n := by
  have hdigits : (Nat.toDigits 10 n).all Char.isDigit = true :=
    List.all_eq_true.mpr fun c hc => Nat.isDigit_of_mem_toDigits (by decide) (by decide) hc
  have hwritten : n.repr ≠ "" := fun h =>
    Nat.toDigits_ne_nil (by rw [← Nat.toList_repr, h]; rfl)
  rw [number?, if_pos ⟨hwritten, by rw [Nat.toList_repr, hdigits]⟩, Nat.toList_repr,
    Nat.ofDigitChars_ten_toDigits]

theorem repr_ne_unbounded (n : Nat) : n.repr ≠ "unbounded" := by
  intro h
  have hnone : number? "unbounded" = none := by decide
  rw [← h, number?_repr] at hnone
  exact Option.some_ne_none n hnone

/-! ## Components -/

/-- A facet. -/
def Facet.read? (m : Markup) : Option Facet := do
  let value ← m.attribute? "value"
  let doc ← documentation? m
  match m.tag with
  | "xsd:pattern" => some (.pattern value)
  | "xsd:minLength" => (number? value).map .minLength
  | "xsd:maxLength" => (number? value).map .maxLength
  | "xsd:fractionDigits" => (number? value).map .fractionDigits
  | "xsd:totalDigits" => (number? value).map .totalDigits
  | "xsd:minInclusive" => some (.minInclusive value)
  | "xsd:maxInclusive" => some (.maxInclusive value)
  | "xsd:enumeration" => some (.enumeration value doc)
  | _ => none

theorem read?_facet (f : Facet) : Facet.read? f.markup = some f := by
  cases f <;> simp [Facet.read?, Facet.markup, attribute?, Facet.tag, Facet.value]

/-- The name that an attribute holds, as it is written. -/
def name? (key : String) (m : Markup) : Option QName :=
  (m.attribute? key).map fun name => ⟨none, name⟩

/-- How often something occurs at least. -/
def least? (m : Markup) : Option Nat :=
  match m.attribute? "minOccurs" with
  | none => some 1
  | some v => number? v

/-- How often something occurs at most. -/
def most? (m : Markup) : Option (Option Nat) :=
  match m.attribute? "maxOccurs" with
  | none => some (some 1)
  | some v => if v = "unbounded" then some none else (number? v).map some

/-- An element that is declared in a sequence or referred to there. -/
def Term.read? (m : Markup) : Option Term :=
  match name? "ref" m with
  | some q => some (.ref q)
  | none => do return .element (← m.attribute? "name") (← name? "type" m) (← documentation? m)

def Particle.read? (m : Markup) : Option Particle :=
  if m.tag = "xsd:element" then do return ⟨← Term.read? m, ← least? m, ← most? m⟩ else none

def use? (m : Markup) : Option Bool :=
  match m.attribute? "use" with
  | some "required" => some true
  | some "optional" => some false
  | _ => none

def AttributeDef.read? (m : Markup) : Option AttributeDef :=
  if m.tag = "xsd:attribute" then do
    return ⟨← m.attribute? "name", ← name? "type" m, ← use? m, ← documentation? m⟩
  else none

def sequence? (m : Markup) : Option (List Particle) :=
  if m.tag = "xsd:sequence" then m.children.mapM Particle.read? else none

def SimpleDerivation.read? (m : Markup) : Option SimpleDerivation :=
  if m.tag = "xsd:restriction" then do
    return .restriction (← name? "base" m) (← m.children.mapM Facet.read?)
  else if m.tag = "xsd:list" then (name? "itemType" m).map .list
  else none

def SimpleTypeDef.read? (m : Markup) : Option SimpleTypeDef := do
  let (doc, rest) ← splitDocumentation? m.children
  match rest with
  | [d] => return ⟨← m.attribute? "name", doc, ← SimpleDerivation.read? d⟩
  | _ => none

/-- The extension that the content of a type consists of. -/
def extension? (m : Markup) : Option Markup :=
  match m.children with
  | [e] => if e.tag = "xsd:extension" then some e else none
  | _ => none

/-- The content of a complex type with the attributes that stand in it or behind it. -/
def content? : List Markup → Option (ComplexContent × List Markup)
  | [] => none
  | m :: rest =>
    if m.tag = "xsd:sequence" then do return (.sequence (← sequence? m), rest)
    else if rest ≠ [] then none
    else if m.tag = "xsd:complexContent" then do
      let e ← extension? m
      match e.children with
      | [] => none
      | ps :: attributes => return (.extension (← name? "base" e) (← sequence? ps), attributes)
    else if m.tag = "xsd:simpleContent" then do
      let e ← extension? m
      return (.simpleExtension (← name? "base" e), e.children)
    else none

def ComplexTypeDef.read? (m : Markup) : Option ComplexTypeDef := do
  let (doc, rest) ← splitDocumentation? m.children
  let (content, attributes) ← content? rest
  return ⟨← m.attribute? "name", doc, content, ← attributes.mapM AttributeDef.read?⟩

def ElementDef.read? (m : Markup) : Option ElementDef := do
  return ⟨← m.attribute? "name", ← name? "type" m, name? "substitutionGroup" m,
    ← documentation? m⟩

def Component.read? (m : Markup) : Option Component :=
  if m.tag = "xsd:simpleType" then (SimpleTypeDef.read? m).map .simpleType
  else if m.tag = "xsd:complexType" then (ComplexTypeDef.read? m).map .complexType
  else if m.tag = "xsd:element" then (ElementDef.read? m).map .element
  else none

def Import.read? (m : Markup) : Option Import := do
  return ⟨← m.attribute? "namespace", m.attribute? "schemaLocation"⟩

/-! ## Names as they are written -/

/-- A name as it is written. -/
def QName.shown (prefixes : Keyed String) (q : QName) : QName :=
  ⟨none, q.text prefixes⟩

section

variable (f : QName → QName)

def Term.mapNames : Term → Term
  | element name type doc => element name (f type) doc
  | ref name => ref (f name)

def Particle.mapNames (p : Particle) : Particle :=
  { p with term := p.term.mapNames f }

def AttributeDef.mapNames (a : AttributeDef) : AttributeDef :=
  { a with type := f a.type }

def SimpleDerivation.mapNames : SimpleDerivation → SimpleDerivation
  | restriction base facets => restriction (f base) facets
  | list item => list (f item)

def ComplexContent.mapNames : ComplexContent → ComplexContent
  | sequence ps => sequence (ps.map (Particle.mapNames f))
  | simpleExtension base => simpleExtension (f base)
  | extension base ps => extension (f base) (ps.map (Particle.mapNames f))

def Component.mapNames : Component → Component
  | simpleType t => simpleType { t with derivation := t.derivation.mapNames f }
  | complexType t =>
    complexType
      { t with
        content := t.content.mapNames f
        attributes := t.attributes.map (AttributeDef.mapNames f) }
  | element e =>
    element { e with type := f e.type, substitutionGroup := e.substitutionGroup.map f }

/-- A schema with its references put through a function; all else stays. -/
def Schema.mapNames (s : Schema) : Schema :=
  { s with components := s.components.map (Component.mapNames f) }

end

theorem mapM_map_eq_some {α β γ : Type} {f : α → β} {read : β → Option γ} {g : α → γ}
    (h : ∀ a, read (f a) = some (g a)) (as : List α) :
    (as.map f).mapM read = some (as.map g) := by
  induction as with
  | nil => rfl
  | cons a rest ih => rw [List.map_cons, List.mapM_cons, h, ih]; rfl

section

variable {prefixes : Keyed String}

/-- The attributes that say how often something occurs are read back, behind others. -/
theorem least?_most?_occurs {m : Markup} (others : List (String × String)) {p : Particle}
    (h : m.attributes = others ++ p.occurs) (hleast : others.lookup "minOccurs" = none)
    (hmost : others.lookup "maxOccurs" = none) :
    least? m = some p.minOccurs ∧ most? m = some p.maxOccurs := by
  rw [least?, most?, attribute?, attribute?, h, List.lookup_append, List.lookup_append, hleast,
    hmost, Particle.occurs]
  cases p.maxOccurs with
  | none => by_cases h : p.minOccurs = 1 <;> simp [h, List.lookup_cons]
  | some n =>
    by_cases h : p.minOccurs = 1 <;> by_cases h' : n = 1 <;>
      simp [h, h', List.lookup_cons, repr_ne_unbounded]

theorem read?_particle (p : Particle) :
    Particle.read? (p.markup prefixes) = some (p.mapNames (QName.shown prefixes)) := by
  -- without a reference among them, the element is one that is declared here
  have href : p.occurs.lookup "ref" = none := by
    have hkeys : ∀ key ∈ ["minOccurs", "maxOccurs"], "ref" ≠ key := by decide
    rw [List.lookup_eq_none_iff]
    exact fun a ha => bne_iff_ne.mpr (hkeys a.1 (fst_of_mem_occurs ha))
  rw [Particle.markup, Particle.mapNames]
  cases p.term with
  | element name type doc =>
    let others := [("name", name), ("type", type.text prefixes)]
    let m := documented "xsd:element" (others ++ p.occurs) doc
    have hattributes : m.attributes = others ++ p.occurs := attributes_documented _ _ _
    obtain ⟨hleast, hmost⟩ := least?_most?_occurs others hattributes rfl rfl
    have hread : Term.read? m = some (.element name (type.shown prefixes) doc) := by
      simp [m, others, Term.read?, name?, attribute?, List.lookup_cons, href, QName.shown]
    change Particle.read? m = _
    rw [Particle.read?, tag_documented, if_pos rfl, hread, hleast, hmost]
    rfl
  | ref name =>
    let others := [("ref", name.text prefixes)]
    let m : Markup := .leaf "xsd:element" (others ++ p.occurs)
    obtain ⟨hleast, hmost⟩ := least?_most?_occurs (m := m) others rfl rfl rfl
    change Particle.read? m = _
    rw [Particle.read?, if_pos (tag_leaf _ _), hleast, hmost]
    rfl

theorem read?_attribute (a : AttributeDef) :
    AttributeDef.read? (a.markup prefixes) = some (a.mapNames (QName.shown prefixes)) := by
  have huse : use? (a.markup prefixes) = some a.required := by
    cases hrequired : a.required <;>
      simp [use?, AttributeDef.markup, attribute?, List.lookup_cons, hrequired]
  rw [AttributeDef.read?, huse]
  simp [AttributeDef.markup, attribute?, name?, List.lookup_cons, AttributeDef.mapNames,
    QName.shown]

@[simp] theorem tag_sequenceMarkup (ps : List Particle) :
    (sequenceMarkup prefixes ps).tag = "xsd:sequence" :=
  tag_leafIfEmpty _ _ _

theorem read?_sequence (ps : List Particle) :
    sequence? (sequenceMarkup prefixes ps) =
      some (ps.map (Particle.mapNames (QName.shown prefixes))) := by
  rw [sequence?, tag_sequenceMarkup, if_pos rfl, sequenceMarkup, children_leafIfEmpty,
    mapM_map_eq_some read?_particle]

theorem unannotated_cons {m : Markup} (h : m.tag ≠ "xsd:annotation") (rest : List Markup) :
    Unannotated (m :: rest) := by
  intro k hk
  rwa [← Option.some.inj hk]

theorem read?_simpleType (t : SimpleTypeDef) :
    SimpleTypeDef.read? (t.markup prefixes) =
      some { t with derivation := t.derivation.mapNames (QName.shown prefixes) } := by
  obtain ⟨name, doc, derivation⟩ := t
  rw [SimpleTypeDef.read?, SimpleTypeDef.markup, children]
  cases derivation with
  | restriction base facets =>
    rw [splitDocumentation?_append doc (unannotated_cons (by simp) _)]
    simp [SimpleDerivation.read?, mapM_map_eq_some read?_facet, name?, attribute?,
      SimpleDerivation.mapNames, QName.shown]
  | list item =>
    rw [splitDocumentation?_append doc (unannotated_cons (by simp) _)]
    rfl

theorem read?_complexType (t : ComplexTypeDef) :
    ComplexTypeDef.read? (t.markup prefixes) =
      some { t with
        content := t.content.mapNames (QName.shown prefixes)
        attributes := t.attributes.map (AttributeDef.mapNames (QName.shown prefixes)) } := by
  obtain ⟨name, doc, content, attributes⟩ := t
  let attributeMarkups := attributes.map (AttributeDef.markup prefixes)
  have hattributes : attributeMarkups.mapM AttributeDef.read? =
      some (attributes.map (AttributeDef.mapNames (QName.shown prefixes))) :=
    mapM_map_eq_some read?_attribute attributes
  -- it is enough that the content is read back, whatever stands before it
  have hread : ∀ {rest}, Unannotated rest →
      content? rest = some (content.mapNames (QName.shown prefixes), attributeMarkups) →
      ComplexTypeDef.read? (.node "xsd:complexType" [("name", name)]
          (documentationMarkup doc ++ rest)) =
        some ⟨name, doc, content.mapNames (QName.shown prefixes),
          attributes.map (AttributeDef.mapNames (QName.shown prefixes))⟩ := by
    intro rest hrest hcontent
    rw [ComplexTypeDef.read?, children_node, splitDocumentation?_append doc hrest]
    simp [hcontent, hattributes, attribute?]
  rw [ComplexTypeDef.markup]
  cases content with
  | sequence ps =>
    refine hread (unannotated_cons (by simp) _) ?_
    simp [content?, read?_sequence, ComplexContent.mapNames, attributeMarkups]
  | extension base ps =>
    refine hread (unannotated_cons (by simp) _) ?_
    simp [content?, extension?, read?_sequence, name?, attribute?, ComplexContent.mapNames,
      QName.shown, attributeMarkups]
  | simpleExtension base =>
    refine hread (unannotated_cons (by simp) _) ?_
    simp [content?, extension?, name?, attribute?, ComplexContent.mapNames, QName.shown,
      attributeMarkups]

theorem read?_element (e : ElementDef) :
    ElementDef.read? (e.markup prefixes) = some
      { e with
        type := e.type.shown prefixes
        substitutionGroup := e.substitutionGroup.map (QName.shown prefixes) } := by
  obtain ⟨name, type, group, doc⟩ := e
  cases group <;>
    simp [ElementDef.read?, ElementDef.markup, attribute?, name?, List.lookup_cons, QName.shown]

/-- The tag of a component. -/
def Component.tag : Component → String
  | simpleType _ => "xsd:simpleType"
  | complexType _ => "xsd:complexType"
  | element _ => "xsd:element"

theorem tag_component (k : Component) : (k.markup prefixes).tag = k.tag := by
  cases k with
  | simpleType t => rfl
  | complexType t => rfl
  | element e => exact tag_documented _ _ _

/-- The markup of a component is read back, with its names as they are written. -/
theorem read?_component (k : Component) :
    Component.read? (k.markup prefixes) = some (k.mapNames (QName.shown prefixes)) := by
  rw [Component.read?, tag_component]
  cases k with
  | simpleType t =>
    rw [Component.tag, if_pos rfl, Component.markup, read?_simpleType]
    rfl
  | complexType t =>
    rw [Component.tag, if_neg (by decide), if_pos rfl, Component.markup, read?_complexType]
    rfl
  | element e =>
    rw [Component.tag, if_neg (by decide), if_neg (by decide), if_pos rfl, Component.markup,
      read?_element]
    rfl

theorem attribute?_include (location : String) :
    attribute? "schemaLocation" (.leaf "xsd:include" [("schemaLocation", location)]) =
      some location :=
  rfl

theorem read?_import (i : Import) : Import.read? i.markup = some i := by
  obtain ⟨ns, location⟩ := i
  cases location <;> simp [Import.read?, Import.markup, attribute?, List.lookup_cons]

/-! ## Schemas -/

/-- The prefixes that attributes declare, with what they stand for. -/
def declaredPrefixes (as : List (String × String)) : List (String × String) :=
  as.filterMap fun a =>
    ("xmlns:".toList.isPrefixOf? a.1.toList).map fun p => (String.ofList p, a.2)

theorem mem_declaredPrefixes {as : List (String × String)} {p ns : String} :
    (p, ns) ∈ declaredPrefixes as ↔ ("xmlns:" ++ p, ns) ∈ as := by
  simp only [declaredPrefixes, List.mem_filterMap, Option.map_eq_some_iff,
    List.isPrefixOf?_eq_some_iff_append_eq, Prod.mk.injEq]
  constructor
  · rintro ⟨⟨key, v⟩, hmem, cs, hcs, rfl, rfl⟩
    have hkey : "xmlns:" ++ String.ofList cs = key := by
      rw [← String.toList_inj, String.toList_append]
      exact (congrArg _ String.toList_ofList).trans hcs
    rwa [hkey]
  · intro hmem
    exact ⟨_, hmem, p.toList, String.toList_append.symm, String.ofList_toList, rfl⟩

/-- A schema with the prefixes that it declares: documentation, includes, imports and
components, in this order. -/
def Schema.ofMarkup? (root : Markup) : Option (List (String × String) × Schema) :=
  if root.tag = "xsd:schema" ∧ root.attribute? "elementFormDefault" = some "qualified" ∧
      root.attribute? "attributeFormDefault" = some "unqualified" then do
    let (documentation, rest) ← splitDocumentation? root.children
    let included := rest.takeWhile fun m => m.tag = "xsd:include"
    let behind := rest.dropWhile fun m => m.tag = "xsd:include"
    let imported := behind.takeWhile fun m => m.tag = "xsd:import"
    let declared := behind.dropWhile fun m => m.tag = "xsd:import"
    return (declaredPrefixes root.attributes,
      { targetNamespace := root.attribute? "targetNamespace"
        version := root.attribute? "version"
        documentation
        includes := ← included.mapM (attribute? "schemaLocation")
        imports := ← imported.mapM Import.read?
        components := ← declared.mapM Component.read? })
  else none

/-- A schema from its text. -/
def Schema.read? (text : String) : Option (List (String × String) × Schema) :=
  (Xml.read? isTextual text).bind Schema.ofMarkup?

theorem fst_not_mem_rootKeys {s : Schema} {a : String × String}
    (h : a ∈ s.declarations prefixes) : a.1 ∉ rootKeys := by
  rcases mem_declarations.mp h with rfl | ⟨ns, p, -, -, -, rfl⟩
  · exact xmlns_not_mem_rootKeys "xsd"
  · exact xmlns_not_mem_rootKeys p

theorem lookup_declarations (s : Schema) {key : String} (h : key ∈ rootKeys) :
    (s.declarations prefixes).lookup key = none := by
  rw [List.lookup_eq_none_iff]
  intro a ha
  rw [bne_iff_ne]
  rintro rfl
  exact fst_not_mem_rootKeys ha h

variable (prefixes) in
/-- The attributes of a root that declare no prefix. -/
theorem attribute?_markup (s : Schema) :
    (s.markup prefixes).attribute? "targetNamespace" = s.targetNamespace ∧
      (s.markup prefixes).attribute? "version" = s.version ∧
      (s.markup prefixes).attribute? "elementFormDefault" = some "qualified" ∧
      (s.markup prefixes).attribute? "attributeFormDefault" = some "unqualified" := by
  have hlookup : ∀ key ∈ rootKeys, (s.markup prefixes).attribute? key =
      ((s.targetNamespace.map fun ns => ("targetNamespace", ns)).toList ++
        (s.version.map fun v => ("version", v)).toList ++
        [("elementFormDefault", "qualified"),
          ("attributeFormDefault", "unqualified")]).lookup key := by
    intro key hkey
    rw [attribute?, markup_eq, attributes_node, Schema.rootAttributes, List.append_assoc,
      List.append_assoc, List.lookup_append, lookup_declarations s hkey, Option.none_or,
      List.append_assoc]
  rw [hlookup _ (by decide), hlookup _ (by decide), hlookup _ (by decide), hlookup _ (by decide)]
  cases s.targetNamespace <;> cases s.version <;> simp [List.lookup_cons]

theorem takeWhile_append_eq {α : Type} {p : α → Bool} {as bs : List α}
    (has : ∀ a ∈ as, p a = true) (hbs : ∀ b ∈ bs, p b = false) :
    (as ++ bs).takeWhile p = as ∧ (as ++ bs).dropWhile p = bs := by
  rw [List.takeWhile_append_of_pos has, List.dropWhile_append_of_pos has]
  cases bs with
  | nil => exact ⟨List.append_nil as, rfl⟩
  | cons b rest =>
    have hb : ¬ p b = true := by rw [hbs b List.mem_cons_self]; exact Bool.false_ne_true
    rw [List.takeWhile_cons_of_neg hb, List.dropWhile_cons_of_neg hb]
    exact ⟨List.append_nil as, rfl⟩

/-- The markup of a schema is read back, with the prefixes it declares. -/
theorem ofMarkup?_markup (s : Schema) :
    Schema.ofMarkup? (s.markup prefixes) =
      some (declaredPrefixes (s.rootAttributes prefixes), s.mapNames (QName.shown prefixes)) := by
  obtain ⟨htarget, hversion, helements, hattributes⟩ := attribute?_markup prefixes s
  let included : List Markup := s.includes.map fun l => .leaf "xsd:include" [("schemaLocation", l)]
  let imported := s.imports.map Import.markup
  let declared := s.components.map (Component.markup prefixes)
  have hincluded : ∀ m ∈ included, m.tag = "xsd:include" := by
    simp [included]
  have himported : ∀ m ∈ imported, m.tag = "xsd:import" := by
    simp [imported, Import.markup]
  have hdeclared : ∀ m ∈ declared, m.tag ≠ "xsd:annotation" ∧ m.tag ≠ "xsd:include" ∧
      m.tag ≠ "xsd:import" := by
    intro m hm
    obtain ⟨k, -, rfl⟩ := List.mem_map.mp hm
    rw [tag_component]
    cases k <;> simp [Component.tag]
  have hsplit : splitDocumentation? (s.markup prefixes).children =
      some (s.documentation, included ++ (imported ++ declared)) := by
    have hchildren : (s.markup prefixes).children =
        documentationMarkup s.documentation ++ (included ++ (imported ++ declared)) := by
      rw [markup_eq, children_node, Schema.children, List.append_assoc, List.append_assoc]
    rw [hchildren]
    refine splitDocumentation?_append _ fun m hm => ?_
    rcases List.mem_append.mp (List.mem_of_mem_head? hm) with hm | hm
    · rw [hincluded m hm]
      decide
    · rcases List.mem_append.mp hm with hm | hm
      · rw [himported m hm]
        decide
      · exact (hdeclared m hm).1
  obtain ⟨htake, hdrop⟩ := takeWhile_append_eq (p := fun m : Markup => m.tag = "xsd:include")
    (fun m hm => decide_eq_true (hincluded m hm))
    (List.forall_mem_append.mpr ⟨fun m hm => decide_eq_false (by rw [himported m hm]; decide),
      fun m hm => decide_eq_false (hdeclared m hm).2.1⟩)
  obtain ⟨htake', hdrop'⟩ := takeWhile_append_eq (p := fun m : Markup => m.tag = "xsd:import")
    (fun m hm => decide_eq_true (himported m hm))
    (fun m hm => decide_eq_false (hdeclared m hm).2.2)
  have hincludes : included.mapM (attribute? "schemaLocation") = some (s.includes.map id) :=
    mapM_map_eq_some attribute?_include s.includes
  have himports : imported.mapM Import.read? = some (s.imports.map id) :=
    mapM_map_eq_some read?_import s.imports
  have hcomponents : declared.mapM Component.read? =
      some (s.components.map (Component.mapNames (QName.shown prefixes))) :=
    mapM_map_eq_some read?_component s.components
  rw [List.map_id] at hincludes himports
  rw [Schema.ofMarkup?, if_pos ⟨rfl, helements, hattributes⟩, hsplit]
  simp only [Option.bind_eq_bind, Option.bind_some, htake, hdrop, htake', hdrop', hincludes,
    himports, hcomponents, htarget, hversion]
  rfl

/-! ## Texts -/

/-- A table that has a prefix of its own for each namespace of a schema: a name, and not the
one of the primitive types. -/
structure Covers (prefixes : Keyed String) (s : Schema) : Prop where
  separate : Separate prefixes
  named : ∀ ns ∈ s.namespaces, ns ≠ primitiveNamespace →
    ∃ p, prefixes.find? ns = some p ∧ Xml.isName p.toList = true ∧ p ≠ "xsd"

theorem Covers.ne_xsd {s : Schema} (h : Covers prefixes s) :
    ∀ ns ∈ s.namespaces, ns ≠ primitiveNamespace → prefixes.find? ns ≠ some "xsd" := by
  intro ns hns hne hfound
  obtain ⟨p, hp, -, hxsd⟩ := h.named ns hns hne
  exact hxsd (Option.some.inj (hp.symm.trans hfound))

theorem isName_rootAttributes {s : Schema} (h : Covers prefixes s) :
    ∀ a ∈ s.rootAttributes prefixes, Xml.isName a.1.toList = true := by
  intro a ha
  rcases mem_rootAttributes ha with ha | ha
  · rcases mem_declarations.mp ha with rfl | ⟨ns, p, hns, hne, hp, rfl⟩
    · decide
    · obtain ⟨q, hq, hname, -⟩ := h.named ns hns hne
      rw [Option.some.inj (hp.symm.trans hq), String.toList_append]
      exact Xml.isName_append (by decide) hname
  · exact (by decide : ∀ key ∈ rootKeys, Xml.isName key.toList = true) a.1 ha

theorem named_of_known {e : Heading} (h : Known e) :
    e.Named ∧ (e.attributes.map Prod.fst).Nodup := by
  have hall : ∀ v ∈ vocabulary, Xml.isName v.1.toList = true ∧
      (∀ key ∈ v.2, Xml.isName key.toList = true) ∧ v.2.Nodup := by
    decide +kernel
  obtain ⟨htag, hkeys, hnodup⟩ := hall _ h.1
  exact ⟨⟨htag, fun a ha => hkeys a.1 (List.mem_map_of_mem ha)⟩, hnodup⟩

/-- No two prefixes that a root declares are the same. -/
theorem nodup_declarations {s : Schema} (h : Covers prefixes s) :
    ((s.declarations prefixes).map Prod.fst).Nodup := by
  have hnamespaces : (s.namespaces.filter (· ≠ primitiveNamespace)).Nodup :=
    ((pairwise_sortedDistinct _).imp fun hlt => ne_of_lt hlt).filter _
  rw [Schema.declarations, List.map_cons, List.nodup_cons]
  constructor
  · -- the prefix of the primitive types is taken by no other namespace
    intro hmem
    obtain ⟨a, ha, heq⟩ := List.mem_map.mp hmem
    obtain ⟨ns, hns, hmap⟩ := List.mem_filterMap.mp ha
    obtain ⟨p, hp, rfl⟩ := Option.map_eq_some_iff.mp hmap
    rw [List.mem_filter, decide_eq_true_eq] at hns
    obtain rfl : p = "xsd" := String.append_right_inj "xmlns:" |>.mp heq
    exact h.ne_xsd ns hns.1 hns.2 hp
  · rw [List.Nodup, List.pairwise_map, List.pairwise_filterMap]
    refine hnamespaces.imp fun hne a ha b hb heq => hne ?_
    obtain ⟨p, hp, rfl⟩ := Option.map_eq_some_iff.mp ha
    obtain ⟨q, hq, rfl⟩ := Option.map_eq_some_iff.mp hb
    obtain rfl : p = q := String.append_right_inj "xmlns:" |>.mp heq
    exact h.separate _ _ p hp hq

/-- No attribute of a root has the name of another one: prefixes differ, and none of the
other attributes declares one. -/
theorem nodup_rootAttributes {s : Schema} (h : Covers prefixes s) :
    ((s.rootAttributes prefixes).map Prod.fst).Nodup := by
  let others := (s.targetNamespace.map fun ns => ("targetNamespace", ns)).toList ++
    ((s.version.map fun v => ("version", v)).toList ++
      [("elementFormDefault", "qualified"), ("attributeFormDefault", "unqualified")])
  have hroot : s.rootAttributes prefixes = s.declarations prefixes ++ others := by
    rw [Schema.rootAttributes, List.append_assoc, List.append_assoc]
  have hothers : (others.map Prod.fst).Nodup ∧ ∀ key ∈ others.map Prod.fst, key ∈ rootKeys := by
    dsimp only [others]
    cases s.targetNamespace <;> cases s.version <;> simp [rootKeys]
  rw [hroot, List.map_append, List.nodup_append]
  refine ⟨nodup_declarations h, hothers.1, fun key hkey other hother heq => ?_⟩
  obtain ⟨a, ha, rfl⟩ := List.mem_map.mp hkey
  exact fst_not_mem_rootKeys ha (heq ▸ hothers.2 other hother)

theorem elements_markup (s : Schema) :
    (s.markup prefixes).elements =
      ⟨"xsd:schema", s.rootAttributes prefixes, false⟩ ::
        (s.children prefixes).flatMap elements := by
  rw [markup_eq, elements_node]

/-- The tags of what stands below the root, in order. -/
theorem tags_children (s : Schema) :
    (s.children prefixes).map Markup.tag =
      (s.documentation.toList.map fun _ => "xsd:annotation") ++
        (s.includes.map fun _ => "xsd:include") ++ (s.imports.map fun _ => "xsd:import") ++
        s.components.map Component.tag := by
  have hdoc : (documentationMarkup s.documentation).map Markup.tag =
      s.documentation.toList.map fun _ => "xsd:annotation" := by
    cases s.documentation <;> rfl
  simp only [Schema.children, List.map_append, List.map_map, hdoc]
  congr 1
  exact List.map_congr_left fun k _ => tag_component k

/-- The text of a schema is faithful, for every schema and every table of prefixes that
covers it. It is cut into a declaration and one element `xsd:schema`, in which tags match
and no tag has two attributes of one name. Below the root stand documentation, includes,
imports and components, in this order and each in the order of the schema. With references
replaced, the schema is read back: all its texts and numbers, and its names as they are
written, which for a name with a namespace is behind the one prefix that the root declares
for it and for no other namespace. -/
theorem write_faithful (s : Schema) (prefixes : Keyed String) (h : Covers prefixes s) :
    ∃ attributes inner children declared,
      Xml.tokens? (s.write prefixes) =
        some (Xml.declarationToken :: .text "\n" :: .opening "xsd:schema" attributes ::
          (inner ++ [.closing "xsd:schema", .text "\n"])) ∧
      Xml.Balanced inner ∧
      (∀ t ∈ Xml.Token.opening "xsd:schema" attributes :: inner,
        (t.attributes.map Prod.fst).Nodup) ∧
      Xml.read? isTextual (s.write prefixes) = some (.node "xsd:schema" attributes children) ∧
      children.map Markup.tag =
        (s.documentation.toList.map fun _ => "xsd:annotation") ++
          (s.includes.map fun _ => "xsd:include") ++ (s.imports.map fun _ => "xsd:import") ++
          s.components.map Component.tag ∧
      Schema.read? (s.write prefixes) = some (declared, s.mapNames (QName.shown prefixes)) ∧
      ∀ q ∈ s.references, (q.ns = none → q.text prefixes = q.name) ∧
        ∀ ns, q.ns = some ns → ∃ p, q.text prefixes = p ++ ":" ++ q.name ∧
          (p, ns) ∈ declared ∧ ∀ o, (p, o) ∈ declared → o = ns := by
  have hknown : ∀ e ∈ (s.children prefixes).flatMap elements, Known e := known_children s
  have hnamed : ∀ e ∈ (s.markup prefixes).elements, e.Named := by
    rw [elements_markup, List.forall_mem_cons]
    have hschema : Xml.isName "xsd:schema".toList = true := by decide
    exact ⟨⟨hschema, isName_rootAttributes h⟩, fun e he => (named_of_known (hknown e he)).1⟩
  have htextual : ∀ e ∈ (s.markup prefixes).elements, e.holdsText = isTextual e.tag := by
    rw [elements_markup, List.forall_mem_cons]
    have hschema : false = isTextual "xsd:schema" := by decide
    exact ⟨hschema, fun e he => (hknown e he).2⟩
  have hread : Xml.read? isTextual (s.write prefixes) = some (s.markup prefixes) :=
    Xml.read?_document hnamed htextual
  refine ⟨s.rootAttributes prefixes, (s.children prefixes).flatMap (tokens 1) ++ [breakToken 0],
    s.children prefixes, declaredPrefixes (s.rootAttributes prefixes), ?_, ?_, ?_, hread,
    tags_children s, ?_, ?_⟩
  · have hbreak : breakToken 0 = .text "\n" := by decide +kernel
    rw [Schema.write, Xml.tokens?_document hnamed, markup_eq, tokens_node, hbreak]
    simp
  · exact (Xml.balanced_flatMap_tokens 1 _).append (.text .nil)
  · rw [List.forall_mem_cons, List.forall_mem_append, List.forall_mem_singleton]
    refine ⟨nodup_rootAttributes h, fun t ht => ?_, List.nodup_nil⟩
    rcases Xml.attributes_of_mem_flatMap_tokens 1 _ t ht with hnone | ⟨e, he, heq⟩
    · rw [hnone]
      exact List.nodup_nil
    · rw [heq]
      exact (named_of_known (hknown e he)).2
  · rw [Schema.read?, hread, Option.bind_some, ofMarkup?_markup]
  · refine fun q hq => ⟨fun hnone => by rw [QName.text, hnone], fun ns hns => ?_⟩
    have hsome : ns ≠ primitiveNamespace → (prefixes.find? ns).isSome := by
      intro hne
      obtain ⟨p, hp, -⟩ := h.named ns (mem_namespaces.mpr (Or.inr (Or.inr ⟨q, hq, hns⟩))) hne
      exact Option.isSome_of_eq_some hp
    obtain ⟨p, -, htext, hdeclared, honly⟩ := declared_text h.separate h.ne_xsd hq hns hsome
    exact ⟨p, htext, mem_declaredPrefixes.mpr hdeclared,
      fun o ho => honly o (mem_declaredPrefixes.mp ho)⟩

end

/-- A schema with characters that are written as references, an empty text and one of blanks,
and every number of occurrences. -/
def ratesSchema : Schema :=
  { targetNamespace := some "urn:a"
    version := some "1 < 2"
    documentation := some "  "
    includes := ["a&b.xsd"]
    imports := [⟨"urn:b", some "\x22b\x22.xsd"⟩]
    components :=
      [ .simpleType ⟨"Code", some "", .restriction (.primitive "string")
          [.pattern "[<>&'\x22]+", .maxLength 12, .enumeration "&amp;" (some "not &")]⟩,
        .complexType
          { name := "Rate"
            documentation := none
            content := .extension ⟨some "urn:b", "Base"⟩
              [ ⟨.element "Day" (.primitive "date") none, 0, none⟩,
                ⟨.ref ⟨some "urn:b", "Stay"⟩, 1, some 7⟩ ]
            attributes := [⟨"code", ⟨some "urn:a", "Code"⟩, true, some "]]>"⟩] } ] }

def ratesPrefixes : Keyed String :=
  assignPrefixes [("urn:a", "a"), ("urn:b", "a")] ratesSchema.namespaces

/-- Both libraries want one prefix; the text says which names are meant. -/
theorem ratesSchema_written :
    Covers ratesPrefixes ratesSchema ∧
      ∃ declared, Schema.read? (ratesSchema.write ratesPrefixes) = some (declared,
        { ratesSchema with
          components :=
            [ .simpleType ⟨"Code", some "", .restriction ⟨none, "xsd:string"⟩
                [.pattern "[<>&'\x22]+", .maxLength 12, .enumeration "&amp;" (some "not &")]⟩,
              .complexType
                { name := "Rate"
                  documentation := none
                  content := .extension ⟨none, "a1:Base"⟩
                    [ ⟨.element "Day" ⟨none, "xsd:date"⟩ none, 0, none⟩,
                      ⟨.ref ⟨none, "a1:Stay"⟩, 1, some 7⟩ ]
                  attributes := [⟨"code", ⟨none, "a:Code"⟩, true, some "]]>"⟩] } ] }) := by
  have hcovers : Covers ratesPrefixes ratesSchema := by
    refine ⟨separate_assignPrefixes _ _, ?_⟩
    have hnamespaces : ratesSchema.namespaces = [primitiveNamespace, "urn:a", "urn:b"] := by
      decide +kernel
    rw [hnamespaces]
    simp only [List.forall_mem_cons, List.not_mem_nil, false_implies, implies_true, and_true]
    exact ⟨fun h => absurd rfl h, fun _ => ⟨"a", by decide +kernel, by decide, by decide⟩,
      fun _ => ⟨"a1", by decide +kernel, by decide, by decide⟩⟩
  obtain ⟨-, -, -, declared, -, -, -, -, -, hread, -⟩ :=
    write_faithful ratesSchema ratesPrefixes hcovers
  exact ⟨hcovers, declared, hread⟩

end Xsd

end TravelModel
