import TravelModel.Xsd.Markup
import TravelModel.Xsd.Schema

/-!
# TravelModel — writing schemas

The XML text of a schema, with a prefix for each namespace.
-/

namespace TravelModel.Xsd

/-- A name with the prefix of its namespace. -/
def QName.text (prefixes : Keyed String) (q : QName) : String :=
  match q.ns with
  | none => q.name
  | some ns =>
    if ns = primitiveNamespace then "xsd:" ++ q.name
    else
      match prefixes.find? ns with
      | some p => p ++ ":" ++ q.name
      | none => q.name

/-- The annotation that holds documentation. -/
def documentationMarkup : Option String → List Markup
  | some text => [.node "xsd:annotation" [] [.text "xsd:documentation" [] text]]
  | none => []

/-- An element that is a leaf unless it has documentation. -/
def documented (tag : String) (attributes : List (String × String)) (doc : Option String) :
    Markup :=
  match doc with
  | some _ => .node tag attributes (documentationMarkup doc)
  | none => .leaf tag attributes

/-- An element that is a leaf if it has no children. -/
def leafIfEmpty (tag : String) (attributes : List (String × String)) (children : List Markup) :
    Markup :=
  if children.isEmpty then .leaf tag attributes else .node tag attributes children

/-- The markup of a facet. -/
def Facet.markup (f : Facet) : Markup :=
  documented f.tag [("value", f.value)] <|
    match f with
    | .enumeration _ doc => doc
    | _ => none

/-- The markup of a simple type. -/
def SimpleTypeDef.markup (prefixes : Keyed String) (t : SimpleTypeDef) : Markup :=
  .node "xsd:simpleType" [("name", t.name)] <|
    documentationMarkup t.documentation ++
      [ match t.derivation with
        | .restriction base facets =>
          leafIfEmpty "xsd:restriction" [("base", base.text prefixes)] (facets.map Facet.markup)
        | .list item => .leaf "xsd:list" [("itemType", item.text prefixes)] ]

/-- The markup of an attribute. -/
def AttributeDef.markup (prefixes : Keyed String) (a : AttributeDef) : Markup :=
  documented "xsd:attribute"
    [ ("name", a.name), ("type", a.type.text prefixes),
      ("use", if a.required then "required" else "optional") ]
    a.documentation

/-- The attributes that say how often something occurs, if not once. -/
def Particle.occurs (p : Particle) : List (String × String) :=
  (if p.minOccurs = 1 then [] else [("minOccurs", toString p.minOccurs)]) ++
    match p.maxOccurs with
    | none => [("maxOccurs", "unbounded")]
    | some n => if n = 1 then [] else [("maxOccurs", toString n)]

/-- The markup of a place in a sequence. -/
def Particle.markup (prefixes : Keyed String) (p : Particle) : Markup :=
  match p.term with
  | .element name type doc =>
    documented "xsd:element" ([("name", name), ("type", type.text prefixes)] ++ p.occurs) doc
  | .ref name => .leaf "xsd:element" (("ref", name.text prefixes) :: p.occurs)

/-- The markup of a sequence. -/
def sequenceMarkup (prefixes : Keyed String) (ps : List Particle) : Markup :=
  leafIfEmpty "xsd:sequence" [] (ps.map (Particle.markup prefixes))

/-- The markup of a complex type. -/
def ComplexTypeDef.markup (prefixes : Keyed String) (t : ComplexTypeDef) : Markup :=
  let attributes := t.attributes.map (AttributeDef.markup prefixes)
  .node "xsd:complexType" [("name", t.name)] <|
    documentationMarkup t.documentation ++
      match t.content with
      | .sequence ps => sequenceMarkup prefixes ps :: attributes
      | .extension base ps =>
        [ .node "xsd:complexContent" []
            [ .node "xsd:extension" [("base", base.text prefixes)]
                (sequenceMarkup prefixes ps :: attributes) ] ]
      | .simpleExtension base =>
        [ .node "xsd:simpleContent" []
            [leafIfEmpty "xsd:extension" [("base", base.text prefixes)] attributes] ]

/-- The markup of a global element. -/
def ElementDef.markup (prefixes : Keyed String) (e : ElementDef) : Markup :=
  documented "xsd:element"
    ([("name", e.name), ("type", e.type.text prefixes)] ++
      (e.substitutionGroup.map fun g => ("substitutionGroup", g.text prefixes)).toList)
    e.documentation

/-- The markup of a component. -/
def Component.markup (prefixes : Keyed String) : Component → Markup
  | simpleType t => t.markup prefixes
  | complexType t => t.markup prefixes
  | element e => e.markup prefixes

/-- The markup of an import. -/
def Import.markup (i : Import) : Markup :=
  .leaf "xsd:import"
    (("namespace", i.ns) :: (i.location.map fun l => ("schemaLocation", l)).toList)

namespace Schema

/-- The declarations of the prefixes a schema needs. -/
def declarations (prefixes : Keyed String) (s : Schema) : List (String × String) :=
  ("xmlns:xsd", primitiveNamespace) ::
    (s.namespaces.filter (· ≠ primitiveNamespace)).filterMap fun ns =>
      (prefixes.find? ns).map fun p => ("xmlns:" ++ p, ns)

/-- The markup of a schema. -/
def markup (prefixes : Keyed String) (s : Schema) : Markup :=
  .node "xsd:schema"
    (s.declarations prefixes ++
      (s.targetNamespace.map fun ns => ("targetNamespace", ns)).toList ++
      (s.version.map fun v => ("version", v)).toList ++
      [("elementFormDefault", "qualified"), ("attributeFormDefault", "unqualified")])
    (documentationMarkup s.documentation ++
      (s.includes.map fun l => .leaf "xsd:include" [("schemaLocation", l)]) ++
      s.imports.map Import.markup ++ s.components.map (Component.markup prefixes))

/-- The text of a schema. -/
def write (s : Schema) (prefixes : Keyed String) : String :=
  Markup.document (s.markup prefixes)

end Schema

end TravelModel.Xsd
