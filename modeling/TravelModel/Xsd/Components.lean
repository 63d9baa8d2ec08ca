import TravelModel.Generation.Context
import TravelModel.Xsd.Schema

/-!
# TravelModel — schema components of entities

The types and elements an entity adds to the schema of its library. Facet
types are flat: they hold what supertypes and lower facets hold instead of
deriving from their types.
-/

namespace TravelModel

namespace GenerationContext

open Xsd

/-! ## Names -/

/-- The type a reference stands for, as written in a library; a reference that
is not bound stands for a string. -/
def typeQName (c : GenerationContext) (r : Reference) (library : LibraryId) : QName :=
  match r.target.bind fun s => (c.typeName? s).map fun n => (s, n) with
  | some (s, name) => ⟨c.entityNamespace? s.owner (some library), name⟩
  | none => .primitive "string"

/-- A name in the namespace of an entity's own library. -/
def ownQName (c : GenerationContext) (e : NamedEntity) (name : String) : QName :=
  ⟨c.entityNamespace? e.id (some e.library), name⟩

/-- A name of the common library. -/
def commonQName (name : String) : QName :=
  ⟨some Builtin.commonNamespace, name⟩

/-! ## Facets -/

/-- The attributes of a content. -/
def attributeDefs (c : GenerationContext) (content : FacetContent) (library : LibraryId) :
    List AttributeDef :=
  content.attributes.map fun a =>
    { name := a.name, type := c.typeQName a.type library, required := a.mandatory
      documentation := a.documentation }

/-- An indicator as an attribute. -/
def indicatorAttribute (i : Indicator) : AttributeDef :=
  { name := i.name, type := .primitive "boolean", required := false
    documentation := i.documentation }

/-- An indicator as an element. -/
def indicatorParticle (i : Indicator) : Particle :=
  { term := .element i.name (.primitive "boolean") i.documentation, minOccurs := 0
    maxOccurs := some 1 }

/-- An element of a content in a sequence. -/
def elementParticle (c : GenerationContext) (library : LibraryId) (e : Element) : Particle :=
  let minOccurs := if e.mandatory then 1 else 0
  if e.byReference then
    { term := .element (e.propertyName ++ "Ref")
        (.primitive (if e.isRepeating then "IDREFS" else "IDREF")) e.documentation
      minOccurs, maxOccurs := some 1 }
  else
    { term := .element e.propertyName (c.typeQName e.type library) e.documentation
      minOccurs, maxOccurs := if e.unbounded then none else some (max e.maxRepeat 1) }

/-- The place at which a facet can be extended. -/
def extensionParticles (c : GenerationContext) (kind : Option FacetKind) : List Particle :=
  if c.options.suppressExtensions then []
  else
    (kind.bind Naming.extensionElement?).toList.map fun name =>
      { term := .ref (commonQName name), minOccurs := 0, maxOccurs := some 1 }

/-- The complex type of a content. With a kind it ends in the extension point of
that kind. -/
def facetType (c : GenerationContext) (name : String) (documentation : Option String)
    (content : FacetContent) (kind : Option FacetKind) (library : LibraryId) : ComplexTypeDef :=
  { name, documentation
    content := .sequence
      (content.elements.map (c.elementParticle library) ++
        (content.indicators.filter Indicator.publishAsElement).map indicatorParticle ++
        c.extensionParticles kind)
    attributes :=
      c.attributeDefs content library ++
        (content.indicators.filter fun i => !i.publishAsElement).map indicatorAttribute }

/-- The kind of extension point a facet of an entity ends in. -/
def extensionKind (e : NamedEntity) (kind : FacetKind) : Option FacetKind :=
  if e.body.notExtendable then none else some kind

/-- A global element of a type in the same library. -/
def ownElement (c : GenerationContext) (e : NamedEntity) (name type : String) : Component :=
  .element
    { name, type := c.ownQName e type, substitutionGroup := none, documentation := none }

/-- Type and elements of a fixed facet; each alias has elements of its own. -/
def fixedFacetComponents (c : GenerationContext) (e : NamedEntity) (kind : FacetKind) :
    List Component :=
  let type := Naming.facetType e.name kind
  let doc := if kind = e.body.defaultFacet then e.documentation else none
  .complexType (c.facetType type doc (c.facetContent e.id kind) (extensionKind e kind) e.library) ::
    ((e.name :: e.body.aliases).filterMap fun owner => Naming.facetElement? owner kind).map
      fun name => c.ownElement e name type

/-- Type and element of an inherited contextual facet. -/
def ghostComponents (c : GenerationContext) (e : NamedEntity) (g : GhostFacet) : List Component :=
  match c.model.entity? g.source with
  | none => []
  | some source =>
    match source.body with
    | .contextualFacet f =>
      let type := c.model.ghostName g
      let kind := g.kind.facetKind
      [ .complexType
          (c.facetType type source.documentation (c.contextualContent (some e) f)
            (extensionKind e kind) e.library),
        c.ownElement e (Naming.contextualElement e.name kind g.facetName) type ]
    | _ => []

/-- The components of all inherited contextual facets. -/
def allGhostComponents (c : GenerationContext) (e : NamedEntity) : List Component :=
  (c.model.ghostFacets e.id).flatMap (c.ghostComponents e)

/-! ## Simple kinds -/

/-- The restrictions of a simple type. -/
def simpleFacets (t : SimpleType) : List Facet :=
  (t.pattern.map .pattern).toList ++ (t.minLength.map .minLength).toList ++
    (t.maxLength.map .maxLength).toList ++ (t.fractionDigits.map .fractionDigits).toList ++
    (t.totalDigits.map .totalDigits).toList ++ (t.minInclusive.map .minInclusive).toList ++
    (t.maxInclusive.map .maxInclusive).toList

/-- The type of a simple type. -/
def simpleTypeComponents (c : GenerationContext) (e : NamedEntity) (t : SimpleType) :
    List Component :=
  let base := (t.base.map fun b => c.typeQName b e.library).getD (.primitive "string")
  [ .simpleType
      { name := e.name, documentation := e.documentation
        derivation := if t.list then .list base else .restriction base (simpleFacets t) } ]

/-- Values whose literal came before are left out. -/
def distinctValues : List EnumValue → List String → List EnumValue
  | [], _ => []
  | v :: rest, seen =>
    if seen.contains v.literal then distinctValues rest seen
    else v :: distinctValues rest (v.literal :: seen)

/-- The values of an enumeration with those it inherits, the farthest first. -/
def enumValues (c : GenerationContext) (id : EntityId) : List EnumValue :=
  distinctValues
    (((c.model.extensionChain id).reverse ++ [id]).flatMap fun owner =>
      match (c.model.entity? owner).map NamedEntity.body with
      | some (.enumeration x) => x.values
      | _ => [])
    []

/-- The restrictions to some values. -/
def valueFacets (values : List EnumValue) : List Facet :=
  values.map fun v => .enumeration v.literal v.documentation

/-- A closed enumeration is a restricted string. An open one admits one more
literal in a base type and carries the value itself in an attribute. -/
def enumerationComponents (c : GenerationContext) (e : NamedEntity) (x : Enumeration) :
    List Component :=
  let values := c.enumValues e.id
  if x.isOpen then
    let other :=
      if values.any fun v => v.literal = Naming.openEnumOther then []
      else [{ literal := Naming.openEnumOther, documentation := none : EnumValue }]
    let base := Naming.openEnumBase e.name
    [ .simpleType
        { name := base, documentation := none
          derivation := .restriction (.primitive "string") (valueFacets (values ++ other)) },
      .complexType
        { name := e.name, documentation := e.documentation
          content := .simpleExtension (c.ownQName e base)
          attributes :=
            [ { name := "extension", type := .primitive "string", required := false
                documentation := none } ] } ]
  else
    [ .simpleType
        { name := e.name, documentation := e.documentation
          derivation := .restriction (.primitive "string") (valueFacets values) } ]

/-- The type of a value with attributes. -/
def valueComponents (c : GenerationContext) (e : NamedEntity) (v : ValueWithAttributes) :
    List Component :=
  [ .complexType
      { name := e.name, documentation := e.documentation
        content := .simpleExtension
          ((v.valueType.map fun t => c.typeQName t e.library).getD (commonQName "Empty"))
        attributes :=
          c.attributeDefs v.content e.library ++ v.content.indicators.map indicatorAttribute } ]

/-! ## Objects -/

/-- The simple facet and the roles of a core object. -/
def coreComponents (c : GenerationContext) (e : NamedEntity) (o : CoreObject) : List Component :=
  .simpleType
      { name := Naming.facetType e.name .simple, documentation := none
        derivation := .restriction
          ((o.simpleType.map fun t => c.typeQName t e.library).getD (.primitive "string")) [] } ::
    if o.roles.isEmpty then []
    else
      [ .simpleType
          { name := e.name ++ "_Role", documentation := none
            derivation := .restriction (.primitive "string")
              (o.roles.map fun r => .enumeration r none) } ]

/-- Type and element of a contextual facet. -/
def contextualComponents (c : GenerationContext) (e : NamedEntity) (f : ContextualFacet) :
    List Component :=
  let owner := f.owner.entity?.bind c.model.entity?
  let kind := f.facetKind.facetKind
  let closed := owner.any fun o => o.body.notExtendable
  [ .complexType
      (c.facetType e.name e.documentation (c.contextualContent owner f)
        (if closed then none else some kind) e.library),
    c.ownElement e
      (Naming.contextualElement ((owner.map NamedEntity.name).getD f.owner.localName) kind
        f.facetName)
      e.name ]

/-- The kind of facet an extension point extends. -/
def extendedKind? (c : GenerationContext) (extended : Reference) : Option FacetKind := do
  match ← extended.target with
  | .facet _ k => return k
  | .entity id | .aliasOf id _ =>
    let owner ← c.model.entity? id
    if owner.kind.isObject then some owner.body.defaultFacet else none
  | .ghost _ source =>
    match (← c.model.entity? source).body with
    | .contextualFacet f => return f.facetKind.facetKind
    | _ => none

/-- Type and element of an extension point; the element stands in for that of
the facet it extends. -/
def extensionComponents (c : GenerationContext) (e : NamedEntity) (f : ExtensionPointFacet) :
    List Component :=
  let name := c.extensionPointType e f.extended
  let group :=
    if c.options.suppressExtensions then none
    else (c.extendedKind? f.extended).bind Naming.extensionElement?
  let type := c.facetType name e.documentation f.content none e.library
  let type :=
    match group, type.content with
    | some _, .sequence ps =>
      { type with content := .extension (commonQName "ExtensionPoint_Type") ps }
    | _, _ => type
  [ .complexType type,
    .element
      { name, type := c.ownQName e name, substitutionGroup := group.map commonQName
        documentation := none } ]

/-- The components of an entity. Resources and services have none. -/
def components (c : GenerationContext) (e : NamedEntity) : List Component :=
  match e.body with
  | .simpleType t => c.simpleTypeComponents e t
  | .enumeration x => c.enumerationComponents e x
  | .valueWithAttributes v => c.valueComponents e v
  | .coreObject o =>
    c.coreComponents e o ++ [.summary, .detail].flatMap (c.fixedFacetComponents e) ++
      c.allGhostComponents e
  | .businessObject _ =>
    [.id, .summary, .detail].flatMap (c.fixedFacetComponents e) ++ c.allGhostComponents e
  | .choiceObject _ => c.fixedFacetComponents e .shared ++ c.allGhostComponents e
  | .contextualFacet f => c.contextualComponents e f
  | .extensionPointFacet f => c.extensionComponents e f
  | .resource _ | .service _ => []

/-- The components a registered transformer makes of an entity. -/
def registeredComponents (c : GenerationContext) (e : NamedEntity) :
    Except GenerationError (List Component) := do
  match ← c.registry.getFitting e.kind .xmlSchema with
  | .components (some kind) => return if kind = e.kind then c.components e else []
  | _ => return []

end GenerationContext

end TravelModel
