import TravelModel.Json.Printer
import TravelModel.Xsd.Linking

/-!
# TravelModel — JSON schemas

A library has a schema document whose definitions are the types its XML
schema declares. Primitive types and the simple types of the common library
are written out; any other type is referred to.
-/

namespace TravelModel

/-- How references are written. -/
inductive RefStyle where
  /-- In the document of a library; other libraries are named by file. -/
  | library (id : LibraryId)
  /-- Among the components of an API document. -/
  | components
  /-- Among the definitions of an API document. -/
  | definitions
deriving DecidableEq, Repr, Inhabited

namespace JsonSchema

/-- The text of a document. -/
def documentText (j : Json) : String :=
  j.pretty ++ "\n"

/-- A schema of a type. -/
def ofType (name : String) : Json :=
  .object [("type", .str name)]

/-- A schema of a string with a format. -/
def ofFormat (name : String) : Json :=
  .object [("type", .str "string"), ("format", .str name)]

/-- A schema of lists. -/
def arrayOf (item : Json) : Json :=
  .object [("type", .str "array"), ("items", item)]

/-- The schema of a primitive type. -/
def primitive (name : String) : Json :=
  if name = "boolean" then ofType "boolean"
  else if ["decimal", "double", "float"].contains name then ofType "number"
  else if
    [ "int", "integer", "long", "short", "byte", "nonNegativeInteger", "nonPositiveInteger",
      "negativeInteger", "positiveInteger", "unsignedInt", "unsignedLong", "unsignedShort",
      "unsignedByte" ].contains name then ofType "integer"
  else if name = "date" then ofFormat "date"
  else if name = "dateTime" then ofFormat "date-time"
  else if name = "time" then ofFormat "time"
  else if name = "anyURI" then ofFormat "uri"
  else if name = "base64Binary" then ofFormat "byte"
  else if name = "IDREFS" || name = "NMTOKENS" then arrayOf (ofType "string")
  else ofType "string"

/-- A bound that reads as a number; one that is not finite is null. -/
def bound? (s : String) : Option Json :=
  (Binary64.readText? s).map fun r =>
    match r with
    | .finite x => .num (.float x)
    | .nonFinite => .null

/-- The restrictions of a simple type that JSON schemas have. -/
def restrictions (t : SimpleType) : List (String × Json) :=
  (t.pattern.map fun p => ("pattern", .str p)).toList ++
    (t.minLength.map fun n => ("minLength", .nat n)).toList ++
    (t.maxLength.map fun n => ("maxLength", .nat n)).toList ++
    ((t.minInclusive.bind bound?).map fun j => ("minimum", j)).toList ++
    ((t.maxInclusive.bind bound?).map fun j => ("maximum", j)).toList

/-- The schema of a simple type with the schema of its base. -/
def simpleType (t : SimpleType) (base : Json) : Json :=
  if t.list then arrayOf base
  else
    let facets := restrictions t
    if facets.isEmpty then base
    else
      match base with
      | .obj fields =>
        if Keyed.contains fields "$ref" then .object [("allOf", .arr [base, .object facets])]
        else .obj (Keyed.insertAll fields facets)
      | _ => .object [("allOf", .arr [base, .object facets])]

end JsonSchema

namespace GenerationContext

open JsonSchema

/-! ## Types -/

/-- The text of a reference to a definition of an entity. -/
def jsonReference (c : GenerationContext) (style : RefStyle) (target : EntityId) (name : String) :
    String :=
  match style with
  | .library id =>
    let file := ((c.model.owner? target).filter fun l => l.id ≠ id).bind fun l =>
      c.libraryFile? l .jsonSchema
    file.getD "" ++ "#/definitions/" ++ name
  | .components => "#/components/schemas/" ++ name
  | .definitions => "#/definitions/" ++ name

/-- The schema a reference stands for. Bases of simple types that come with the
program are followed up to a number of steps. -/
def typeSchemaWithin (c : GenerationContext) (style : RefStyle) : Nat → Reference → Json
  | 0, _ => ofType "string"
  | budget + 1, r =>
    match r.target.bind fun s => (c.model.entity? s.owner).map fun e => (s, e) with
    | none => ofType "string"
    | some (s, e) =>
      if c.isBuiltIn e.id then
        if (c.model.owner? e.id).bind Library.ns = some primitiveNamespace then primitive e.name
        else
          match e.body with
          | .simpleType t =>
            simpleType t ((t.base.map (typeSchemaWithin c style budget)).getD (ofType "string"))
          | _ => ofType "string"
      else
        .object [("$ref", .str (c.jsonReference style e.id ((c.typeName? s).getD e.name)))]

/-- The schema a reference stands for. -/
def typeSchema (c : GenerationContext) (style : RefStyle) (r : Reference) : Json :=
  c.typeSchemaWithin style (c.model.entitySlots.size + 1) r

/-- The schema of a reference that may be missing. -/
def typeSchemaOr (c : GenerationContext) (style : RefStyle) (r : Option Reference) : Json :=
  (r.map (c.typeSchema style)).getD (ofType "string")

/-! ## Content -/

/-- The name of an element as a property. -/
def jsonElementName (e : Element) : String :=
  if e.byReference then e.propertyName ++ "Ref" else e.propertyName

/-- The schema of an element. -/
def elementSchema (c : GenerationContext) (style : RefStyle) (e : Element) : Json :=
  let item := if e.byReference then ofType "string" else c.typeSchema style e.type
  if e.isRepeating then
    .object <|
      [("type", .str "array"), ("items", item)] ++
        if e.unbounded then [] else [("maxItems", .nat e.maxRepeat)]
  else item

/-- The properties of a content. -/
def contentProperties (c : GenerationContext) (style : RefStyle) (content : FacetContent) :
    List (String × Json) :=
  (content.attributes.map fun a => (a.name, c.typeSchema style a.type)) ++
    (content.elements.map fun e => (jsonElementName e, c.elementSchema style e)) ++
    content.indicators.map fun i => (i.name, ofType "boolean")

/-- The names of the properties a content requires. -/
def contentRequired (content : FacetContent) : List String :=
  ((content.attributes.filter Attribute.mandatory).map Attribute.name) ++
    (content.elements.filter Element.mandatory).map jsonElementName

/-- The schema of an object with some properties. -/
def objectSchema (properties : List (String × Json)) (required : List String) : Json :=
  .object <|
    [("type", .str "object"), ("properties", .object properties)] ++
      if required.isEmpty then [] else [("required", .strings required)]

/-- The schema of a content. -/
def contentSchema (c : GenerationContext) (style : RefStyle) (content : FacetContent) : Json :=
  objectSchema (c.contentProperties style content) (contentRequired content)

/-! ## Definitions -/

/-- A schema with the documentation of an entity. -/
def describe (e : NamedEntity) (schema : Json) : Json :=
  match e.documentation with
  | some doc => schema.setField "description" (.str doc)
  | none => schema

/-- The schema of a text that is one of some. -/
def literalSchema (literals : List String) : Json :=
  .object [("type", .str "string"), ("enum", .strings literals)]

/-- Literals with one more, unless it is among them. -/
def addLiteral (literals : List String) (literal : String) : List String :=
  if literals.contains literal then literals else literals ++ [literal]

/-- The literals of an enumeration with those it inherits, the farthest first. -/
def enumLiterals (c : GenerationContext) (id : EntityId) : List String :=
  ((c.model.extensionChain id).reverse ++ [id]).foldl
    (fun literals owner =>
      match (c.model.entity? owner).map NamedEntity.body with
      | some (.enumeration x) => (x.values.map EnumValue.literal).foldl addLiteral literals
      | _ => literals)
    []

/-- The schema of an enumeration; an open one admits any text. -/
def enumerationSchema (c : GenerationContext) (e : NamedEntity) (x : Enumeration) : Json :=
  let closed := literalSchema (c.enumLiterals e.id)
  if x.isOpen then .object [("anyOf", .arr [closed, ofType "string"])] else closed

/-- The schema of a value with attributes: the value is a property. -/
def valueSchema (c : GenerationContext) (style : RefStyle) (v : ValueWithAttributes) : Json :=
  objectSchema
    (c.contentProperties style v.content ++ [("value", c.typeSchemaOr style v.valueType)])
    (contentRequired v.content)

/-- The definitions of the fixed facets of an object. -/
def fixedDefinitions (c : GenerationContext) (style : RefStyle) (e : NamedEntity)
    (kinds : List FacetKind) : List (String × Json) :=
  kinds.map fun k => (Naming.facetType e.name k, c.contentSchema style (c.facetContent e.id k))

/-- The definitions of the inherited contextual facets of an object. -/
def ghostDefinitions (c : GenerationContext) (style : RefStyle) (e : NamedEntity) :
    List (String × Json) :=
  (c.model.ghostFacets e.id).filterMap fun g =>
    match (c.model.entity? g.source).map NamedEntity.body with
    | some (.contextualFacet f) =>
      some (c.model.ghostName g, c.contentSchema style (c.contextualContent (some e) f))
    | _ => none

/-- The definitions of an entity, in the order of declaration. -/
def definitions (c : GenerationContext) (style : RefStyle) (e : NamedEntity) :
    List (String × Json) :=
  match e.body with
  | .simpleType t => [(e.name, describe e (simpleType t (c.typeSchemaOr style t.base)))]
  | .enumeration x => [(e.name, describe e (c.enumerationSchema e x))]
  | .valueWithAttributes v => [(e.name, describe e (c.valueSchema style v))]
  | .coreObject o =>
    (Naming.facetType e.name .simple, c.typeSchemaOr style o.simpleType) ::
      ((if o.roles.isEmpty then [] else [(e.name ++ "_Role", literalSchema o.roles)]) ++
        c.fixedDefinitions style e [.summary, .detail] ++ c.ghostDefinitions style e)
  | .businessObject _ =>
    c.fixedDefinitions style e [.id, .summary, .detail] ++ c.ghostDefinitions style e
  | .choiceObject _ => c.fixedDefinitions style e [.shared] ++ c.ghostDefinitions style e
  | .contextualFacet f =>
    let owner := f.owner.entity?.bind c.model.entity?
    [(e.name, describe e (c.contentSchema style (c.contextualContent owner f)))]
  | .extensionPointFacet f =>
    [(c.extensionPointType e f.extended, describe e (c.contentSchema style f.content))]
  | .resource _ | .service _ => []

/-- The definitions a registered transformer makes of an entity. -/
def registeredDefinitions (c : GenerationContext) (style : RefStyle) (e : NamedEntity) :
    Except GenerationError (List (String × Json)) := do
  let _ ← c.registry.getFitting e.kind .jsonSchema
  return c.definitions style e

/-! ## Documents -/

/-- The schema document of a library. -/
def libraryJson (c : GenerationContext) (l : Library) (definitions : List (String × Json)) : Json :=
  .object <|
    [ ("$schema", .str "http://json-schema.org/draft-07/schema#"), ("title", .str l.name),
      ("definitions", .object definitions) ] ++
      ((c.libraryNamespace? l).map fun ns => ("$id", .str ns)).toList ++
      (l.documentation.map fun d => ("description", .str d)).toList

/-- The schema file of a library. -/
def libraryJsonFile (c : GenerationContext) (l : Library) :
    Except GenerationError (List OutputFile) := do
  match c.libraryFile? l .jsonSchema with
  | none => return []
  | some path =>
    let parts ← (c.emittedEntities l.id).mapM (c.registeredDefinitions (.library l.id))
    return [
      { path, format := .jsonSchema
        contents := documentText (c.libraryJson l parts.flatten) } ]

/-- The schema files of the libraries in scope, in order. -/
def jsonFiles (c : GenerationContext) : Except GenerationError (List OutputFile) := do
  let parts ← c.order.mapM fun id => do
    c.checkCancelled .jsonSchema id
    match c.model.library? id with
    | some l => c.libraryJsonFile l
    | none => return []
  return parts.flatten

end GenerationContext

end TravelModel
