import TravelModel.Entity.Body
import TravelModel.Json.Value

/-!
# TravelModel — writing entity declarations

The JSON form of a member. A field that has the value it would have when
left out is left out where the form says so.
-/

namespace TravelModel

namespace Json

/-- An entry for a text that is there. -/
def optEntry (name : String) : Option String → List (String × Json)
  | some s => [(name, .str s)]
  | none => []

/-- An entry for a number that is there. -/
def natEntry (name : String) : Option Nat → List (String × Json)
  | some n => [(name, .nat n)]
  | none => []

/-- An entry for a mark that is set. -/
def flagEntry (name : String) (b : Bool) : List (String × Json) :=
  if b then [(name, .bool true)] else []

/-- An entry for a list that is not empty. -/
def listEntry (name : String) (items : List Json) : List (String × Json) :=
  if items.isEmpty then [] else [(name, .arr items)]

/-- An entry for a reference that is there. -/
def refEntry (name : String) (r : Option Reference) : List (String × Json) :=
  optEntry name (r.map Reference.name)

end Json

open Json (optEntry natEntry flagEntry listEntry refEntry)

/-! ## Facets -/

/-- Writes an attribute. -/
def Attribute.encode (a : Attribute) : Json :=
  .object <|
    [("name", .str a.name), ("type", .str a.type.name), ("mandatory", .bool a.mandatory)] ++
      optEntry "documentation" a.documentation

/-- Writes an element. -/
def Element.encode (e : Element) : Json :=
  .object <|
    [ ("name", .str e.name), ("type", .str e.type.name), ("mandatory", .bool e.mandatory),
      ("repeat", .nat e.maxRepeat), ("unbounded", .bool e.unbounded),
      ("reference", .bool e.byReference) ] ++
      optEntry "documentation" e.documentation

/-- Writes an indicator. -/
def Indicator.encode (i : Indicator) : Json :=
  .object <|
    [("name", .str i.name), ("publishAsElement", .bool i.publishAsElement)] ++
      optEntry "documentation" i.documentation

/-- The entries of a facet's content. -/
def FacetContent.entries (c : FacetContent) : List (String × Json) :=
  listEntry "attributes" (c.attributes.map Attribute.encode) ++
    listEntry "elements" (c.elements.map Element.encode) ++
    listEntry "indicators" (c.indicators.map Indicator.encode)

/-- Writes the content of a facet. -/
def FacetContent.encode (c : FacetContent) : Json :=
  .object c.entries

/-! ## Simple kinds -/

/-- The entries of a simple type. -/
def SimpleType.entries (t : SimpleType) : List (String × Json) :=
  refEntry "base" t.base ++ optEntry "pattern" t.pattern ++ natEntry "minLength" t.minLength ++
    natEntry "maxLength" t.maxLength ++ natEntry "fractionDigits" t.fractionDigits ++
    natEntry "totalDigits" t.totalDigits ++ optEntry "minInclusive" t.minInclusive ++
    optEntry "maxInclusive" t.maxInclusive ++ flagEntry "list" t.list

/-- Writes a value of an enumeration. -/
def EnumValue.encode (v : EnumValue) : Json :=
  .object (("literal", .str v.literal) :: optEntry "documentation" v.documentation)

/-- The entries of an enumeration. -/
def Enumeration.entries (e : Enumeration) : List (String × Json) :=
  [("open", .bool e.isOpen), ("values", .arr (e.values.map EnumValue.encode))] ++
    refEntry "extension" e.extension

/-- The entries of a value with attributes. -/
def ValueWithAttributes.entries (v : ValueWithAttributes) : List (String × Json) :=
  refEntry "valueType" v.valueType ++ v.content.entries

/-! ## Objects -/

/-- The entries of a core object. -/
def CoreObject.entries (o : CoreObject) : List (String × Json) :=
  refEntry "extension" o.extension ++ refEntry "simpleType" o.simpleType ++
    [("summary", o.summary.encode), ("detail", o.detail.encode)] ++
    listEntry "roles" (o.roles.map .str) ++ listEntry "aliases" (o.aliases.map .str) ++
    flagEntry "notExtendable" o.notExtendable

/-- The entries of a business object. -/
def BusinessObject.entries (o : BusinessObject) : List (String × Json) :=
  refEntry "extension" o.extension ++
    [("id", o.id.encode), ("summary", o.summary.encode), ("detail", o.detail.encode)] ++
    listEntry "aliases" (o.aliases.map .str) ++ flagEntry "notExtendable" o.notExtendable

/-- The entries of a choice object. -/
def ChoiceObject.entries (o : ChoiceObject) : List (String × Json) :=
  refEntry "extension" o.extension ++ [("shared", o.shared.encode)] ++
    listEntry "aliases" (o.aliases.map .str) ++ flagEntry "notExtendable" o.notExtendable

/-- The entries of a contextual facet. -/
def ContextualFacet.entries (f : ContextualFacet) : List (String × Json) :=
  [ ("facetKind", .str f.facetKind.name), ("facetName", .str f.facetName),
    ("owner", .str f.owner.name) ] ++
    optEntry "context" f.context ++ f.content.entries

/-- The entries of an extension point. -/
def ExtensionPointFacet.entries (f : ExtensionPointFacet) : List (String × Json) :=
  ("extends", .str f.extended.name) :: f.content.entries

/-! ## Resources -/

/-- Writes a parameter. -/
def Parameter.encode (p : Parameter) : Json :=
  .object [("fieldName", .str p.fieldName), ("location", .str p.location.name)]

/-- Writes a parameter group. -/
def ParameterGroup.encode (g : ParameterGroup) : Json :=
  .object <|
    [ ("name", .str g.name), ("idGroup", .bool g.idGroup),
      ("parameters", .arr (g.parameters.map Parameter.encode)) ] ++
      refEntry "facet" g.facet

/-- Writes a parent of a resource. -/
def ParentRef.encode (p : ParentRef) : Json :=
  .object <|
    [("resource", .str p.resource.name), ("pathTemplate", .str p.pathTemplate)] ++
      optEntry "parameterGroup" p.parameterGroup

/-- Writes the request of an action. -/
def ActionRequest.encode (q : ActionRequest) : Json :=
  .object <|
    [("method", .str q.method.name), ("pathTemplate", .str q.pathTemplate)] ++
      optEntry "parameterGroup" q.parameterGroup ++ refEntry "payload" q.payload ++
      listEntry "mimeTypes" (q.mimeTypes.map .str)

/-- Writes a response of an action. -/
def ActionResponse.encode (p : ActionResponse) : Json :=
  .object <|
    ("statusCodes", .arr (p.statusCodes.map .nat)) ::
      (refEntry "payload" p.payload ++ listEntry "mimeTypes" (p.mimeTypes.map .str))

/-- Writes an action. -/
def ResourceAction.encode (a : ResourceAction) : Json :=
  .object
    [ ("actionId", .str a.actionId), ("common", .bool a.common), ("request", a.request.encode),
      ("responses", .arr (a.responses.map ActionResponse.encode)) ]

/-- The entries of a resource. -/
def Resource.entries (r : Resource) : List (String × Json) :=
  refEntry "businessObject" r.businessObject ++ [("basePath", .str r.basePath)] ++
    flagEntry "abstract" r.isAbstract ++ [("firstClass", .bool r.firstClass)] ++
    listEntry "parents" (r.parents.map ParentRef.encode) ++
    listEntry "parameterGroups" (r.parameterGroups.map ParameterGroup.encode) ++
    [("actions", .arr (r.actions.map ResourceAction.encode))]

/-! ## Services -/

/-- Writes an operation. -/
def Operation.encode (op : Operation) : Json :=
  let message (name : String) : Option FacetContent → List (String × Json)
    | some c => [(name, c.encode)]
    | none => []
  .object <|
    ("name", .str op.name) ::
      (message "request" op.request ++ message "response" op.response ++
        message "notification" op.notification)

/-- The entries of a service. -/
def Service.entries (s : Service) : List (String × Json) :=
  [("operations", .arr (s.operations.map Operation.encode))]

/-! ## Members -/

/-- The entries of a body, without its kind. -/
def EntityBody.entries : EntityBody → List (String × Json)
  | simpleType t => t.entries
  | enumeration e => e.entries
  | valueWithAttributes v => v.entries
  | coreObject o => o.entries
  | businessObject o => o.entries
  | choiceObject o => o.entries
  | contextualFacet f => f.entries
  | extensionPointFacet f => f.entries
  | resource r => r.entries
  | service s => s.entries

/-- Writes a body. -/
def EntityBody.encode (b : EntityBody) : Json :=
  .object (("kind", .str b.kind.name) :: b.entries)

/-- Writes a member. -/
def MemberDecl.encode (m : MemberDecl) : Json :=
  .object <|
    ("name", .str m.name) :: (optEntry "documentation" m.documentation ++
      ("kind", .str m.body.kind.name) :: m.body.entries)

end TravelModel
