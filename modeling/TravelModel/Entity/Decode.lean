import TravelModel.Entity.Body
import TravelModel.Json.Decode

/-!
# TravelModel — reading entity declarations

Reads a member of a library from its JSON form. Fields that are not known
are passed over; a value of the wrong type makes the member unreadable.
-/

namespace TravelModel

open Json (text? bool? list? nat32? nat16? choice?)
open RecordSource (object? record?)

namespace Reference

/-- A reference is written as its name. -/
def decode? (j : Json) : Option Reference :=
  j.text?.map unbound

end Reference

/-! ## Facets -/

/-- Reads an attribute. -/
def Attribute.decode? (j : Json) : Option Attribute := do
  let s ← record? 4 j
  return {
    name := ← s.required 0 "name" text?
    type := ← s.required 1 "type" Reference.decode?
    mandatory := ← s.withDefault 2 "mandatory" bool? false
    documentation := ← s.optional 3 "documentation" text? }

/-- Reads an element. -/
def Element.decode? (j : Json) : Option Element := do
  let s ← record? 7 j
  return {
    name := ← s.withDefault 0 "name" text? ""
    type := ← s.required 1 "type" Reference.decode?
    mandatory := ← s.withDefault 2 "mandatory" bool? false
    maxRepeat := ← s.withDefault 3 "repeat" nat32? 0
    unbounded := ← s.withDefault 4 "unbounded" bool? false
    byReference := ← s.withDefault 5 "reference" bool? false
    documentation := ← s.optional 6 "documentation" text? }

/-- Reads an indicator. -/
def Indicator.decode? (j : Json) : Option Indicator := do
  let s ← record? 3 j
  return {
    name := ← s.required 0 "name" text?
    publishAsElement := ← s.withDefault 1 "publishAsElement" bool? false
    documentation := ← s.optional 2 "documentation" text? }

namespace FacetContent

/-- Reads the content of a facet from the fields around it. -/
def decodeFields? (s : RecordSource) : Option FacetContent := do
  return {
    attributes := ← s.withDefault 0 "attributes" (list? Attribute.decode?) []
    elements := ← s.withDefault 1 "elements" (list? Element.decode?) []
    indicators := ← s.withDefault 2 "indicators" (list? Indicator.decode?) [] }

/-- Reads the content of a facet. -/
def decode? (j : Json) : Option FacetContent :=
  (record? 3 j).bind decodeFields?

end FacetContent

/-! ## Simple kinds -/

/-- Reads a simple type. -/
def SimpleType.decode? (s : RecordSource) : Option SimpleType := do
  return {
    base := ← s.optional 0 "base" Reference.decode?
    pattern := ← s.optional 1 "pattern" text?
    minLength := ← s.optional 2 "minLength" nat32?
    maxLength := ← s.optional 3 "maxLength" nat32?
    fractionDigits := ← s.optional 4 "fractionDigits" nat32?
    totalDigits := ← s.optional 5 "totalDigits" nat32?
    minInclusive := ← s.optional 6 "minInclusive" text?
    maxInclusive := ← s.optional 7 "maxInclusive" text?
    list := ← s.withDefault 8 "list" bool? false }

/-- Reads a value of an enumeration. -/
def EnumValue.decode? (j : Json) : Option EnumValue := do
  let s ← record? 2 j
  return {
    literal := ← s.required 0 "literal" text?
    documentation := ← s.optional 1 "documentation" text? }

/-- Reads an enumeration. -/
def Enumeration.decode? (s : RecordSource) : Option Enumeration := do
  return {
    isOpen := ← s.withDefault 0 "open" bool? false
    values := ← s.withDefault 1 "values" (list? EnumValue.decode?) []
    extension := ← s.optional 2 "extension" Reference.decode? }

/-- Reads an enumeration of plain literals that says `extensible` for open. -/
def Enumeration.decodeLiterals? (s : RecordSource) : Option Enumeration := do
  return {
    isOpen := ← s.withDefault 0 "extensible" bool? false
    values := (← s.withDefault 1 "values" (list? text?) []).map fun literal =>
      { literal, documentation := none }
    extension := ← s.optional 2 "extension" Reference.decode? }

/-- Reads a value with attributes. -/
def ValueWithAttributes.decode? (s : RecordSource) : Option ValueWithAttributes := do
  return {
    valueType := ← s.optional 0 "valueType" Reference.decode?
    content := ← FacetContent.decodeFields? s }

/-! ## Objects -/

/-- Reads a core object. -/
def CoreObject.decode? (s : RecordSource) : Option CoreObject := do
  return {
    extension := ← s.optional 0 "extension" Reference.decode?
    simpleType := ← s.optional 1 "simpleType" Reference.decode?
    summary := ← s.withDefault 2 "summary" FacetContent.decode? {}
    detail := ← s.withDefault 3 "detail" FacetContent.decode? {}
    roles := ← s.withDefault 4 "roles" (list? text?) []
    aliases := ← s.withDefault 5 "aliases" (list? text?) []
    notExtendable := ← s.withDefault 6 "notExtendable" bool? false }

/-- Reads a business object. -/
def BusinessObject.decode? (s : RecordSource) : Option BusinessObject := do
  return {
    extension := ← s.optional 0 "extension" Reference.decode?
    id := ← s.withDefault 1 "id" FacetContent.decode? {}
    summary := ← s.withDefault 2 "summary" FacetContent.decode? {}
    detail := ← s.withDefault 3 "detail" FacetContent.decode? {}
    aliases := ← s.withDefault 4 "aliases" (list? text?) []
    notExtendable := ← s.withDefault 5 "notExtendable" bool? false }

/-- Reads a choice object. -/
def ChoiceObject.decode? (s : RecordSource) : Option ChoiceObject := do
  return {
    extension := ← s.optional 0 "extension" Reference.decode?
    shared := ← s.withDefault 1 "shared" FacetContent.decode? {}
    aliases := ← s.withDefault 2 "aliases" (list? text?) []
    notExtendable := ← s.withDefault 3 "notExtendable" bool? false }

/-- Reads a contextual facet. -/
def ContextualFacet.decode? (s : RecordSource) : Option ContextualFacet := do
  return {
    facetKind := ← s.required 0 "facetKind" (choice? ContextualKind.ofName?)
    facetName := ← s.required 1 "facetName" text?
    owner := ← s.required 2 "owner" Reference.decode?
    context := ← s.optional 3 "context" text?
    content := ← FacetContent.decodeFields? s }

/-- Reads an extension point. -/
def ExtensionPointFacet.decode? (s : RecordSource) : Option ExtensionPointFacet := do
  return {
    extended := ← s.required 0 "extends" Reference.decode?
    content := ← FacetContent.decodeFields? s }

/-! ## Resources -/

/-- Reads a parameter. -/
def Parameter.decode? (j : Json) : Option Parameter := do
  let s ← record? 2 j
  return {
    fieldName := ← s.required 0 "fieldName" text?
    location := ← s.withDefault 1 "location" (choice? ParameterLocation.ofName?) .path }

/-- Reads a parameter group. -/
def ParameterGroup.decode? (j : Json) : Option ParameterGroup := do
  let s ← record? 4 j
  return {
    name := ← s.required 0 "name" text?
    idGroup := ← s.withDefault 1 "idGroup" bool? false
    facet := ← s.optional 2 "facet" Reference.decode?
    parameters := ← s.withDefault 3 "parameters" (list? Parameter.decode?) [] }

/-- Reads a parent of a resource. -/
def ParentRef.decode? (j : Json) : Option ParentRef := do
  let s ← record? 3 j
  return {
    resource := ← s.required 0 "resource" Reference.decode?
    pathTemplate := ← s.withDefault 1 "pathTemplate" text? ""
    parameterGroup := ← s.optional 2 "parameterGroup" text? }

/-- Reads the request of an action. -/
def ActionRequest.decode? (j : Json) : Option ActionRequest := do
  let s ← record? 5 j
  return {
    method := ← s.required 0 "method" (choice? HttpMethod.ofName?)
    pathTemplate := ← s.withDefault 1 "pathTemplate" text? ""
    parameterGroup := ← s.optional 2 "parameterGroup" text?
    payload := ← s.optional 3 "payload" Reference.decode?
    mimeTypes := ← s.withDefault 4 "mimeTypes" (list? text?) [] }

/-- Reads a response of an action. -/
def ActionResponse.decode? (j : Json) : Option ActionResponse := do
  let s ← record? 3 j
  return {
    statusCodes := ← s.required 0 "statusCodes" (list? nat16?)
    payload := ← s.optional 1 "payload" Reference.decode?
    mimeTypes := ← s.withDefault 2 "mimeTypes" (list? text?) [] }

/-- Reads an action. -/
def ResourceAction.decode? (j : Json) : Option ResourceAction := do
  let s ← record? 4 j
  return {
    actionId := ← s.required 0 "actionId" text?
    common := ← s.withDefault 1 "common" bool? false
    request := ← s.required 2 "request" ActionRequest.decode?
    responses := ← s.withDefault 3 "responses" (list? ActionResponse.decode?) [] }

/-- Reads a resource. -/
def Resource.decode? (s : RecordSource) : Option Resource := do
  return {
    businessObject := ← s.optional 0 "businessObject" Reference.decode?
    basePath := ← s.withDefault 1 "basePath" text? ""
    isAbstract := ← s.withDefault 2 "abstract" bool? false
    firstClass := ← s.withDefault 3 "firstClass" bool? false
    parents := ← s.withDefault 4 "parents" (list? ParentRef.decode?) []
    parameterGroups := ← s.withDefault 5 "parameterGroups" (list? ParameterGroup.decode?) []
    actions := ← s.withDefault 6 "actions" (list? ResourceAction.decode?) [] }

/-! ## Services -/

/-- Reads an operation. -/
def Operation.decode? (j : Json) : Option Operation := do
  let s ← record? 4 j
  return {
    name := ← s.required 0 "name" text?
    request := ← s.optional 1 "request" FacetContent.decode?
    response := ← s.optional 2 "response" FacetContent.decode?
    notification := ← s.optional 3 "notification" FacetContent.decode? }

/-- Reads a service. -/
def Service.decode? (s : RecordSource) : Option Service := do
  return { operations := ← s.withDefault 0 "operations" (list? Operation.decode?) [] }

/-! ## Members -/

/-- Reads the body of an entity of a given kind. -/
def EntityBody.decode? (kind : EntityKind) (s : RecordSource) : Option EntityBody :=
  match kind with
  | .simpleType => (SimpleType.decode? s).map .simpleType
  | .enumeration => (Enumeration.decode? s).map .enumeration
  | .valueWithAttributes => (ValueWithAttributes.decode? s).map .valueWithAttributes
  | .coreObject => (CoreObject.decode? s).map .coreObject
  | .businessObject => (BusinessObject.decode? s).map .businessObject
  | .choiceObject => (ChoiceObject.decode? s).map .choiceObject
  | .contextualFacet => (ContextualFacet.decode? s).map .contextualFacet
  | .extensionPointFacet => (ExtensionPointFacet.decode? s).map .extensionPointFacet
  | .resource => (Resource.decode? s).map .resource
  | .service => (Service.decode? s).map .service

/-- A kind is written as its name, or as its place in a list of kinds. -/
def EntityKind.decode? (kinds : List EntityKind) (ofName? : String → Option EntityKind)
    (j : Json) : Option EntityKind :=
  match j with
  | .str s => ofName? s
  | .num (.whole (.ofNat n)) => kinds[n]?
  | _ => none

/-- Reads a member with a reader for its body. -/
def MemberDecl.decodeWith? (body? : RecordSource → Option EntityBody) (j : Json) :
    Option MemberDecl := do
  let s ← object? j
  return {
    name := ← s.withDefault 0 "name" text? ""
    documentation := ← s.optional 1 "documentation" text?
    body := ← body? s }

/-- Reads a member. -/
def MemberDecl.decode? (j : Json) : Option MemberDecl :=
  MemberDecl.decodeWith?
    (fun s => do
      let kind ← s.required 0 "kind" (EntityKind.decode? EntityKind.all EntityKind.ofName?)
      EntityBody.decode? kind s)
    j

end TravelModel
