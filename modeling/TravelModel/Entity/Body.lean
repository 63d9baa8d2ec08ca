import TravelModel.Entity.Facet

/-!
# TravelModel — entity declarations

The ten kinds of entities a library can declare, with the content of each.
-/

namespace TravelModel

/-- The kind of an entity. -/
inductive EntityKind where
  | simpleType
  | enumeration
  | valueWithAttributes
  | coreObject
  | businessObject
  | choiceObject
  | contextualFacet
  | extensionPointFacet
  | resource
  | service
deriving DecidableEq, Repr, Inhabited

namespace EntityKind

/-- All kinds, in their order. -/
def all : List EntityKind :=
  [ simpleType, enumeration, valueWithAttributes, coreObject, businessObject, choiceObject,
    contextualFacet, extensionPointFacet, resource, service ]

/-- How a kind is shown. -/
def label : EntityKind → String
  | simpleType => "SimpleType"
  | enumeration => "Enumeration"
  | valueWithAttributes => "ValueWithAttributes"
  | coreObject => "CoreObject"
  | businessObject => "BusinessObject"
  | choiceObject => "ChoiceObject"
  | contextualFacet => "ContextualFacet"
  | extensionPointFacet => "ExtensionPointFacet"
  | resource => "Resource"
  | service => "Service"

/-- How a kind is written in declarations. -/
def name : EntityKind → String
  | simpleType => "simpleType"
  | enumeration => "enumeration"
  | valueWithAttributes => "valueWithAttributes"
  | coreObject => "coreObject"
  | businessObject => "businessObject"
  | choiceObject => "choiceObject"
  | contextualFacet => "contextualFacet"
  | extensionPointFacet => "extensionPointFacet"
  | resource => "resource"
  | service => "service"

/-- The kind of a written name. -/
def ofName? (s : String) : Option EntityKind :=
  all.find? fun k => k.name = s

/-- Kinds that own facets and can be extended. -/
def isObject : EntityKind → Bool
  | coreObject | businessObject | choiceObject => true
  | _ => false

end EntityKind

/-! ## Simple kinds -/

/-- A restriction of a primitive or of another simple type. -/
structure SimpleType where
  base : Option Reference := none
  pattern : Option String := none
  minLength : Option Nat := none
  maxLength : Option Nat := none
  fractionDigits : Option Nat := none
  totalDigits : Option Nat := none
  minInclusive : Option String := none
  maxInclusive : Option String := none
  list : Bool := false
deriving DecidableEq, Repr, Inhabited

/-- A value of an enumeration. -/
structure EnumValue where
  literal : String
  documentation : Option String
deriving DecidableEq, Repr, Inhabited

/-- An enumeration; an open one admits values that are not listed. -/
structure Enumeration where
  isOpen : Bool
  values : List EnumValue
  extension : Option Reference
deriving DecidableEq, Repr, Inhabited

/-- A simple value with attributes. -/
structure ValueWithAttributes where
  valueType : Option Reference
  content : FacetContent
deriving DecidableEq, Repr, Inhabited

/-! ## Objects -/

/-- A core object. -/
structure CoreObject where
  extension : Option Reference
  simpleType : Option Reference
  summary : FacetContent
  detail : FacetContent
  roles : List String
  aliases : List String
  notExtendable : Bool
deriving DecidableEq, Repr, Inhabited

/-- A business object. -/
structure BusinessObject where
  extension : Option Reference
  id : FacetContent
  summary : FacetContent
  detail : FacetContent
  aliases : List String
  notExtendable : Bool
deriving DecidableEq, Repr, Inhabited

/-- A choice object. -/
structure ChoiceObject where
  extension : Option Reference
  shared : FacetContent
  aliases : List String
  notExtendable : Bool
deriving DecidableEq, Repr, Inhabited

/-- A facet attached to an object under a context. -/
structure ContextualFacet where
  facetKind : ContextualKind
  facetName : String
  owner : Reference
  context : Option String
  content : FacetContent
deriving DecidableEq, Repr, Inhabited

/-- Content added to a facet that is declared elsewhere. -/
structure ExtensionPointFacet where
  extended : Reference
  content : FacetContent
deriving DecidableEq, Repr, Inhabited

/-! ## Resources -/

/-- Where a parameter is sent. -/
inductive ParameterLocation where
  | path
  | query
  | header
deriving DecidableEq, Repr, Inhabited

/-- The method of a request. -/
inductive HttpMethod where
  | get
  | post
  | put
  | patch
  | delete
  | head
  | options
deriving DecidableEq, Repr, Inhabited

/-- A parameter of a group. -/
structure Parameter where
  fieldName : String
  location : ParameterLocation
deriving DecidableEq, Repr, Inhabited

/-- Parameters drawn from a facet. -/
structure ParameterGroup where
  name : String
  idGroup : Bool
  facet : Option Reference
  parameters : List Parameter
deriving DecidableEq, Repr, Inhabited

/-- A resource below which another is found. -/
structure ParentRef where
  resource : Reference
  pathTemplate : String
  parameterGroup : Option String
deriving DecidableEq, Repr, Inhabited

/-- The request of an action. -/
structure ActionRequest where
  method : HttpMethod
  pathTemplate : String
  parameterGroup : Option String
  payload : Option Reference
  mimeTypes : List String
deriving DecidableEq, Repr, Inhabited

/-- A response of an action. -/
structure ActionResponse where
  statusCodes : List Nat
  payload : Option Reference
  mimeTypes : List String
deriving DecidableEq, Repr, Inhabited

/-- An action on a resource. -/
structure ResourceAction where
  actionId : String
  common : Bool
  request : ActionRequest
  responses : List ActionResponse
deriving DecidableEq, Repr, Inhabited

/-- A resource. -/
structure Resource where
  businessObject : Option Reference
  basePath : String
  isAbstract : Bool
  firstClass : Bool
  parents : List ParentRef
  parameterGroups : List ParameterGroup
  actions : List ResourceAction
deriving DecidableEq, Repr, Inhabited

namespace ParameterLocation

/-- All locations. -/
def all : List ParameterLocation :=
  [path, query, header]

/-- How a location is written. -/
def name : ParameterLocation → String
  | path => "path"
  | query => "query"
  | header => "header"

/-- The location of a written name. -/
def ofName? (s : String) : Option ParameterLocation :=
  all.find? fun l => l.name = s

end ParameterLocation

namespace HttpMethod

/-- All methods. -/
def all : List HttpMethod :=
  [get, post, put, patch, delete, head, options]

/-- The method in lower case. -/
def lower : HttpMethod → String
  | get => "get"
  | post => "post"
  | put => "put"
  | patch => "patch"
  | delete => "delete"
  | head => "head"
  | options => "options"

/-- How a method is written. -/
def name : HttpMethod → String
  | get => "GET"
  | post => "POST"
  | put => "PUT"
  | patch => "PATCH"
  | delete => "DELETE"
  | head => "HEAD"
  | options => "OPTIONS"

/-- The method of a written name. -/
def ofName? (s : String) : Option HttpMethod :=
  all.find? fun m => m.name = s

end HttpMethod

/-- The parameter group with a name. -/
def Resource.group? (r : Resource) (name : String) : Option ParameterGroup :=
  r.parameterGroups.find? fun g => g.name = name

/-! ## Services -/

/-- The direction of a message. -/
inductive MessageKind where
  | request
  | response
  | notification
deriving DecidableEq, Repr, Inhabited

/-- The mark of a direction in message names. -/
def MessageKind.suffix : MessageKind → String
  | request => "RQ"
  | response => "RS"
  | notification => "Notif"

/-- How a direction is shown. -/
def MessageKind.label : MessageKind → String
  | request => "Request"
  | response => "Response"
  | notification => "Notification"

/-- An operation of a service. -/
structure Operation where
  name : String
  request : Option FacetContent
  response : Option FacetContent
  notification : Option FacetContent
deriving DecidableEq, Repr, Inhabited

/-- A service. -/
structure Service where
  operations : List Operation
deriving DecidableEq, Repr, Inhabited

namespace Operation

/-- The declared messages: request, response, notification. -/
def messages (op : Operation) : List (MessageKind × FacetContent) :=
  [(.request, op.request), (.response, op.response), (.notification, op.notification)].filterMap
    fun (k, c) => c.map fun c => (k, c)

/-- The name of a message, such as `Orders_Create_RQ`. -/
def messageName (op : Operation) (service : String) (kind : MessageKind) : String :=
  service ++ "_" ++ op.name ++ "_" ++ kind.suffix

end Operation

/-! ## Bodies -/

/-- The content of an entity, by kind. -/
inductive EntityBody where
  | simpleType (t : SimpleType)
  | enumeration (e : Enumeration)
  | valueWithAttributes (v : ValueWithAttributes)
  | coreObject (o : CoreObject)
  | businessObject (o : BusinessObject)
  | choiceObject (o : ChoiceObject)
  | contextualFacet (f : ContextualFacet)
  | extensionPointFacet (f : ExtensionPointFacet)
  | resource (r : Resource)
  | service (s : Service)
deriving DecidableEq, Repr, Inhabited

/-- An entity as a library declares it. -/
structure MemberDecl where
  name : String
  documentation : Option String
  body : EntityBody
deriving DecidableEq, Repr, Inhabited

namespace EntityBody

/-- The kind of a body. -/
def kind : EntityBody → EntityKind
  | simpleType _ => .simpleType
  | enumeration _ => .enumeration
  | valueWithAttributes _ => .valueWithAttributes
  | coreObject _ => .coreObject
  | businessObject _ => .businessObject
  | choiceObject _ => .choiceObject
  | contextualFacet _ => .contextualFacet
  | extensionPointFacet _ => .extensionPointFacet
  | resource _ => .resource
  | service _ => .service

/-- The reference to the supertype. -/
def extension? : EntityBody → Option Reference
  | coreObject o => o.extension
  | businessObject o => o.extension
  | choiceObject o => o.extension
  | enumeration e => e.extension
  | _ => none

/-- Whether an object is closed to extension points. -/
def notExtendable : EntityBody → Bool
  | coreObject o => o.notExtendable
  | businessObject o => o.notExtendable
  | choiceObject o => o.notExtendable
  | _ => false

/-- The aliases of an object. -/
def aliases : EntityBody → List String
  | coreObject o => o.aliases
  | businessObject o => o.aliases
  | choiceObject o => o.aliases
  | _ => []

/-- The fixed facets with content, in the order of growing content. -/
def fixedFacets : EntityBody → List (FacetKind × FacetContent)
  | businessObject o => [(.id, o.id), (.summary, o.summary), (.detail, o.detail)]
  | coreObject o => [(.summary, o.summary), (.detail, o.detail)]
  | choiceObject o => [(.shared, o.shared)]
  | _ => []

/-- The fixed facets that have a name of their own. -/
def fixedFacetKinds : EntityBody → List FacetKind
  | businessObject _ => [.id, .summary, .detail]
  | coreObject _ => [.simple, .summary, .detail]
  | choiceObject _ => [.shared]
  | _ => []

/-- The declared content of a fixed facet. -/
def declaredContent? (b : EntityBody) (kind : FacetKind) : Option FacetContent :=
  (b.fixedFacets.find? fun p => p.1 = kind).map Prod.snd

/-- The facet a plain reference to an object stands for. -/
def defaultFacet : EntityBody → FacetKind
  | choiceObject _ => .shared
  | _ => .summary

end EntityBody

/-! ## References of bodies -/

instance : References ParentRef where
  refs p := refs p.resource
  putRefs p rs := { p with resource := putRefs p.resource rs }

instance : References ParameterGroup where
  refs g := refs g.facet
  putRefs g rs := { g with facet := putRefs g.facet rs }

instance : References ActionRequest where
  refs q := refs q.payload
  putRefs q rs := { q with payload := putRefs q.payload rs }

instance : References ActionResponse where
  refs p := refs p.payload
  putRefs p rs := { p with payload := putRefs p.payload rs }

instance : References ResourceAction where
  refs a := refs (a.request, a.responses)
  putRefs a rs :=
    let p := putRefs (a.request, a.responses) rs
    { a with request := p.1, responses := p.2 }

instance : References Resource where
  refs r := refs (r.businessObject, r.parents, r.parameterGroups, r.actions)
  putRefs r rs :=
    let p := putRefs (r.businessObject, r.parents, r.parameterGroups, r.actions) rs
    { r with
      businessObject := p.1, parents := p.2.1, parameterGroups := p.2.2.1, actions := p.2.2.2 }

instance : References Operation where
  refs op := refs (op.request, op.response, op.notification)
  putRefs op rs :=
    let p := putRefs (op.request, op.response, op.notification) rs
    { op with request := p.1, response := p.2.1, notification := p.2.2 }

instance : References Service where
  refs s := refs s.operations
  putRefs s rs := { s with operations := putRefs s.operations rs }

instance : References SimpleType where
  refs t := refs t.base
  putRefs t rs := { t with base := putRefs t.base rs }

instance : References Enumeration where
  refs e := refs e.extension
  putRefs e rs := { e with extension := putRefs e.extension rs }

instance : References ValueWithAttributes where
  refs v := refs (v.valueType, v.content)
  putRefs v rs :=
    let p := putRefs (v.valueType, v.content) rs
    { v with valueType := p.1, content := p.2 }

instance : References CoreObject where
  refs o := refs (o.extension, o.simpleType, o.summary, o.detail)
  putRefs o rs :=
    let p := putRefs (o.extension, o.simpleType, o.summary, o.detail) rs
    { o with extension := p.1, simpleType := p.2.1, summary := p.2.2.1, detail := p.2.2.2 }

instance : References BusinessObject where
  refs o := refs (o.extension, o.id, o.summary, o.detail)
  putRefs o rs :=
    let p := putRefs (o.extension, o.id, o.summary, o.detail) rs
    { o with extension := p.1, id := p.2.1, summary := p.2.2.1, detail := p.2.2.2 }

instance : References ChoiceObject where
  refs o := refs (o.extension, o.shared)
  putRefs o rs :=
    let p := putRefs (o.extension, o.shared) rs
    { o with extension := p.1, shared := p.2 }

instance : References ContextualFacet where
  refs f := refs (f.owner, f.content)
  putRefs f rs :=
    let p := putRefs (f.owner, f.content) rs
    { f with owner := p.1, content := p.2 }

instance : References ExtensionPointFacet where
  refs f := refs (f.extended, f.content)
  putRefs f rs :=
    let p := putRefs (f.extended, f.content) rs
    { f with extended := p.1, content := p.2 }

instance : References EntityBody where
  refs
    | .simpleType t => refs t
    | .enumeration e => refs e
    | .valueWithAttributes v => refs v
    | .coreObject o => refs o
    | .businessObject o => refs o
    | .choiceObject o => refs o
    | .contextualFacet f => refs f
    | .extensionPointFacet f => refs f
    | .resource r => refs r
    | .service s => refs s
  putRefs
    | .simpleType t, rs => .simpleType (putRefs t rs)
    | .enumeration e, rs => .enumeration (putRefs e rs)
    | .valueWithAttributes v, rs => .valueWithAttributes (putRefs v rs)
    | .coreObject o, rs => .coreObject (putRefs o rs)
    | .businessObject o, rs => .businessObject (putRefs o rs)
    | .choiceObject o, rs => .choiceObject (putRefs o rs)
    | .contextualFacet f, rs => .contextualFacet (putRefs f rs)
    | .extensionPointFacet f, rs => .extensionPointFacet (putRefs f rs)
    | .resource r, rs => .resource (putRefs r rs)
    | .service s, rs => .service (putRefs s rs)

/-- The references of a body bound to a list of targets of the same length. -/
def EntityBody.assign (b : EntityBody) (targets : List (Option Symbol)) : EntityBody :=
  putRefs b ((refs b).zipWith (fun r t => { r with target := t }) targets)

end TravelModel
