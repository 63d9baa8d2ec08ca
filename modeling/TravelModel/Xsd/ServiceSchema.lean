import TravelModel.Xsd.Linking

/-!
# TravelModel — schemas of services

A service has a schema with a type and an element for each message of its
operations. A business object has one with a request for each of its facets
and the responses.
-/

namespace TravelModel

namespace GenerationContext

open Xsd

/-- A document in the namespace of an entity's library. -/
def serviceDocument? (c : GenerationContext) (e : NamedEntity) (path : String)
    (documentation : Option String) (components : List Component) : Option Document :=
  (c.model.library? e.library).map fun l =>
    { path, library := some l.id, hosts := c.libraryHosts l, service := true
      schema :=
        { targetNamespace := c.libraryNamespace? l, version := some l.version, documentation
          components } }

/-- The namespace of the documents of an entity's services. -/
def serviceNamespace? (c : GenerationContext) (e : NamedEntity) : Option String :=
  (c.model.library? e.library).bind c.libraryNamespace?

/-- A global element without documentation. -/
def plainElement (name : String) (type : QName) : Component :=
  .element { name, type, substitutionGroup := none, documentation := none }

/-- Type and element of a message. -/
def messageComponents (c : GenerationContext) (e : NamedEntity) (op : Operation)
    (kind : MessageKind) (content : FacetContent) : List Component :=
  let name := op.messageName e.name kind
  [ .complexType (c.facetType name none content none e.library),
    plainElement name ⟨c.serviceNamespace? e, name⟩ ]

/-- The schema of the messages of a service. -/
def messageDocuments (c : GenerationContext) (e : NamedEntity) : List Document :=
  match e.body with
  | .service s =>
    (c.serviceDocument? e (Naming.serviceFile e.name)
      (c.options.serviceEndpointUrl.map ("Service endpoint: " ++ ·))
      (s.operations.flatMap fun op =>
        op.messages.flatMap fun (k, content) => c.messageComponents e op k content)).toList
  | _ => []

/-- The facets a business object can be asked for, with their types: the fixed
ones, the contextual ones in scope and the inherited ones. -/
def responseFacets (c : GenerationContext) (e : NamedEntity) : List (String × QName) :=
  let fixed := [FacetKind.id, .summary, .detail].map fun k =>
    (k.label, c.ownQName e (Naming.facetType e.name k))
  let attached := ((c.model.symbols.facetsOf e.id).filter c.scope.entities.contains).filterMap
    fun id => do
      let f ← c.model.entity? id
      match f.body with
      | .contextualFacet b =>
        some (b.facetKind.facetKind.label ++ "_" ++ b.facetName,
          (⟨c.entityNamespace? f.id (some e.library), f.name⟩ : QName))
      | _ => none
  let inherited := (c.model.ghostFacets e.id).map fun g =>
    (g.kind.facetKind.label ++ "_" ++ g.facetName, c.ownQName e (c.model.ghostName g))
  fixed ++ attached ++ inherited

/-- The components of the requests and responses of a business object. -/
def requestResponseComponents (c : GenerationContext) (e : NamedEntity) : List Component :=
  let own (name : String) : QName := ⟨c.serviceNamespace? e, name⟩
  let facets := c.responseFacets e
  let selector := Naming.facetSelector e.name
  let request := e.name ++ "_RQ"
  [ .simpleType
      { name := selector, documentation := none
        derivation := .restriction (.primitive "string")
          (facets.map fun f => .enumeration f.1 none) },
    .complexType
      { name := request, documentation := none
        content := .sequence
          [ { term := .ref (own ((Naming.facetElement? e.name .id).getD "")), minOccurs := 1
              maxOccurs := some 1 } ]
        attributes :=
          [{ name := "facet", type := own selector, required := true, documentation := none }] } ] ++
    facets.flatMap fun (label, type) =>
      [ plainElement (e.name ++ "_" ++ label ++ "_RQ") (own request),
        plainElement (e.name ++ "_" ++ label ++ "_RS") type ]

/-- The schema of the requests and responses of a business object. -/
def requestResponseDocuments (c : GenerationContext) (e : NamedEntity) : List Document :=
  match e.body with
  | .businessObject _ =>
    (c.serviceDocument? e (Naming.requestResponseFile e.name) none
      (c.requestResponseComponents e)).toList
  | _ => []

/-- The service documents of an entity whose kind has a transformer for them. -/
def fittingServices (c : GenerationContext) (e : NamedEntity) :
    Except GenerationError (List Document) := do
  match ← c.registry.getFitting e.kind .serviceSchema with
  | .messages => return c.messageDocuments e
  | .requestResponse => return c.requestResponseDocuments e
  | _ => return []

/-- The service documents of an entity; kinds without a transformer have none. -/
def registeredServices (c : GenerationContext) (e : NamedEntity) :
    Except GenerationError (List Document) :=
  if c.registry.contains e.kind .serviceSchema then c.fittingServices e else .ok []

/-- The service documents of the entities in scope, in order. -/
def serviceDocuments (c : GenerationContext) : Except GenerationError (List Document) := do
  let parts ← c.order.mapM fun id => do
    c.checkCancelled .serviceSchema id
    (c.emittedEntities id).mapM c.registeredServices
  return parts.flatten.flatten

end GenerationContext

end TravelModel
