import TravelModel.Generation.JsonSchema

/-!
# TravelModel — API documents

A resource that is not abstract has a document in each API format. Its
actions are found under the path of the resource, below each parent for a
nested one; its schemas are the definitions of all that the resource needs.
-/

namespace TravelModel

/-! ## Paths -/

/-- A text without slashes at its ends. -/
def trimSlashes (s : String) : List Char :=
  Text.trimBoth (· = '/') s.toList

/-- Joins segments with one slash before each; segments of slashes only are
left out. -/
def joinPath (segments : List String) : String :=
  let path := ((segments.map trimSlashes).filter fun s => !s.isEmpty).flatMap ('/' :: ·)
  if path.isEmpty then "/" else String.ofList path

/-- What a status code means. -/
def statusText : Nat → String
  | 200 => "OK"
  | 201 => "Created"
  | 202 => "Accepted"
  | 204 => "No Content"
  | 400 => "Bad Request"
  | 401 => "Unauthorized"
  | 403 => "Forbidden"
  | 404 => "Not Found"
  | 409 => "Conflict"
  | 500 => "Internal Server Error"
  | _ => "Response"

/-- The declared media types, or JSON. -/
def mimeTypes (declared : List String) : List String :=
  if declared.isEmpty then ["application/json"] else declared

/-- The two forms of API documents. -/
inductive ApiForm where
  | openApi
  | swagger
deriving DecidableEq, Repr, Inhabited

namespace ApiForm

/-- How references are written in a form. -/
def style : ApiForm → RefStyle
  | openApi => .components
  | swagger => .definitions

/-- The format of a form. -/
def format : ApiForm → TargetFormat
  | openApi => .openApi
  | swagger => .swagger

/-- What file names end in. -/
def ending : ApiForm → String
  | openApi => ".openapi.json"
  | swagger => ".swagger.json"

end ApiForm

namespace GenerationContext

open JsonSchema

/-! ## Parameters -/

/-- The content of the facet a parameter group draws from. -/
def groupContent? (c : GenerationContext) (g : ParameterGroup) : Option FacetContent := do
  match ← g.facet.bind Reference.target with
  | .facet owner kind => return c.facetContent owner kind
  | .entity owner | .aliasOf owner _ =>
    let e ← c.model.entity? owner
    return c.facetContent owner e.body.defaultFacet
  | .ghost _ _ => none

/-- The type of a field of a content. -/
def fieldType? (content : FacetContent) (field : String) : Option Reference :=
  ((content.attributes.find? fun a => a.name = field).map Attribute.type).or
    ((content.elements.find? fun e => e.propertyName = field).map Element.type)

/-- The schema of a parameter; only types that are written out count. -/
def fieldSchema (c : GenerationContext) (form : ApiForm) (g : ParameterGroup) (field : String) :
    Json :=
  match (c.groupContent? g).bind fun content => fieldType? content field with
  | none => ofType "string"
  | some r =>
    let schema := c.typeSchema form.style r
    if (schema.field? "$ref").isSome then ofType "string" else schema

/-- The parameters of a group. -/
def parameterList (c : GenerationContext) (form : ApiForm) (g : ParameterGroup) : List Json :=
  g.parameters.map fun p =>
    let schema := c.fieldSchema form g p.fieldName
    let shared :=
      [ ("name", Json.str p.fieldName), ("in", .str p.location.name),
        ("required", .bool (p.location = .path)) ]
    match form with
    | .openApi => .object (shared ++ [("schema", schema)])
    | .swagger =>
      .object <|
        shared ++ [("type", (schema.field? "type").getD (.str "string"))] ++
          ((schema.field? "format").map fun f => ("format", f)).toList

/-- The parameters of the group with a name. -/
def namedParameters (c : GenerationContext) (form : ApiForm) (r : Resource)
    (group : Option String) : List Json :=
  ((group.bind r.group?).map (c.parameterList form)).getD []

/-! ## Operations -/

/-- A schema under each media type. -/
def mediaContent (types : List String) (schema : Json) : Json :=
  .object (types.map fun t => (t, .object [("schema", schema)]))

/-- A response with a status code. -/
def responseObject (c : GenerationContext) (form : ApiForm) (r : ActionResponse) (code : Nat) :
    Json :=
  .object <|
    ("description", .str (statusText code)) ::
      match r.payload with
      | none => []
      | some p =>
        let schema := c.typeSchema form.style p
        match form with
        | .openApi => [("content", mediaContent (mimeTypes r.mimeTypes) schema)]
        | .swagger => [("schema", schema)]

/-- The responses of an action by status code. -/
def responsesObject (c : GenerationContext) (form : ApiForm) (a : ResourceAction) : Json :=
  let entries := a.responses.flatMap fun r =>
    r.statusCodes.map fun code => (toString code, c.responseObject form r code)
  if entries.isEmpty then
    .object [("default", .object [("description", .str "Unexpected error")])]
  else .object entries

/-- The media types of the responses that have a payload, each once. -/
def producedTypes (a : ResourceAction) : List String :=
  ((a.responses.filter fun r => r.payload.isSome).flatMap fun r => mimeTypes r.mimeTypes).eraseDups

/-- The operation of an action with the parameters of its path. -/
def operationObject (c : GenerationContext) (form : ApiForm) (e : NamedEntity)
    (a : ResourceAction) (parameters : List Json) : Json :=
  let body := a.request.payload.map (c.typeSchema form.style)
  let types := mimeTypes a.request.mimeTypes
  let parameters :=
    parameters ++
      match form, body with
      | .swagger, some schema =>
        [ .object
            [ ("in", .str "body"), ("name", .str "body"), ("required", .bool true),
              ("schema", schema) ] ]
      | _, _ => []
  .object <|
    [ ("operationId", .str a.actionId), ("tags", .strings [e.name]),
      ("responses", c.responsesObject form a) ] ++
      (match form, body with
        | .swagger, some _ => [("consumes", .strings types)]
        | .openApi, some schema =>
          [ ("requestBody",
              .object [("required", .bool true), ("content", mediaContent types schema)]) ]
        | _, none => []) ++
      (if parameters.isEmpty then [] else [("parameters", .arr parameters)]) ++
      if form = .swagger && !(producedTypes a).isEmpty then
        [("produces", .strings (producedTypes a))]
      else []

/-- The paths a resource is found under, with the parameters each brings: its
own if it is first class or has no parents, and one below each parent. -/
def pathPrefixes (c : GenerationContext) (form : ApiForm) (r : Resource) :
    List (String × List Json) :=
  (if r.firstClass || r.parents.isEmpty then [("", [])] else []) ++
    r.parents.filterMap fun p =>
      match (p.resource.entity?.bind c.model.entity?).map NamedEntity.body with
      | some (.resource parent) =>
        some (joinPath [parent.basePath, p.pathTemplate],
          c.namedParameters form parent p.parameterGroup)
      | _ => none

/-- The operations of a resource: path, method and operation. -/
def operations (c : GenerationContext) (form : ApiForm) (e : NamedEntity) (r : Resource) :
    List (String × String × Json) :=
  (c.pathPrefixes form r).flatMap fun (start, parameters) =>
    r.actions.map fun a =>
      (joinPath [start, r.basePath, a.request.pathTemplate], a.request.method.lower,
        c.operationObject form e a
          (parameters ++ c.namedParameters form r a.request.parameterGroup))

/-- The operations of a resource by path and method; of two under one method the
later wins. -/
def pathsObject (c : GenerationContext) (form : ApiForm) (e : NamedEntity) (r : Resource) : Json :=
  let paths : Keyed (Keyed Json) := (c.operations form e r).foldl
    (fun acc (path, method, op) =>
      acc.insert path (((acc.find? path).getD []).insert method op))
    []
  .obj (paths.map fun (path, methods) => (path, .obj methods))

/-! ## Documents -/

/-- The definitions of all user entities a resource needs. -/
def apiSchemas (c : GenerationContext) (form : ApiForm) (e : NamedEntity) :
    Except GenerationError (List (String × Json)) := do
  let members := (Scope.build c.model [e.id] none).entities.filterMap c.model.entity?
  let members := members.filter fun m =>
    m.kind ≠ .resource && m.kind ≠ .service && !c.isBuiltIn m.id
  let parts ← members.mapM (c.registeredDefinitions form.style)
  return parts.flatten

/-- Title, version and description of a resource. -/
def infoObject (c : GenerationContext) (e : NamedEntity) : Json :=
  .object <|
    [ ("title", .str e.name),
      ("version", .str (((c.model.library? e.library).map Library.version).getD "")) ] ++
      (e.documentation.map fun d => ("description", .str d)).toList

/-- Where a service is found, in the words of a form. -/
def serverEntries (form : ApiForm) (url : Url) : List (String × Json) :=
  match form with
  | .openApi => [("servers", .arr [.object [("url", .str url.text)]])]
  | .swagger =>
    let host := url.host?.map fun h =>
      h.text ++ ((url.port?.map fun p => ":" ++ toString p).getD "")
    (host.map fun h => ("host", Json.str h)).toList ++
      [("basePath", .str url.path.text), ("schemes", .strings [url.scheme])]

/-- The API document of a resource. -/
def apiObject (c : GenerationContext) (form : ApiForm) (e : NamedEntity) (r : Resource)
    (schemas : List (String × Json)) : Json :=
  let base := c.options.resourceBaseUrl.bind fun u => (Url.parse u).toOption
  .object <|
    [("info", c.infoObject e), ("paths", c.pathsObject form e r)] ++
      (base.map (serverEntries form)).getD [] ++
      match form with
      | .openApi =>
        [ ("openapi", .str "3.0.3"),
          ("components", .object [("schemas", .object schemas)]) ]
      | .swagger => [("swagger", .str "2.0"), ("definitions", .object schemas)]

/-- The API file of an entity that is a resource and not abstract. -/
def apiFile (c : GenerationContext) (form : ApiForm) (e : NamedEntity) :
    Except GenerationError (List OutputFile) := do
  match e.body with
  | .resource r =>
    if r.isAbstract then return []
    else
      let schemas ← c.apiSchemas form e
      return [
        { path := e.name ++ form.ending, format := form.format
          contents := documentText (c.apiObject form e r schemas) } ]
  | _ => return []

/-- The API files a registered transformer makes of an entity. -/
def registeredApi (c : GenerationContext) (form : ApiForm) (e : NamedEntity) :
    Except GenerationError (List OutputFile) := do
  if c.registry.contains e.kind form.format then
    let _ ← c.registry.getFitting e.kind form.format
    c.apiFile form e
  else return []

/-- The API files of the entities in scope, in order. -/
def apiFiles (c : GenerationContext) (form : ApiForm) :
    Except GenerationError (List OutputFile) := do
  let parts ← c.order.mapM fun id => do
    c.checkCancelled form.format id
    (c.emittedEntities id).mapM (c.registeredApi form)
  return parts.flatten.flatten

end GenerationContext

end TravelModel
