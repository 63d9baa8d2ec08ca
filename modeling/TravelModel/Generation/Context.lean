import TravelModel.Generation.Naming
import TravelModel.Generation.Registry
import TravelModel.Scope.Order

/-!
# TravelModel — context of a generation

All that a transformer looks at, and what follows from it: the content of
facets with what is inherited, namespaces, files and type names.
-/

namespace TravelModel

/-- Whether a generation is found to be cancelled when a library of a format comes up. -/
abbrev Cancellation := TargetFormat → LibraryId → Bool

/-- All that a transformer looks at. -/
structure GenerationContext where
  model : Model
  scope : Scope
  options : GenerationOptions
  registry : Registry := .standard
  order : List LibraryId := []
  cancelled : Cancellation := fun _ _ => false

namespace GenerationContext

/-- The entities of a library that are in scope. -/
def emittedEntities (c : GenerationContext) (library : LibraryId) : List NamedEntity :=
  (c.model.libraryEntities library).filter fun e => c.scope.entities.contains e.id

/-- An error if the generation is cancelled before a library of a format. -/
def checkCancelled (c : GenerationContext) (f : TargetFormat) (library : LibraryId) :
    Except GenerationError Unit :=
  if c.cancelled f library then .error .cancelled else .ok ()

/-! ## Content -/

/-- The contents an entity itself gives to a facet. -/
def ownContents (c : GenerationContext) (kind : FacetKind) (id : EntityId) : List FacetContent :=
  match c.model.entity? id with
  | none => []
  | some e =>
    (e.body.fixedFacets.filter fun f => f.1.rank ≤ kind.rank && f.1 ≠ .simple).map Prod.snd

/-- The content of a facet: what supertypes give, the farthest first, and what
lower facets give. -/
def facetContent (c : GenerationContext) (id : EntityId) (kind : FacetKind) : FacetContent :=
  .concat (((c.model.extensionChain id).reverse ++ [id]).flatMap (c.ownContents kind))

/-- The content of a contextual facet as seen on an owner: except for queries,
that of the owner's default facet comes first. -/
def contextualContent (c : GenerationContext) (owner : Option NamedEntity) (f : ContextualFacet) :
    FacetContent :=
  let inherited :=
    match owner with
    | some o =>
      if f.facetKind ≠ ContextualKind.query && o.kind.isObject then c.facetContent o.id o.body.defaultFacet
      else {}
    | none => {}
  inherited.append f.content

/-! ## Namespaces and files -/

/-- The namespace written for a declared one. -/
def outputNamespace (c : GenerationContext) (ns : String) : String :=
  match c.options.namespacePolicy with
  | .full => ns
  | .major => (VersionScheme.majorNamespace ns).toOption.getD ns

/-- The namespace written for a library. -/
def libraryNamespace? (c : GenerationContext) (l : Library) : Option String :=
  l.ns.map fun ns => if l.builtIn then ns else c.outputNamespace ns

/-- The namespaces written for the hosts of a library without one. -/
def libraryHosts (c : GenerationContext) (l : Library) : List String :=
  if l.isChameleon then (c.model.symbols.hostsOf l.id).map c.outputNamespace else []

/-- The namespace written for an entity as seen from a library. An entity of a
hosted library has none in its own library, elsewhere that of the library if
it is a host, and otherwise that of the first host. -/
def entityNamespace? (c : GenerationContext) (id : EntityId) (seenBy : Option LibraryId) :
    Option String := do
  let l ← c.model.owner? id
  match c.libraryNamespace? l with
  | some ns => return ns
  | none =>
    let viewer := seenBy.bind c.model.library?
    if viewer.map Library.id = some l.id then none
    else
      let hosts := c.model.symbols.hostsOf l.id
      let host ← ((viewer.bind Library.ns).filter hosts.contains).or hosts.head?
      return c.outputNamespace host

/-- The file of a library in a format. -/
def libraryFile? (c : GenerationContext) (l : Library) (format : TargetFormat) : Option String :=
  if l.builtIn then
    if (format = .xmlSchema || format = .serviceSchema) && l.ns = some Builtin.commonNamespace then
      some (Builtin.directory ++ "/" ++ Builtin.commonFile)
    else none
  else
    let format := if format = .serviceSchema then .xmlSchema else format
    match c.options.template? format with
    | some t => some (Naming.applyTemplate t l)
    | none =>
      match format with
      | .xmlSchema => some (Naming.libraryStem l ++ ".xsd")
      | .jsonSchema => some (Naming.libraryStem l ++ ".schema.json")
      | _ => none

/-! ## Type names -/

/-- The type of an extension point: named for the facet it extends. -/
def extensionPointType (c : GenerationContext) (e : NamedEntity) (extended : Reference) : String :=
  match extended.target with
  | none => e.name
  | some s =>
    match s, c.model.entity? s.owner with
    | .facet _ k, some o => Naming.extensionPoint o.name k
    | .entity _, some o =>
      if o.kind.isObject then Naming.extensionPoint o.name o.body.defaultFacet else e.name
    | _, _ => e.name

/-- The type a reference to an entity stands for. -/
def declaredType (c : GenerationContext) (e : NamedEntity) : String :=
  match e.body with
  | .coreObject _ | .businessObject _ => Naming.facetType e.name .summary
  | .choiceObject _ => Naming.facetType e.name .shared
  | .extensionPointFacet f => c.extensionPointType e f.extended
  | _ => e.name

/-- The type a symbol stands for. -/
def typeName? (c : GenerationContext) (s : Symbol) : Option String := do
  let owner ← c.model.entity? s.owner
  match s with
  | .entity _ | .aliasOf _ _ => return c.declaredType owner
  | .facet _ k => return Naming.facetType owner.name k
  | .ghost _ _ => c.model.localName? s

/-- Whether an entity comes with the program. -/
def isBuiltIn (c : GenerationContext) (id : EntityId) : Bool :=
  ((c.model.owner? id).map Library.builtIn).getD false

end GenerationContext

end TravelModel
