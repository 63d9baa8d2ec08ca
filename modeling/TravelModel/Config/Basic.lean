import TravelModel.Finding
import TravelModel.Generation.Options

/-!
# TravelModel — settings

The settings of loading, resolving and generating, with their defaults and
their stored form.
-/

namespace TravelModel

/-- Settings of loading libraries. -/
structure LoaderConfig where
  /-- How serious a document is that breaks the shape of its grammar. -/
  fallbackSeverity : Severity := .warning
  parallel : Bool := true
deriving DecidableEq, Repr, Inhabited

/-- A directory that holds library files by namespace. -/
structure Repository where
  id : String
  root : String
deriving DecidableEq, Repr, Inhabited

/-- Settings of finding libraries. -/
structure ResolverConfig where
  /-- The file that says where namespaces are. -/
  catalog : Option String := none
  repositories : List Repository := []
deriving DecidableEq, Repr, Inhabited

/-- Settings of generating documents. -/
structure GenerationConfig where
  outputDir : Option String := none
  formats : FormatSelection := { schemas := true }
  serviceEndpointUrl : Option String := none
  resourceBaseUrl : Option String := none
  suppressExtensions : Bool := false
  namespacePolicy : NamespacePolicy := .full
  filenameOverrides : List (TargetFormat × String) := []
deriving DecidableEq, Repr, Inhabited

/-- All settings. -/
structure Config where
  loader : LoaderConfig := {}
  resolver : ResolverConfig := {}
  generation : GenerationConfig := {}
deriving DecidableEq, Repr, Inhabited

/-- The options of a generation into a directory; without one, into that of the
settings. -/
def Config.generationOptions (c : Config) (outputDir : Option String) : GenerationOptions :=
  { outputDir := (outputDir.or c.generation.outputDir).getD "generated"
    formats := c.generation.formats
    serviceEndpointUrl := c.generation.serviceEndpointUrl
    resourceBaseUrl := c.generation.resourceBaseUrl
    suppressExtensions := c.generation.suppressExtensions
    filenameOverrides := c.generation.filenameOverrides
    namespacePolicy := c.generation.namespacePolicy }

/-! ## Stored form -/

/-- The entries of a selection of formats, in order. -/
def FormatSelection.entries (s : FormatSelection) : List (String × Json) :=
  [ ("schemas", .bool s.schemas), ("json_schemas", .bool s.jsonSchemas),
    ("services", .bool s.services), ("swagger", .bool s.swagger), ("openapi", .bool s.openApi),
    ("html_docs", .bool s.htmlDocs) ]

/-- The entries of templates for file names, in order. -/
def TargetFormat.templateEntries (templates : List (TargetFormat × String)) :
    List (String × Json) :=
  templates.map fun (f, t) => (f.name, .str t)

/-- The entries of the loader's settings, in order. -/
def LoaderConfig.entries (c : LoaderConfig) : List (String × Json) :=
  [("fallback_severity", .str c.fallbackSeverity.name), ("parallel", .bool c.parallel)]

/-- The entries of a repository, in order. -/
def Repository.entries (r : Repository) : List (String × Json) :=
  [("id", .str r.id), ("root", .str r.root)]

/-- The entries of the resolver's settings, in order. -/
def ResolverConfig.entries (c : ResolverConfig) : List (String × Json) :=
  [ ("catalog", .optStr c.catalog),
    ("repositories", .arr (c.repositories.map fun r => .obj r.entries)) ]

/-- The entries of the generation's settings, in order. -/
def GenerationConfig.entries (c : GenerationConfig) : List (String × Json) :=
  [ ("output_dir", .optStr c.outputDir), ("formats", .obj c.formats.entries),
    ("service_endpoint_url", .optStr c.serviceEndpointUrl),
    ("resource_base_url", .optStr c.resourceBaseUrl),
    ("suppress_extensions", .bool c.suppressExtensions),
    ("namespace_policy", .str c.namespacePolicy.name),
    ("filename_overrides", .obj (TargetFormat.templateEntries c.filenameOverrides)) ]

/-- The stored form of settings, with entries in order. -/
def Config.encode (c : Config) : Json :=
  .obj
    [ ("loader", .obj c.loader.entries), ("resolver", .obj c.resolver.entries),
      ("generation", .obj c.generation.entries) ]

end TravelModel
