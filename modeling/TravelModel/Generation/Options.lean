import TravelModel.Keyed
import TravelModel.Url.Parser

/-!
# TravelModel — formats and options

Which documents a generation writes, and how.
-/

namespace TravelModel

/-- The formats of generated documents. -/
inductive TargetFormat where
  | xmlSchema
  | serviceSchema
  | jsonSchema
  | openApi
  | swagger
deriving DecidableEq, Repr, Inhabited

namespace TargetFormat

/-- All formats, in the order of generation. -/
def all : List TargetFormat :=
  [xmlSchema, serviceSchema, jsonSchema, openApi, swagger]

/-- The name of a format. -/
def name : TargetFormat → String
  | xmlSchema => "xml_schema"
  | serviceSchema => "service_schema"
  | jsonSchema => "json_schema"
  | openApi => "openapi"
  | swagger => "swagger"

/-- The format of a name. -/
def ofName? (s : String) : Option TargetFormat :=
  all.find? fun f => f.name = s

end TargetFormat

/-- Which formats are asked for. Documentation pages can be asked for, but none
are written. -/
structure FormatSelection where
  schemas : Bool := false
  jsonSchemas : Bool := false
  services : Bool := false
  swagger : Bool := false
  openApi : Bool := false
  htmlDocs : Bool := false
deriving DecidableEq, Repr, Inhabited

/-- The selected formats in the order of generation. -/
def FormatSelection.targets (s : FormatSelection) : List TargetFormat :=
  [ (s.schemas, TargetFormat.xmlSchema), (s.services, .serviceSchema),
    (s.jsonSchemas, .jsonSchema), (s.openApi, .openApi), (s.swagger, .swagger) ].filterMap
    fun (on, f) => if on then some f else none

/-- Which namespace generated documents have. -/
inductive NamespacePolicy where
  /-- The declared one. -/
  | full
  /-- That of the major version. -/
  | major
deriving DecidableEq, Repr, Inhabited

/-- The name of a policy. -/
def NamespacePolicy.name : NamespacePolicy → String
  | full => "full"
  | major => "major"

/-- The policy of a name. -/
def NamespacePolicy.ofName? (s : String) : Option NamespacePolicy :=
  [full, major].find? fun p => p.name = s

/-- The options of a generation. -/
structure GenerationOptions where
  outputDir : String
  formats : FormatSelection := { schemas := true }
  serviceEndpointUrl : Option String := none
  resourceBaseUrl : Option String := none
  suppressExtensions : Bool := false
  /-- Templates for file names, by format. -/
  filenameOverrides : List (TargetFormat × String) := []
  namespacePolicy : NamespacePolicy := .full
deriving DecidableEq, Repr, Inhabited

/-- The template for the file names of a format. -/
def GenerationOptions.template? (o : GenerationOptions) (f : TargetFormat) : Option String :=
  (o.filenameOverrides.find? fun e => e.1 = f).map Prod.snd

end TravelModel
