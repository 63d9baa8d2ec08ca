import TravelModel.Config.Basic
import TravelModel.Number.Shortest

/-!
# TravelModel — reading settings

Settings are read from values by rules that say what counts as a text, a
flag or a choice: stored settings and single files are read strictly, layers
of files by wider rules.
-/

namespace TravelModel

/-- What counts as what when settings are read. -/
structure SettingRules where
  text? : Json → Option String
  flag? : Json → Option Bool
  /-- The name of a choice. -/
  choice? : Json → Option String
  /-- Whether the names of choices are the same in both cases. -/
  foldsCase : Bool
  /-- Whether a record may be a list with more items than fields. -/
  longLists : Bool

namespace SettingRules

/-- Rules for stored settings. -/
def stored : SettingRules :=
  { text? := Json.text?, flag? := Json.bool?, choice? := Json.plainChoice? some
    foldsCase := false, longLists := false }

/-- The name of a choice in a file: a text, or the only key of a table whose
value is empty. -/
def fileChoice? : Json → Option String
  | .str s => some s
  | .obj [(k, .obj [])] => some k
  | .obj [(k, .arr [])] => some k
  | _ => none

/-- Rules for the settings of a single file. -/
def file : SettingRules :=
  { text? := Json.text?, flag? := Json.bool?, choice? := fileChoice?, foldsCase := false
    longLists := true }

/-- A text from a single value. -/
def looseText? : Json → Option String
  | .str s => some s
  | .bool b => some (if b then "true" else "false")
  | .num (.whole n) => some (toString n)
  | .num (.float x) => some x.plainText
  | _ => none

/-- A flag from a word. -/
def flagWord? (s : String) : Option Bool :=
  match s.map Char.toLower with
  | "1" | "true" | "on" | "yes" => some true
  | "0" | "false" | "off" | "no" => some false
  | _ => none

/-- A flag from a single value. -/
def looseFlag? : Json → Option Bool
  | .str s => flagWord? s
  | .bool b => some b
  | .num (.whole n) => some (n ≠ 0)
  | .num (.float x) => some (x.mantissa ≠ 0)
  | _ => none

/-- The name of a choice in layers: a text, or the only key of a table. -/
def looseChoice? : Json → Option String
  | .str s => some s
  | .obj [(k, _)] => some k
  | _ => none

/-- Rules for layers of files. -/
def layered : SettingRules :=
  { text? := looseText?, flag? := looseFlag?, choice? := looseChoice?, foldsCase := true
    longLists := true }

variable {α : Type}

/-- Whether a name is that of a choice. -/
def sameName (r : SettingRules) (name given : String) : Bool :=
  if r.foldsCase then given.map Char.toLower = name else given = name

/-- The choice of a name. -/
def named? (r : SettingRules) (all : List α) (name : α → String) (given : String) : Option α :=
  all.find? fun a => r.sameName (name a) given

/-- Reads a choice. -/
def pick? (r : SettingRules) (all : List α) (name : α → String) (j : Json) : Option α :=
  (r.choice? j).bind (r.named? all name)

/-- The fields of a record. -/
def record? (r : SettingRules) (width : Nat) : Json → Option RecordSource
  | .arr items =>
    RecordSource.record? width (.arr (if r.longLists then items.take width else items))
  | j => RecordSource.record? width j

end SettingRules

variable (r : SettingRules)

/-- Reads a selection of formats. -/
def FormatSelection.decode? (j : Json) : Option FormatSelection := do
  let s ← r.record? 6 j
  return {
    schemas := ← s.withDefault 0 "schemas" r.flag? false
    jsonSchemas := ← s.withDefault 1 "json_schemas" r.flag? false
    services := ← s.withDefault 2 "services" r.flag? false
    swagger := ← s.withDefault 3 "swagger" r.flag? false
    openApi := ← s.withDefault 4 "openapi" r.flag? false
    htmlDocs := ← s.withDefault 5 "html_docs" r.flag? false }

/-- Reads a policy. -/
def NamespacePolicy.decode? (j : Json) : Option NamespacePolicy :=
  r.pick? [full, major] name j

/-- Reads a severity. -/
def Severity.decode? (j : Json) : Option Severity :=
  r.pick? [warning, error] name j

/-- Reads templates for file names; they come in the order of the formats. -/
def TargetFormat.decodeTemplates? (j : Json) : Option (List (TargetFormat × String)) := do
  let fields ← j.fields?
  let read ← fields.mapM fun (k, v) => return (← r.named? all name k, ← r.text? v)
  return all.filterMap fun f => read.reverse.find? fun e => e.1 = f

/-- Reads the loader's settings. -/
def LoaderConfig.decode? (j : Json) : Option LoaderConfig := do
  let s ← r.record? 2 j
  return {
    fallbackSeverity := ← s.withDefault 0 "fallback_severity" (Severity.decode? r) .warning
    parallel := ← s.withDefault 1 "parallel" r.flag? true }

/-- Reads a repository. -/
def Repository.decode? (j : Json) : Option Repository := do
  let s ← r.record? 2 j
  return { id := ← s.required 0 "id" r.text?, root := ← s.required 1 "root" r.text? }

/-- Reads the resolver's settings. -/
def ResolverConfig.decode? (j : Json) : Option ResolverConfig := do
  let s ← r.record? 2 j
  return {
    catalog := ← s.optional 0 "catalog" r.text?
    repositories := ← s.withDefault 1 "repositories" (Json.list? (Repository.decode? r)) [] }

/-- Reads the generation's settings. -/
def GenerationConfig.decode? (j : Json) : Option GenerationConfig := do
  let s ← r.record? 7 j
  return {
    outputDir := ← s.optional 0 "output_dir" r.text?
    formats := ← s.withDefault 1 "formats" (FormatSelection.decode? r) { schemas := true }
    serviceEndpointUrl := ← s.optional 2 "service_endpoint_url" r.text?
    resourceBaseUrl := ← s.optional 3 "resource_base_url" r.text?
    suppressExtensions := ← s.withDefault 4 "suppress_extensions" r.flag? false
    namespacePolicy := ← s.withDefault 5 "namespace_policy" (NamespacePolicy.decode? r) .full
    filenameOverrides :=
      ← s.withDefault 6 "filename_overrides" (TargetFormat.decodeTemplates? r) [] }

/-- Reads all settings. -/
def Config.decode? (j : Json) : Option Config := do
  let s ← r.record? 3 j
  return {
    loader := ← s.withDefault 0 "loader" (LoaderConfig.decode? r) {}
    resolver := ← s.withDefault 1 "resolver" (ResolverConfig.decode? r) {}
    generation := ← s.withDefault 2 "generation" (GenerationConfig.decode? r) {} }

end TravelModel
