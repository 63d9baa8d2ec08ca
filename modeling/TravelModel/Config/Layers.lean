import TravelModel.Config.Decode
import TravelModel.Files.Tree
import TravelModel.Json.Parser
import TravelModel.Toml.Parser
import TravelModel.Toml.Writer

/-!
# TravelModel — settings in files

Settings come from a single file, or from layers of files in which a later
one overrides an earlier one, table by table. They are saved with a section
for each table.
-/

namespace TravelModel.Config

/-! ## Reading -/

/-- Reads the text of a single file strictly. -/
def ofText? (s : String) : Option Config := do
  decode? .file ((← Toml.parse? s).toJson false)

/-- A key of a layer; case does not count. -/
def layerKey (k : String) : String :=
  k.map Char.toLower

mutual

/-- A value with a later one over it: tables are merged, all else is replaced. -/
def overlay (below : Option Json) : Json → Json
  | .obj fields => overlayFields (below.getD (.obj [])) fields
  | .null => .null
  | .bool b => .bool b
  | .num n => .num n
  | .str s => .str s
  | .arr items => .arr items

/-- A value with the fields of a later table over it; a value that is no table
becomes one. -/
def overlayFields (below : Json) : List (String × Json) → Json
  | [] => below
  | (k, v) :: rest =>
    let fields := (below.fields?).getD []
    let key := layerKey k
    overlayFields (.obj (Keyed.insert key (overlay (Keyed.find? key fields) v) fields)) rest

end

/-- The ending of the last component of a path, after a point that does not
start it. -/
def extension (path : String) : String :=
  let name := ((Files.rawParts path).getLast?.getD "").toList
  let after := (name.reverse.takeWhile (· ≠ '.')).reverse
  if after.length + 1 < name.length then String.ofList after else ""

/-- A form that settings are written in, with its reader. -/
def formats : List (String × (String → Option Json)) :=
  [("toml", fun s => (Toml.parse? s).map (Toml.toJson true)), ("json", Json.parse?)]

/-- The file that a name stands for, with its reader: the file itself, or one
with the ending of a form. -/
def findFile? (t : FileTree) (name : String) : Option (String × (String → Option Json)) :=
  if t.isFile name then
    (formats.find? fun f => f.1 = extension name).map fun f => (name, f.2)
  else
    (formats.find? fun f => t.isFile (name ++ "." ++ f.1)).map fun f =>
      (name ++ "." ++ f.1, f.2)

/-- Puts the settings of a file over others. A file that has to be there and is
not, and one that is no table, fail. -/
def addLayer (t : FileTree) (below : Json) (required : Bool) (name : String) : Option Json :=
  match (findFile? t name).bind fun f => (t.readText f.1).toOption.map fun s => f.2 s with
  | none => if required then none else some below
  | some none => none
  | some (some j) => j.fields?.map (overlayFields below)

/-- The places where settings are looked for, the later over the earlier. -/
def layerNames (home : String) : List String :=
  [ "otm.toml", ".otm.toml", "config/otm.toml",
    Files.join home ".config/otm-compiler/otm.toml" ]

/-- Loads settings from all places, and from a file over them. -/
def load? (t : FileTree) (home : String) (path : Option String) : Option Config := do
  let found ← (layerNames home).foldlM (fun j name => addLayer t j false name) (.obj [])
  let all ← match path with
    | some p => addLayer t found true p
    | none => some found
  decode? .layered all

/-! ## Saving -/

/-- The lines of entries: absent ones are left out. -/
def entryLines (entries : List (String × Json)) : List String :=
  entries.filterMap fun (k, v) =>
    match v with
    | .str s => some (k ++ " = " ++ Toml.quoteText s)
    | .bool b => some (k ++ " = " ++ if b then "true" else "false")
    | .arr [] => some (k ++ " = []")
    | _ => none

/-- A section: its header and its entries. -/
def sectionText (header : String) (entries : List (String × Json)) : String :=
  String.join ((header :: entryLines entries).map (· ++ "\n"))

/-- The sections of the resolver's settings. A table that has only tables needs
no header. -/
def resolverSections (c : ResolverConfig) : List String :=
  let own := if c.catalog.isNone && !c.repositories.isEmpty then []
    else [sectionText "[resolver]" c.entries]
  own ++ c.repositories.map fun r => sectionText "[[resolver.repositories]]" r.entries

/-- The saved form of settings. -/
def text (c : Config) : String :=
  "\n".intercalate <|
    [sectionText "[loader]" c.loader.entries] ++ resolverSections c.resolver ++
      [ sectionText "[generation]" c.generation.entries,
        sectionText "[generation.formats]" c.generation.formats.entries,
        sectionText "[generation.filename_overrides]"
          (TargetFormat.templateEntries c.generation.filenameOverrides) ]

end TravelModel.Config
