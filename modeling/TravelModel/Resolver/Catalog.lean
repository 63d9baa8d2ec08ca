import TravelModel.Files.Tree
import TravelModel.Json.Decode
import TravelModel.Toml.Parser
import TravelModel.Url.FilePath

/-!
# TravelModel — catalogs

A catalog says where the libraries of a namespace are. Locations that are
not complete are seen from the catalog.
-/

namespace TravelModel

/-- Where the libraries of namespaces are. -/
structure Catalog where
  entries : Keyed (List Url)
deriving DecidableEq, Repr, Inhabited

/-- What can be wrong with a catalog. -/
inductive CatalogError where
  | unreadable (cause : FileError)
  | malformed
  | location (cause : UrlError)
deriving DecidableEq, Repr, Inhabited

/-- The wording of a catalog's error. -/
def CatalogError.message : CatalogError → String
  | unreadable e => "IO error: " ++ e.message
  | malformed => "Catalog error: malformed catalog"
  | location e => "URL error: " ++ e.message

/-- The wording of what caused a catalog's error. -/
def CatalogError.cause : CatalogError → String
  | unreadable e => e.message
  | malformed => "malformed catalog"
  | location e => e.message

namespace Catalog

/-- The locations of a namespace. -/
def locations? (c : Catalog) (ns : String) : Option (List Url) :=
  c.entries.find? ns

/-- The namespaces with their locations, as written. -/
def decode? (j : Json) : Option (Keyed (List String)) := do
  let s ← RecordSource.object? j
  s.withDefault 0 "namespaces"
    (fun n => do
      (← n.fields?).mapM fun (k, v) => return (k, ← Json.list? Json.text? v))
    []

/-- A location, complete or seen from another. -/
def locate (base : Url) (s : String) : Except CatalogError Url :=
  match Url.parse s with
  | .ok u => .ok u
  | .error _ => (base.join s).mapError .location

/-- Reads the text of a catalog that is at a location. -/
def parse (s : String) (base : Url) : Except CatalogError Catalog := do
  match (Toml.parse? s).bind fun v => decode? (v.toJson false) with
  | none => .error .malformed
  | some written =>
    return { entries := ← written.mapM fun (k, ls) => return (k, ← ls.mapM (locate base)) }

/-- Loads a catalog from a file. -/
def load (t : FileTree) (path : String) : Except CatalogError Catalog := do
  let s ← (t.readText path).mapError .unreadable
  let place ← (t.locate path).mapError .unreadable
  parse s (Url.ofComponents place)

end Catalog

end TravelModel
