import TravelModel.Files.Path
import TravelModel.Url.Parser

/-!
# TravelModel — file paths as locations

A path from the root is a file location, segment by segment; a location
without a host names a path.
-/

namespace TravelModel.Url

/-- The components of a path that make segments. -/
def pathComponents (path : String) : List String :=
  (Files.rawParts path).filter (· ≠ ".")

/-- Characters encoded in a segment that comes from a path. -/
def componentSet (c : Char) : Bool :=
  pathSet c || c = '/' || c = '%' || c = '\\'

/-- The location of a file, given by its components. -/
def ofComponents (components : List String) : Url :=
  let segments := components.map fun c => Percent.encode componentSet c.toList
  { scheme := "file", authority := fileAuthority none
    path := .rooted (if segments.isEmpty then [""] else segments), query := none, fragment := none }

/-- The location of a file with a path from the root. -/
def ofFilePath? (path : String) : Option Url :=
  if Files.isAbsolute path then some (ofComponents (pathComponents path)) else none

/-- The path a location names. A drive letter at the end closes with a slash. -/
def toFilePath? (u : Url) : Option String := do
  let segments ← u.segments?
  if u.host?.isNone || u.host? = some (.domain "localhost") then
    let path ← Percent.decodeText? (String.join (segments.map ("/" ++ ·)))
    let last := path.toList.drop (path.length - 2)
    return if path.length > 2 && isDriveLetter last then path ++ "/" else path
  else none

end TravelModel.Url
