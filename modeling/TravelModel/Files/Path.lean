import TravelModel.Text.Split

/-!
# TravelModel — paths

Paths are texts with slashes. A path that starts with a slash starts at the
root, any other at a working directory.
-/

namespace TravelModel.Files

/-- The parts of a path between slashes, without empty ones. -/
def rawParts (path : String) : List String :=
  ((Text.splitChars '/' path.toList).filter fun c => !c.isEmpty).map String.ofList

/-- What stands after the last slash of a path. -/
def lastPart (path : String) : String :=
  String.ofList ((Text.splitChars '/' path.toList).getLastD [])

/-- Whether a path starts at the root. -/
def isAbsolute (path : String) : Bool :=
  path.toList.head? = some '/'

/-- The components of a path: the root, a leading `.`, and all names and `..`. -/
def components (path : String) : List String :=
  let parts := rawParts path
  if isAbsolute path then "/" :: parts.filter (· ≠ ".")
  else
    match parts with
    | "." :: rest => "." :: rest.filter (· ≠ ".")
    | _ => parts.filter (· ≠ ".")

/-- A path below another; a path from the root stays as it is. -/
def join (dir path : String) : String :=
  if isAbsolute path || dir = "" then path
  else if dir.toList.getLast? = some '/' then dir ++ path
  else dir ++ "/" ++ path

/-- The components joined with slashes. -/
def slashed (path : String) : String :=
  "/".intercalate (components path)

/-- The path without its last component and the slashes before it. -/
def parent (path : String) : String :=
  let cs := (path.toList.reverse.dropWhile (· = '/')).dropWhile (· ≠ '/')
  let up := cs.dropWhile (· = '/')
  if up.isEmpty && isAbsolute path then "/" else String.ofList up.reverse

end TravelModel.Files
