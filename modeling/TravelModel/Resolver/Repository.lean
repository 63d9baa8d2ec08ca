import TravelModel.Config.Basic
import TravelModel.Files.Tree
import TravelModel.Url.FilePath
import TravelModel.Version.Namespace

/-!
# TravelModel — repositories

A repository is a directory in which a library stands below the host, the
path and the version of its namespace. An item can also be named by the
repository and its path there.
-/

namespace TravelModel.Repository

/-- The repository and the path that a reference to an item names. -/
def parseUri? (uri : String) : Option (String × String) :=
  let scheme := "otm://".toList
  let cs := uri.toList
  if scheme.isPrefixOf cs then
    let rest := cs.drop scheme.length
    let id := rest.takeWhile (· ≠ '/')
    let path := (rest.dropWhile (· ≠ '/')).drop 1
    if id.isEmpty || path.isEmpty then none else some (String.ofList id, String.ofList path)
  else none

/-- The location of a file that exists. Only paths from the root have one. -/
def existing? (t : FileTree) (path : String) : Option Url :=
  if t.isFile path then Url.ofFilePath? path else none

/-- The directory of a namespace. -/
def namespaceDir? (r : Repository) (ns : String) : Option String := do
  let parts ← (VersionScheme.decompose ns).toOption
  let base ← (Url.parse parts.base).toOption
  let host := (base.host?.map UrlHost.text).toList
  let segments := (base.segments?.getD []).filter (· ≠ "")
  return (host ++ segments ++ [parts.version.text]).foldl Files.join r.root

/-- The location of a file of a namespace. -/
def lookup? (r : Repository) (t : FileTree) (ns file : String) : Option Url := do
  existing? t (Files.join (← r.namespaceDir? ns) file)

/-- The location of an item by its path. -/
def resolvePath? (r : Repository) (t : FileTree) (path : String) : Option Url :=
  existing? t (Files.join r.root (String.ofList (path.toList.dropWhile (· = '/'))))

end TravelModel.Repository
