import TravelModel.Files.Path
import TravelModel.Keyed

/-!
# TravelModel — file trees

Directories and files below a root, with a working directory. A path is
followed component by component: each but the last has to be a directory,
and `..` goes up from where it stands.
-/

namespace TravelModel

/-- What is found at a place of a file tree. -/
inductive FileNode where
  | directory
  | file (bytes : ByteArray)
deriving Inhabited

/-- Why a path cannot be used. -/
inductive FileError where
  | notFound
  | alreadyThere
  | notDirectory
  | isDirectory
  | nameTooLong
  | notText
deriving DecidableEq, Repr, Inhabited

/-- The wording of a file error, as systems give it. -/
def FileError.message : FileError → String
  | notFound => "No such file or directory (os error 2)"
  | alreadyThere => "File exists (os error 17)"
  | notDirectory => "Not a directory (os error 20)"
  | isDirectory => "Is a directory (os error 21)"
  | nameTooLong => "File name too long (os error 36)"
  | notText => "stream did not contain valid UTF-8"

/-- Directories and files. -/
structure FileTree where
  /-- What is found, by path from the root. -/
  nodes : Keyed FileNode := []
  /-- The working directory, from the root. -/
  workDir : List String := []
deriving Inhabited

namespace FileTree

/-- The path of a place from the root. -/
def placeText (place : List String) : String :=
  String.join (place.map ("/" ++ ·))

/-- What is found at a place; the root is a directory. -/
def nodeAt? (t : FileTree) (place : List String) : Option FileNode :=
  if place.isEmpty then some .directory else t.nodes.find? (placeText place)

/-- Whether a place is a directory. -/
def isDirAt (t : FileTree) (place : List String) : Bool :=
  match t.nodeAt? place with
  | some .directory => true
  | _ => false

/-- The place of a name in a directory. -/
def named (place : List String) (name : String) : Except FileError (List String) :=
  if name.toList.contains '\x00' then .error .notFound
  else if name.utf8ByteSize ≤ 255 then .ok (place ++ [name])
  else .error .nameTooLong

/-- Where a path starts. -/
def start (t : FileTree) (path : String) : List String :=
  if Files.isAbsolute path then [] else t.workDir

/-- Goes one component on. -/
def step (t : FileTree) (place : List String) (component : String) :
    Except FileError (List String) :=
  match t.nodeAt? place with
  | none => .error .notFound
  | some (.file _) => .error .notDirectory
  | some .directory =>
    if component = "." then .ok place
    else if component = ".." then .ok place.dropLast
    else named place component

/-- Whether a path ends in a slash, so that it can only be a directory. -/
def asksDirectory (path : String) : Bool :=
  path.toList.getLast? = some '/'

/-- The place of a path if all directories on the way exist. An empty path has
none. -/
def locate (t : FileTree) (path : String) : Except FileError (List String) := do
  if path = "" then .error .notFound
  let place ← (Files.rawParts path).foldlM t.step (t.start path)
  match t.nodeAt? place with
  | some (.file _) => if asksDirectory path then .error .notDirectory else return place
  | _ => return place

/-- What is found at a path. -/
def find? (t : FileTree) (path : String) : Option FileNode :=
  (t.locate path).toOption.bind t.nodeAt?

/-- Whether something is found at a path. -/
def pathExists (t : FileTree) (path : String) : Bool :=
  (t.find? path).isSome

/-- Whether a path is a directory. -/
def isDir (t : FileTree) (path : String) : Bool :=
  match t.find? path with
  | some .directory => true
  | _ => false

/-- Whether a path is a file. -/
def isFile (t : FileTree) (path : String) : Bool :=
  match t.find? path with
  | some (.file _) => true
  | _ => false

/-- The bytes of a file. -/
def read (t : FileTree) (path : String) : Except FileError ByteArray := do
  match t.nodeAt? (← t.locate path) with
  | some (.file bytes) => return bytes
  | some .directory => .error .isDirectory
  | none => .error .notFound

/-- The bytes of a file, if it can be read. -/
def read? (t : FileTree) (path : String) : Option ByteArray :=
  (t.read path).toOption

/-- The text of a file. -/
def readText (t : FileTree) (path : String) : Except FileError String := do
  match String.fromUTF8? (← t.read path) with
  | some s => return s
  | none => .error .notText

/-! ## Changing -/

/-- Puts a node at a place. -/
def putAt (t : FileTree) (place : List String) (node : FileNode) : FileTree :=
  { t with nodes := t.nodes.insert (placeText place) node }

/-- Makes directories along components. A file on the way is no directory, and
one at the end is there already. -/
def makeAlong : List String → FileTree → List String → Except FileError FileTree
  | [], t, _ => .ok t
  | "." :: rest, t, place => makeAlong rest t place
  | ".." :: rest, t, place => makeAlong rest t place.dropLast
  | name :: rest, t, place => do
    let next ← named place name
    match t.nodeAt? next with
    | some .directory => makeAlong rest t next
    | some (.file _) => .error (if rest.isEmpty then .alreadyThere else .notDirectory)
    | none => makeAlong rest (t.putAt next .directory) next

/-- Makes a directory and those above it. -/
def createDirAll (t : FileTree) (path : String) : Except FileError FileTree :=
  makeAlong (Files.rawParts path) t (t.start path)

/-- Writes a file into a directory that exists. -/
def write (t : FileTree) (path : String) (bytes : ByteArray) : Except FileError FileTree := do
  let place ← t.locate path
  if asksDirectory path || t.isDirAt place then .error .isDirectory
  else return t.putAt place (.file bytes)

/-- Removes a file. -/
def removeFile? (t : FileTree) (path : String) : Option FileTree := do
  let place ← (t.locate path).toOption
  match t.nodeAt? place with
  | some (.file _) =>
    some { t with nodes := t.nodes.filter fun e => e.1 ≠ placeText place }
  | _ => none

/-- Writes a file and the directories above it; a path that cannot be used
changes nothing. -/
def writeAll (t : FileTree) (path : String) (bytes : ByteArray) : FileTree :=
  ((t.createDirAll (Files.parent path)).bind fun t => t.write path bytes).toOption.getD t

/-! ## Listing -/

/-- The files below a place, as paths from there. -/
def filesBelow (t : FileTree) (place : List String) : List String :=
  let stem := placeText place ++ "/"
  t.nodes.filterMap fun (path, node) =>
    match node with
    | .file _ =>
      if path.startsWith stem then some (path.drop stem.length).toString else none
    | .directory => none

/-- The files below a directory, as paths from there, in order. -/
def list (t : FileTree) (dir : String) : List String :=
  match t.locate dir with
  | .ok place => if t.isDirAt place then t.filesBelow place else []
  | .error _ => []

end FileTree

end TravelModel
