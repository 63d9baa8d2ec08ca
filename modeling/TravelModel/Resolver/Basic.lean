import TravelModel.Resolver.Catalog
import TravelModel.Resolver.Repository

/-!
# TravelModel — finding libraries

A namespace with hints is resolved to locations. What the catalog lists
wins. Otherwise each hint is tried in turn as the name of a loaded library,
as a file, as an item of a repository, and as a file of the namespace in any
repository; what none of them finds is the location the hint itself names.
-/

namespace TravelModel

/-- What locations are found from. -/
structure Resolver where
  catalog : Option Catalog := none
  repositories : List Repository := []
  /-- Namespaces and locations of loaded libraries. -/
  loaded : List (Option String × Url) := []
  /-- What repositories have answered, by namespace and reference. -/
  answers : List ((String × String) × Option Url) := []
deriving DecidableEq, Repr, Inhabited

namespace Resolver

/-- Takes note of a loaded library. -/
def register (r : Resolver) (ns : Option String) (url : Url) : Resolver :=
  if r.loaded.contains (ns, url) then r else { r with loaded := r.loaded ++ [(ns, url)] }

/-- A loaded library of the namespace with the file name of the hint. -/
def fromLoaded? (r : Resolver) (ns : Option String) (hint : String) : Option Url :=
  (r.loaded.find? fun e => e.1 = ns && e.2.lastSegment? = some (Files.lastPart hint)).map Prod.snd

/-- A file that a hint names, from the root or seen from a base. -/
def localFile? (t : FileTree) (hint : String) (base : Option Url) : Option Url :=
  if Files.isAbsolute hint then Repository.existing? t hint
  else do
    let url ← match Url.parse hint with
      | .ok u => some u
      | .error _ => base.bind fun b => (b.join hint).toOption
    if url.scheme = "file" && (url.toFilePath?.map t.isFile).getD false then some url else none

/-- What a repository answers to a reference; an answer once given stays. -/
def fromReference (r : Resolver) (t : FileTree) (ns : Option String) (uri : String) :
    Resolver × Option Url :=
  let key := (ns.getD "", uri)
  match r.answers.find? fun a => a.1 = key with
  | some a => (r, a.2)
  | none =>
    let answer := (Repository.parseUri? uri).bind fun (id, path) =>
      (r.repositories.find? fun p => p.id = id).bind fun p => p.resolvePath? t path
    ({ r with answers := (key, answer) :: r.answers }, answer)

/-- A file of a namespace in any repository. -/
def search? (r : Resolver) (t : FileTree) (ns hint : String) : Option Url :=
  r.repositories.findSome? fun p => p.lookup? t ns (Files.lastPart hint)

/-- Where a hint leads. -/
def resolveHint (r : Resolver) (t : FileTree) (ns : Option String) (hint : String)
    (base : Option Url) : Resolver × Option Url :=
  match (r.fromLoaded? ns hint).or (localFile? t hint base) with
  | some url => (r, some url)
  | none =>
    let (r, found) :=
      if (Repository.parseUri? hint).isSome then r.fromReference t ns hint else (r, none)
    (r, found.or (ns.bind fun n => r.search? t n hint))

/-- The location that a hint names itself. -/
def fallback? (hint : String) (base : Option Url) : Option Url :=
  if Files.isAbsolute hint then Url.ofFilePath? hint
  else
    match base with
    | some b => (b.join hint).toOption
    | none => (Url.parse hint).toOption

/-- Resolves hints in turn, each location once. -/
def resolveHints (t : FileTree) (ns : Option String) (base : Option Url) :
    List String → Resolver → List Url → Resolver × List Url
  | [], r, found => (r, found)
  | hint :: rest, r, found =>
    let (r, url) := r.resolveHint t ns hint base
    match url.or (fallback? hint base) with
    | some u => resolveHints t ns base rest r (if found.contains u then found else found ++ [u])
    | none => resolveHints t ns base rest r found

/-- Resolves a namespace with hints that a library at a base gives. -/
def resolve (r : Resolver) (t : FileTree) (ns : Option String) (hints : List String)
    (base : Option Url) : Resolver × List Url :=
  match ns.bind fun n => r.catalog.bind fun c => c.locations? n with
  | some urls => (r, urls)
  | none => resolveHints t ns base hints r []

end Resolver

end TravelModel
