import TravelModel.Library.Loading
import TravelModel.Model.Assembly
import TravelModel.Resolver.Basic

/-!
# TravelModel — projects

A project is loaded in waves. The first wave holds the roots, each next one
what the libraries of the last depend on and what has not been tried. When
no wave is left, all that was loaded is assembled. Waves end where only
finitely many locations can be opened.
-/

namespace TravelModel

/-- Libraries loaded and assembled. -/
structure Project where
  model : Model
  findings : Findings
  /-- All locations that were tried, in order. -/
  urls : List Url

namespace Project

/-- How far loading has come. -/
structure Loading where
  resolver : Resolver
  modules : List LibraryModule := []
  findings : Findings := []
  /-- All locations that were tried or will be. -/
  seen : List Url
  tried : List Url := []
deriving Inhabited

/-- Locations that are new, each once. -/
def fresh (seen urls : List Url) : List Url :=
  urls.eraseDups.filter fun u => !seen.contains u

/-- Opens a location; only files can be opened. -/
def openSource (t : FileTree) (url : Url) : ModuleSource :=
  { url, bytes := url.toFilePath?.bind t.read? }

/-- Follows the dependencies of a library; gives the locations to load next. -/
def follow (t : FileTree) (url : Url) :
    List (Option String × List String) → Resolver → List Url → Resolver × List Url
  | [], r, found => (r, found)
  | (ns, hints) :: rest, r, found =>
    let (r, urls) := r.resolve t ns hints (some url)
    follow t url rest r (found ++ urls)

/-- Takes what came of loading a source; gives the locations to load next. -/
def take (t : FileTree) (l : Loading) (result : LoadResult) : Loading × List Url :=
  let l := { l with findings := l.findings ++ result.findings }
  match result.module with
  | none => (l, [])
  | some m =>
    let (resolver, urls) := follow t m.url m.dependencies (l.resolver.register m.header.ns m.url) []
    let next := fresh l.seen urls
    ({ l with resolver, modules := l.modules ++ [m], seen := l.seen ++ next }, next)

/-- Loads a wave; gives the next one. -/
def loadWave (loader : Loader) (t : FileTree) (l : Loading) (wave : List Url) :
    Loading × List Url :=
  (wave.map fun u => loader.load (openSource t u)).foldl
    (fun (l, next) result =>
      let (l, more) := take t l result
      (l, next ++ more))
    ({ l with tried := l.tried ++ wave }, [])

/-- Loads waves until there is none. -/
def loadWaves (loader : Loader) (t : FileTree) (l : Loading) (wave : List Url) : Loading :=
  Id.run <| repeatM (fun s : Loading × List Url =>
    pure (if s.2.isEmpty then .inr s.1 else .inl (loadWave loader t s.1 s.2))) (l, wave)

/-- Loads roots and all they depend on. -/
def load (loader : Loader) (resolver : Resolver) (t : FileTree) (roots : List Url) : Project :=
  let wave := roots.eraseDups
  let l := loadWaves loader t { resolver, seen := wave } wave
  let (model, findings) := Model.assemble l.modules Builtin.modules
  { model, findings := l.findings ++ findings, urls := l.tried }

/-- The location of a file, seen from the working directory. -/
def fileUrl (t : FileTree) (path : String) : Url :=
  Url.ofComponents (Url.pathComponents (Files.join (FileTree.placeText t.workDir) path))

/-- Loads root files by settings. -/
def loadFiles (c : Config) (t : FileTree) (paths : List String) :
    Except CatalogError Project := do
  let catalog ← c.resolver.catalog.mapM (Catalog.load t)
  let loader : Loader := { fallback := c.loader.fallbackSeverity }
  let resolver : Resolver := { catalog, repositories := c.resolver.repositories }
  return load loader resolver t (paths.map (fileUrl t))

end Project

end TravelModel
