import TravelModel.Model.Builtin
import TravelModel.Version.Namespace

/-!
# TravelModel — assembly

Makes a model of loaded modules: those that come with the program first,
then the others in order, and a refresh at the end.
-/

namespace TravelModel.Model

/-- The version of a library: the declared one, or that of its namespace. -/
def libraryVersion (h : LibraryHeader) : String :=
  match h.version, h.ns with
  | some v, _ => v
  | none, some ns =>
    match VersionScheme.decompose ns with
    | .ok parts => parts.version.text
    | .error _ => ""
  | none, none => ""

/-- The finding on a user namespace that has no version. -/
def namespaceFindings (m : LibraryModule) (builtIn : Bool) : Findings :=
  match m.header.ns with
  | some ns =>
    if builtIn then []
    else
      match VersionScheme.decompose ns with
      | .ok _ => []
      | .error e => [.report m.url.text .invalidVersionNamespace [ns, e.message]]
  | none => []

/-- The library a module declares. -/
def libraryOf (m : LibraryModule) (builtIn : Bool) : Library :=
  { id := ⟨0⟩, name := m.header.name, ns := m.header.ns, nsPrefix := m.header.nsPrefix
    version := libraryVersion m.header, status := m.header.status
    documentation := m.header.documentation, url := some m.url, grammar := some m.grammar
    builtIn, imports := m.imports, includes := m.includes, contexts := m.contexts
    members := [] }

/-- Adds the library of a module. -/
def addModule (model : Model) (m : LibraryModule) (builtIn : Bool) :
    Model × Option LibraryId × Findings :=
  let (model, id, fs) := model.addLibrary (libraryOf m builtIn) m.members
  (model, id, namespaceFindings m builtIn ++ fs)

/-- Adds modules one after another. -/
def addModules (model : Model) (builtIn : Bool) (ms : List LibraryModule) : Model × Findings :=
  ms.foldl
    (fun (model, fs) m =>
      let (model, _, more) := model.addModule m builtIn
      (model, fs ++ more))
    (model, [])

/-- The model of some modules on top of those that come with the program. -/
def assemble (modules builtIns : List LibraryModule) : Model × Findings :=
  let (model, first) := addModules {} true builtIns
  let (model, second) := addModules model false modules
  let (model, third) := model.refresh
  (model, first ++ second ++ third)

end TravelModel.Model
