import TravelModel.Xsd.Components
import TravelModel.Xsd.Writer

/-!
# TravelModel — linked schemas

The schemas of libraries and services are linked: a name of the same
namespace is reached by an include, another by an import. A namespace that
is imported from several files gets a document that includes them all.
-/

namespace TravelModel

/-- A generated file, relative to the output directory. -/
structure OutputFile where
  path : String
  format : TargetFormat
  contents : String
deriving DecidableEq, Repr, Inhabited

namespace Xsd

/-! ## Schemas of libraries -/

/-- The schema of a library. -/
def libraryDocument (c : GenerationContext) (l : Library) :
    Except GenerationError (List Document) := do
  match c.libraryFile? l .xmlSchema with
  | none => return []
  | some path =>
    let parts ← (c.emittedEntities l.id).mapM c.registeredComponents
    return [
      { path, library := some l.id, hosts := c.libraryHosts l, service := false
        schema :=
          { targetNamespace := c.libraryNamespace? l, version := some l.version
            documentation := l.documentation, components := parts.flatten } } ]

/-- The schemas of the libraries in scope, in order. -/
def libraryDocuments (c : GenerationContext) : Except GenerationError (List Document) := do
  let parts ← c.order.mapM fun id => do
    c.checkCancelled .xmlSchema id
    match c.model.library? id with
    | some l => libraryDocument c l
    | none => return []
  return parts.flatten

/-! ## Locations -/

/-- The namespaces the components of a document are found in. -/
def Document.spaces (d : Document) : List String :=
  match d.schema.targetNamespace with
  | some ns => [ns]
  | none => d.hosts

/-- The document that declares a name of a namespace; the first one counts. -/
def declaringPath? (documents : List Document) (ns name : String) : Option String :=
  (documents.find? fun d =>
    d.spaces.contains ns && d.schema.components.any fun k => k.name = name).map Document.path

/-- The file of a namespace that comes with the program. -/
def builtinPath? (c : GenerationContext) (ns : String) : Option String :=
  (c.model.libraries.filter fun l => l.builtIn && l.ns = some ns).findSome? fun l =>
    c.libraryFile? l .xmlSchema

/-- The file in which a name of a namespace is found. -/
def location? (c : GenerationContext) (documents : List Document) (ns name : String) :
    Option String :=
  (declaringPath? documents ns name).or (builtinPath? c ns)

/-- Whether an optional text comes before another or is the same; none comes
first. -/
def optionLe : Option String → Option String → Bool
  | none, _ => true
  | some _, none => false
  | some a, some b => a ≤ b

/-- Whether an import comes before another or is the same. -/
def importLe (a b : Import) : Bool :=
  a.ns < b.ns || (a.ns = b.ns && optionLe a.location b.location)

/-- Adds the include or import a reference needs. -/
def linkReference (c : GenerationContext) (documents : List Document) (d : Document) (s : Schema)
    (q : QName) : Schema :=
  match q.ns with
  | none => s
  | some ns =>
    if ns = primitiveNamespace then s
    else
      let place := location? c documents ns q.name
      if d.spaces.contains ns then
        match place with
        | some l => if l = d.path then s else s.addInclude l
        | none => s
      else s.addImport ns place

/-- A document with the includes and imports its references need, in order. -/
def link (c : GenerationContext) (documents : List Document) (d : Document) : Document :=
  let s := d.schema.references.foldl (linkReference c documents d) d.schema
  { d with
    schema :=
      { s with
        includes := s.includes.mergeSort (· ≤ ·)
        imports := s.imports.mergeSort importLe } }

/-! ## Consolidation -/

/-- The files a namespace is imported from, by namespace. -/
def importLocations (documents : List Document) : Keyed (List String) :=
  (documents.flatMap fun d => d.schema.imports).foldl
    (fun acc i =>
      match i.location with
      | some l => acc.insert i.ns (Schema.sortedDistinct (l :: (acc.find? i.ns).getD []))
      | none => acc)
    []

/-- Lets a document import a namespace from one file only. -/
def redirectImport (ns path : String) (d : Document) : Document :=
  if d.schema.imports.any fun i => i.ns = ns then
    let others := { d.schema with imports := d.schema.imports.filter fun i => i.ns ≠ ns }
    let s := others.addImport ns (some path)
    { d with schema := { s with imports := s.imports.mergeSort fun a b => a.ns ≤ b.ns } }
  else d

/-- The document that includes all files of a namespace. -/
def consolidationDocument (ns path : String) (files : List String) : Document :=
  { path, library := none, hosts := [], service := false
    schema := { targetNamespace := some ns, includes := files } }

/-- Redirects the imports of namespaces that have several files. -/
def consolidateImports (prefixes : Keyed String) (documents : List Document) :
    List Document × List Document :=
  ((importLocations documents).filter fun e => e.2.length > 1).foldl
    (fun (ds, made) (ns, files) =>
      let path := Naming.consolidationFile ((prefixes.find? ns).getD "ns")
      (ds.map (redirectImport ns path), made ++ [consolidationDocument ns path files]))
    (documents, [])

/-! ## Prefixes -/

/-- The declared prefix of each namespace; that of the first library counts. -/
def preferredPrefixes (c : GenerationContext) : Keyed String :=
  c.model.libraries.foldl
    (fun acc l =>
      match c.libraryNamespace? l, l.nsPrefix with
      | some ns, some p => acc.insertNew ns p
      | _, _ => acc)
    []

/-- Gives each namespace a prefix of its own: the preferred one, or one with a
number if that is taken. -/
def assignPrefixes (preferred : Keyed String) (namespaces : List String) : Keyed String :=
  namespaces.foldl
    (fun assigned ns =>
      if assigned.contains ns then assigned
      else
        let used := "xsd" :: "xml" :: assigned.map Prod.snd
        assigned.insert ns (SymbolTable.freshPrefix ((preferred.find? ns).getD "ns") used))
    [(primitiveNamespace, "xsd")]

/-- The namespaces of some documents, in order. -/
def documentNamespaces (documents : List Document) : List String :=
  Schema.sortedDistinct (documents.flatMap fun d => d.schema.namespaces ++ d.hosts)

/-! ## Files -/

/-- The file of a document. -/
def Document.file (prefixes : Keyed String) (d : Document) : OutputFile :=
  { path := d.path, format := if d.service then .serviceSchema else .xmlSchema
    contents := d.schema.write prefixes }

/-- The schema of the common library as a file. -/
def commonFile : OutputFile :=
  { path := Builtin.directory ++ "/" ++ Builtin.commonFile, format := .xmlSchema
    contents := Builtin.commonSchema }

/-- Links documents and makes files of them; the schema of the common library is
among them if a document imports it. -/
def consolidate (c : GenerationContext) (documents : List Document) : List OutputFile :=
  if documents.isEmpty then []
  else
    let linked := documents.map (link c documents)
    let prefixes := assignPrefixes (preferredPrefixes c) (documentNamespaces linked)
    let (linked, made) := consolidateImports prefixes linked
    (linked ++ made).map (Document.file prefixes) ++
      if linked.any fun d => d.schema.imports.any fun i => i.ns = Builtin.commonNamespace then
        [commonFile]
      else []

end Xsd

end TravelModel
