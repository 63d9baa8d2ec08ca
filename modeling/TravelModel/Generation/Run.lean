import TravelModel.Generation.Manifest
import TravelModel.Xsd.ServiceSchema

/-!
# TravelModel — generations

A generation checks its options, finds its scope, makes all documents and
writes them last, so that one that fails before writes nothing.
-/

namespace TravelModel

/-- How far a generator has come. -/
inductive GenerationState where
  | init
  | done
  | failed
deriving DecidableEq, Repr, Inhabited

/-- The name of a state. -/
def GenerationState.name : GenerationState → String
  | init => "Init"
  | done => "Done"
  | failed => "Failed"

/-- What a generation has done. -/
structure GenerationReport where
  /-- The written files, manifest and checksums last. -/
  files : List String
  manifest : Manifest
deriving DecidableEq, Repr, Inhabited

/-- What stays the same from one generation to the next. -/
structure Generator where
  model : Model
  registry : Registry := .standard
  globalScope : Option Scope := none

/-! ## Options -/

namespace GenerationOptions

/-- Makes the output directory. -/
def prepareOutput (o : GenerationOptions) (t : FileTree) : TreeResult Unit :=
  if o.outputDir = "" then (t, .error (.invalidOptions "output directory is required"))
  else if t.pathExists o.outputDir && !t.isDir o.outputDir then
    (t, .error (.invalidOptions (o.outputDir ++ " is not a directory")))
  else
    match t.createDirAll o.outputDir with
    | .ok t => (t, .ok ())
    | .error e => (t, .error (.cannotCreate o.outputDir e))

/-- Whether an optional text is a location. -/
def checkUrl (name : String) : Option String → Except GenerationError Unit
  | none => .ok ()
  | some u =>
    match Url.parse u with
    | .ok _ => .ok ()
    | .error e =>
      .error (.invalidOptions ("invalid " ++ name ++ " '" ++ u ++ "': " ++ e.message))

/-- Whether a library has a major version. -/
def checkMajor (l : Library) : Except GenerationError Unit :=
  match l.ns.map VersionScheme.majorNamespace with
  | some (.error e) =>
    .error (.invalidOptions
      ("library " ++ l.name ++ " cannot use the major namespace policy: " ++ e.message))
  | _ => .ok ()

/-- Checks all that does not touch files. -/
def check (o : GenerationOptions) (m : Model) : Except GenerationError Unit := do
  if o.formats.targets.isEmpty then
    .error (.invalidOptions "no output format selected")
  checkUrl "service endpoint URL" o.serviceEndpointUrl
  checkUrl "resource base URL" o.resourceBaseUrl
  if o.namespacePolicy = .major then
    m.userLibraries.forM checkMajor

end GenerationOptions

namespace Generator

/-! ## Documents -/

/-- The scope of some roots; without roots all user libraries are in it. -/
def scope (g : Generator) (roots : List EntityId) : Except GenerationError Scope :=
  match roots.find? fun r => (g.model.entity? r).isNone with
  | some r => .error (.unknownEntity r.text)
  | none =>
    let roots :=
      if roots.isEmpty then Scope.membersOf g.model (g.model.userLibraries.map Library.id)
      else roots
    .ok (Scope.build g.model roots g.globalScope)

/-- The context of a generation that may be cancelled at any library. -/
def contextWhile (g : Generator) (options : GenerationOptions) (scope : Scope)
    (cancelled : Cancellation) : GenerationContext :=
  { model := g.model, scope, options, registry := g.registry, order := scope.order g.model
    cancelled }

/-- The context of a generation that is cancelled from the start, or never. -/
def context (g : Generator) (options : GenerationOptions) (scope : Scope) (cancelled : Bool) :
    GenerationContext :=
  g.contextWhile options scope fun _ _ => cancelled

/-- Documents that have still to be linked, and finished files. -/
abbrev Emitted := List Xsd.Document × List OutputFile

/-- Makes the documents of a format. -/
def emit (c : GenerationContext) (made : Emitted) :
    TargetFormat → Except GenerationError Emitted
  | .xmlSchema => do return (made.1 ++ (← Xsd.libraryDocuments c), made.2)
  | .serviceSchema => do return (made.1 ++ (← c.serviceDocuments), made.2)
  | .jsonSchema => do return (made.1, made.2 ++ (← c.jsonFiles))
  | .openApi => do return (made.1, made.2 ++ (← c.apiFiles .openApi))
  | .swagger => do return (made.1, made.2 ++ (← c.apiFiles .swagger))

/-- All files of a generation, unless it is cancelled. -/
def outputFilesWhile (g : Generator) (options : GenerationOptions) (roots : List EntityId)
    (cancelled : Cancellation) : Except GenerationError (List OutputFile) := do
  options.check g.model
  let c := g.contextWhile options (← g.scope roots) cancelled
  let made ← options.formats.targets.foldlM (emit c) ([], [])
  return made.2 ++ Xsd.consolidate c made.1

/-- All files of a generation that is cancelled from the start, or never. -/
def outputFiles (g : Generator) (options : GenerationOptions) (roots : List EntityId)
    (cancelled : Bool) : Except GenerationError (List OutputFile) :=
  g.outputFilesWhile options roots fun _ _ => cancelled

/-! ## Writing -/

/-- Writes a file below a directory, with the directories above it. -/
def writeBelow (dir : String) (f : OutputFile) (t : FileTree) : TreeResult String :=
  let path := Files.join dir f.path
  match t.createDirAll (Files.parent path) with
  | .error e => (t, .error (.output (Files.parent path) e))
  | .ok t => Manifest.writeFile t path f.contents.toUTF8

/-- Writes files below a directory until one fails. -/
def writeFiles (dir : String) : List OutputFile → FileTree → TreeResult (List String)
  | [], t => (t, .ok [])
  | f :: rest, t =>
    (writeBelow dir f t).andThen fun t path =>
      (writeFiles dir rest t).andThen fun t paths => (t, .ok (path :: paths))

/-- Writes files with manifest and checksums. -/
def writeAll (options : GenerationOptions) (files : List OutputFile) (generatedAt : String)
    (t : FileTree) : TreeResult GenerationReport :=
  let manifest := Manifest.ofFiles options.formats.targets
    (files.map fun f => (f.path, f.format, f.contents.toUTF8))
  (writeFiles options.outputDir files t).andThen fun t paths =>
    (manifest.write t options.outputDir generatedAt).andThen fun t more =>
      (t, .ok { files := paths ++ more, manifest })

/-- Generates all that some roots need, unless that is cancelled. -/
def generateWhile (g : Generator) (options : GenerationOptions) (roots : List EntityId)
    (cancelled : Cancellation) (generatedAt : String) (t : FileTree) :
    TreeResult GenerationReport :=
  (options.prepareOutput t).andThen fun t _ =>
    match g.outputFilesWhile options roots cancelled with
    | .error e => (t, .error e)
    | .ok files => writeAll options files generatedAt t

/-- Generates all that some roots need, cancelled from the start or never. -/
def generate (g : Generator) (options : GenerationOptions) (roots : List EntityId)
    (cancelled : Bool) (generatedAt : String) (t : FileTree) : TreeResult GenerationReport :=
  g.generateWhile options roots (fun _ _ => cancelled) generatedAt t

/-- The state a generation ends in. -/
def endState {α : Type} : Except GenerationError α → GenerationState
  | .ok _ => .done
  | .error _ => .failed

end Generator

end TravelModel
