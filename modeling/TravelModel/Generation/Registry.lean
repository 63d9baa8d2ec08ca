import TravelModel.Entity.Body
import TravelModel.Files.Tree
import TravelModel.Generation.Options

/-!
# TravelModel — transformers

Which transformer makes the documents of an entity, by its kind and the
format. A transformer of another format does not count.
-/

namespace TravelModel

/-- What can go wrong in a generation. -/
inductive GenerationError where
  | invalidOptions (reason : String)
  | noTransformer (kind : EntityKind) (format : TargetFormat)
  | unknownEntity (name : String)
  | cancelled
  /-- A file cannot be written. -/
  | output (path : String) (cause : FileError)
  /-- The output directory cannot be made. -/
  | cannotCreate (path : String) (cause : FileError)
deriving DecidableEq, Repr, Inhabited

/-- The wording of an error, given that of its cause. -/
def GenerationError.messageWith (cause : FileError → String) : GenerationError → String
  | invalidOptions reason => "Invalid generation options: " ++ reason
  | noTransformer kind format =>
    "No transformer available for " ++ kind.label ++ " -> " ++ format.name
  | unknownEntity name => "Unknown entity: " ++ name
  | cancelled => "Generation cancelled"
  | output path e => "Failed to write " ++ path ++ ": " ++ cause e
  | cannotCreate path e =>
    "Invalid generation options: cannot create " ++ path ++ ": " ++ cause e

/-- The wording of an error. -/
def GenerationError.message : GenerationError → String :=
  messageWith FileError.message

/-- Something that makes documents or parts of them from an entity. Each is for
entities of certain kinds and makes nothing of others. -/
inductive Transformer where
  /-- Components of an XML schema from entities of a kind; without a kind, none. -/
  | components (kind : Option EntityKind)
  /-- Definitions of a JSON schema. -/
  | definitions
  /-- An API document of a resource. -/
  | apiDocument
  /-- A schema of the messages of a service. -/
  | messages
  /-- A schema of the requests and responses of a business object. -/
  | requestResponse
deriving DecidableEq, Repr, Inhabited

/-- Transformers by kind and format. -/
abbrev Registry := List ((EntityKind × TargetFormat) × Transformer)

namespace Registry

/-- The transformer of a kind and format. -/
def find? (r : Registry) (kind : EntityKind) (format : TargetFormat) : Option Transformer :=
  (List.find? (fun e => e.1 = (kind, format)) r).map Prod.snd

/-- Whether there is a transformer of a kind and format. -/
def contains (r : Registry) (kind : EntityKind) (format : TargetFormat) : Bool :=
  (r.find? kind format).isSome

/-- Puts a transformer in, in the place of an older one. -/
def register (r : Registry) (kind : EntityKind) (format : TargetFormat) (t : Transformer) :
    Registry :=
  r.filter (fun e => e.1 ≠ (kind, format)) ++ [((kind, format), t)]

/-- The component transformer of a kind. -/
def standardComponents : EntityKind → Transformer
  | .resource | .service => .components none
  | kind => .components (some kind)

/-- The transformers for all kinds and formats. -/
def standard : Registry :=
  (EntityKind.all.flatMap fun k =>
    [((k, .xmlSchema), standardComponents k), ((k, .jsonSchema), .definitions)]) ++
    [ ((.resource, .openApi), .apiDocument), ((.resource, .swagger), .apiDocument),
      ((.service, .serviceSchema), .messages),
      ((.businessObject, .serviceSchema), .requestResponse) ]

/-- The transformer of a kind and format, or an error. -/
def get (r : Registry) (kind : EntityKind) (format : TargetFormat) :
    Except GenerationError Transformer :=
  match r.find? kind format with
  | some t => .ok t
  | none => .error (.noTransformer kind format)

/-- Whether a transformer makes what a format asks for. -/
def fits (format : TargetFormat) (t : Transformer) : Bool :=
  match format, t with
  | .xmlSchema, .components _ => true
  | .jsonSchema, .definitions => true
  | .openApi, .apiDocument => true
  | .swagger, .apiDocument => true
  | .serviceSchema, .messages => true
  | .serviceSchema, .requestResponse => true
  | _, _ => false

/-- The transformer of a kind and format if it makes what the format asks for. -/
def getFitting (r : Registry) (kind : EntityKind) (format : TargetFormat) :
    Except GenerationError Transformer :=
  match r.find? kind format with
  | some t => if fits format t then .ok t else .error (.noTransformer kind format)
  | none => .error (.noTransformer kind format)

end Registry

end TravelModel
