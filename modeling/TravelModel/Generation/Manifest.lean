import TravelModel.Checksum.Basic
import TravelModel.Files.Tree
import TravelModel.Generation.Api

/-!
# TravelModel — manifests

What a generation has written, with a checksum for each file. The manifest
and the list of checksums are written beside the documents.
-/

namespace TravelModel

/-- A written file. -/
structure ManifestEntry where
  path : String
  format : TargetFormat
  checksum : Checksum
deriving DecidableEq, Repr, Inhabited

/-- What a generation has written. -/
structure Manifest where
  formats : List TargetFormat
  files : List ManifestEntry
deriving DecidableEq, Repr, Inhabited

/-- A tree, and what came of changing it. -/
abbrev TreeResult (α : Type) := FileTree × Except GenerationError α

/-- Goes on from a changed tree, unless the change failed. -/
def TreeResult.andThen {α β : Type} (r : TreeResult α) (next : FileTree → α → TreeResult β) :
    TreeResult β :=
  match r with
  | (t, .ok a) => next t a
  | (t, .error e) => (t, .error e)

namespace Manifest

/-- The file of the manifest. -/
def manifestFile : String := "otm-manifest.json"

/-- The file of the checksums. -/
def checksumFile : String := "checksums.sha256"

/-- The manifest of some files. -/
def ofFiles (formats : List TargetFormat) (files : List (String × TargetFormat × ByteArray)) :
    Manifest :=
  { formats
    files := files.map fun (path, format, bytes) =>
      { path := Files.slashed path, format, checksum := .ofBytes bytes } }

/-- The checksum over all checksums. -/
def checksum (m : Manifest) : Checksum :=
  .ofBytes (",".intercalate (m.files.map fun f => f.checksum.hex)).toUTF8

/-- How many files a format has. -/
def count (m : Manifest) (f : TargetFormat) : Nat :=
  (m.files.filter fun e => e.format = f).length

/-- The entries of the manifest before and after the time, in order. -/
def entriesBefore : List (String × Json) :=
  [("generator", .str "otm-compiler"), ("version", .str "0.1.0")]

/-- The entries of the manifest after the time, in order. -/
def entriesAfter (m : Manifest) : List (String × Json) :=
  [ ("formats", .strings (m.formats.map TargetFormat.name)),
    ("files", .arr (m.files.map fun f =>
      .obj
        [ ("path", .str f.path), ("format", .str f.format.name),
          ("checksum", .str f.checksum.hex) ])),
    ("manifest_checksum", .str m.checksum.hex),
    ("stats", .obj
      [ ("total_files", .nat m.files.length), ("xml_schemas", .nat (m.count .xmlSchema)),
        ("service_schemas", .nat (m.count .serviceSchema)),
        ("json_schemas", .nat (m.count .jsonSchema)),
        ("openapi_documents", .nat (m.count .openApi)),
        ("swagger_documents", .nat (m.count .swagger)) ]) ]

/-- The manifest without the time. -/
def toJson (m : Manifest) : Json :=
  .obj (entriesBefore ++ m.entriesAfter)

/-- The text of the manifest with the time it was made at. -/
def text (m : Manifest) (generatedAt : String) : String :=
  (Json.obj (entriesBefore ++ ("generated_at", .str generatedAt) :: m.entriesAfter)).pretty

/-- The lines of the checksum file. -/
def checksumLines (m : Manifest) : String :=
  Checksum.lines (m.files.map fun f => (f.path, f.checksum))

/-- Writes a file, or fails with its path. -/
def writeFile (t : FileTree) (path : String) (bytes : ByteArray) : TreeResult String :=
  match t.write path bytes with
  | .ok t => (t, .ok path)
  | .error e => (t, .error (.output path e))

/-- Writes the manifest and the checksums. -/
def write (m : Manifest) (t : FileTree) (dir generatedAt : String) : TreeResult (List String) :=
  (writeFile t (Files.join dir manifestFile) (m.text generatedAt).toUTF8).andThen fun t first =>
    (writeFile t (Files.join dir checksumFile) m.checksumLines.toUTF8).andThen fun t second =>
      (t, .ok [first, second])

/-- The files whose contents are not those recorded. -/
def verify (m : Manifest) (t : FileTree) (dir : String) : List String :=
  (m.files.filter fun f =>
    match t.read? (Files.join dir f.path) with
    | some bytes => !f.checksum.verifies bytes
    | none => true).map ManifestEntry.path

end Manifest

end TravelModel
