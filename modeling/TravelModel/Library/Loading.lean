import TravelModel.Finding
import TravelModel.Json.Parser
import TravelModel.Library.Document

/-!
# TravelModel — loading libraries

A source is tried against grammars in turn. The first that the document
names and whose form it has decides; a document that breaks the strict
shape of its grammar is loaded all the same, with a finding.
-/

namespace TravelModel

/-- Something to load: its location and, if it could be opened, its bytes. -/
structure ModuleSource where
  url : Url
  bytes : Option ByteArray

/-- What came of loading a source. -/
structure LoadResult where
  url : Url
  module : Option LibraryModule
  findings : Findings

/-- The grammars to try and how serious a broken shape is. -/
structure Loader where
  grammars : List Grammar := Grammar.all
  fallback : Severity := .warning
deriving DecidableEq, Repr, Inhabited

/-- How a document was read. -/
inductive DocumentReading where
  | clean (m : LibraryModule)
  | corrupt (m : LibraryModule) (place : JsonPlace)
  | unreadable (problem : Option DocumentProblem)
deriving Inhabited

namespace Loader

/-- Reads a document by one grammar. -/
def readBy (g : Grammar) (url : Url) (document : Json) :
    Except DocumentProblem (LibraryModule × List JsonPlace) :=
  if g.claims document then
    (g.read url document).map fun m => (m, g.violations document)
  else .error (.otherGrammar g)

/-- Tries grammars in turn; without success the first problem stays. -/
def tryGrammars (url : Url) (document : Json) :
    List Grammar → Option DocumentProblem → DocumentReading
  | [], problem => .unreadable problem
  | g :: rest, problem =>
    match readBy g url document with
    | .ok (m, []) => .clean m
    | .ok (m, place :: _) => .corrupt m place
    | .error e => tryGrammars url document rest (problem.or (some e))

/-- The name of the grammar that is tried first. -/
def firstLabel (l : Loader) : String :=
  (l.grammars.head?.map Grammar.label).getD "?"

/-- The finding on a document that cannot be read. -/
def unreadableFinding (l : Loader) (url : Url) (problem : Option DocumentProblem) : Finding :=
  .report url.text .unreadableLibraryContent
    [l.firstLabel, (problem.map DocumentProblem.text).getD ""]

/-- The finding on a document that breaks the shape of its grammar. -/
def corruptFinding (l : Loader) (m : LibraryModule) (place : JsonPlace) : Finding :=
  { severity := l.fallback, source := m.url.text, code := .corruptLibraryContent
    args := [m.grammar.label, "violation at " ++ place.text] }

/-- Loads a document. -/
def loadDocument (l : Loader) (url : Url) (document : Option Json) : LoadResult :=
  match document with
  | none => { url, module := none, findings := [l.unreadableFinding url (some .notJson)] }
  | some document =>
    match tryGrammars url document l.grammars none with
    | .clean m => { url, module := some m, findings := [] }
    | .corrupt m place => { url, module := some m, findings := [l.corruptFinding m place] }
    | .unreadable problem => { url, module := none, findings := [l.unreadableFinding url problem] }

/-- Loads a source. -/
def load (l : Loader) (source : ModuleSource) : LoadResult :=
  match source.bytes with
  | none =>
    { url := source.url, module := none
      findings := [.report source.url.text .libraryNotFound [source.url.text]] }
  | some bytes => l.loadDocument source.url (Json.parseBytes? bytes)

end Loader

end TravelModel
