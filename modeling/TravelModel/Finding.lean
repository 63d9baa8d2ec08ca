import TravelModel.Json.Decode

/-!
# TravelModel — findings

What loading and assembling libraries has to report. A finding carries a
code, the severity, the identity of the item that caused it and the
arguments of its message. Findings are kept in the order of reporting.
-/

namespace TravelModel

/-- How serious a finding is. -/
inductive Severity where
  | warning
  | error
deriving DecidableEq, Repr, Inhabited

/-- What a finding is about. -/
inductive FindingCode where
  | libraryNotFound
  | corruptLibraryContent
  | unreadableLibraryContent
  | duplicateLibrary
  | duplicateSymbol
  | duplicateChameleonSymbols
  | unresolvedReference
  | invalidVersionNamespace
  | circularExtension
  | invalidFacetOwner
deriving DecidableEq, Repr, Inhabited

namespace Severity

/-- The name of a severity. -/
def name : Severity → String
  | .warning => "warning"
  | .error => "error"

/-- How a severity is shown in a message. -/
def label : Severity → String
  | .warning => "WARNING"
  | .error => "ERROR"

/-- The severity of a name. -/
def ofName? (s : String) : Option Severity :=
  [warning, error].find? fun v => v.name = s

end Severity

namespace FindingCode

/-- All codes. -/
def all : List FindingCode :=
  [ libraryNotFound, corruptLibraryContent, unreadableLibraryContent, duplicateLibrary,
    duplicateSymbol, duplicateChameleonSymbols, unresolvedReference, invalidVersionNamespace,
    circularExtension, invalidFacetOwner ]

/-- The name of a code. -/
def name : FindingCode → String
  | libraryNotFound => "LIBRARY_NOT_FOUND"
  | corruptLibraryContent => "CORRUPT_LIBRARY_CONTENT"
  | unreadableLibraryContent => "UNREADABLE_LIBRARY_CONTENT"
  | duplicateLibrary => "DUPLICATE_LIBRARY"
  | duplicateSymbol => "DUPLICATE_SYMBOL"
  | duplicateChameleonSymbols => "DUPLICATE_CHAMELEON_SYMBOLS"
  | unresolvedReference => "UNRESOLVED_REFERENCE"
  | invalidVersionNamespace => "INVALID_VERSION_NAMESPACE"
  | circularExtension => "CIRCULAR_EXTENSION"
  | invalidFacetOwner => "INVALID_FACET_OWNER"

/-- The code of a name. -/
def ofName? (s : String) : Option FindingCode :=
  all.find? fun c => c.name = s

/-- The severity a code has unless its reporter says otherwise. -/
def defaultSeverity : FindingCode → Severity
  | libraryNotFound | corruptLibraryContent | invalidVersionNamespace => .warning
  | _ => .error

end FindingCode

/-- Something to report about an item. -/
structure Finding where
  severity : Severity
  source : String
  code : FindingCode
  args : List String
deriving DecidableEq, Repr, Inhabited

namespace Finding

/-- A finding with the severity of its code. -/
def report (source : String) (code : FindingCode) (args : List String) : Finding :=
  { severity := code.defaultSeverity, source, code, args }

/-- An argument of the message; a missing one shows as a question mark. -/
def arg (f : Finding) (i : Nat) : String :=
  f.args[i]?.getD "?"

/-- The message of a finding. -/
def message (f : Finding) : String :=
  match f.code with
  | .libraryNotFound => "Library not found: " ++ f.arg 0
  | .corruptLibraryContent =>
    "Library content does not conform to " ++ f.arg 0 ++
      " and was loaded without validation: " ++ f.arg 1
  | .unreadableLibraryContent =>
    "Library content is unreadable as " ++ f.arg 0 ++ ": " ++ f.arg 1
  | .duplicateLibrary =>
    "Library '" ++ f.arg 0 ++ "' is already defined in namespace '" ++ f.arg 1 ++ "'"
  | .duplicateSymbol =>
    "Symbol '" ++ f.arg 0 ++ "' is defined more than once in namespace '" ++ f.arg 1 ++ "'"
  | .duplicateChameleonSymbols =>
    "Chameleon symbol '" ++ f.arg 0 ++ "' collides in namespace '" ++ f.arg 1 ++
      "' (contributors: " ++ f.arg 2 ++ ")"
  | .unresolvedReference =>
    let base := "Reference '" ++ f.arg 0 ++ "' could not be resolved"
    match f.args[1]? with
    | some suggestion => base ++ " (did you mean '" ++ suggestion ++ "'?)"
    | none => base
  | .invalidVersionNamespace =>
    "Namespace '" ++ f.arg 0 ++ "' does not follow the version scheme: " ++ f.arg 1
  | .circularExtension => "Extension of '" ++ f.arg 0 ++ "' is circular"
  | .invalidFacetOwner => "'" ++ f.arg 0 ++ "' cannot own contextual facet '" ++ f.arg 1 ++ "'"

/-- The line of a finding. -/
def text (f : Finding) : String :=
  "[" ++ f.code.name ++ "] " ++ f.severity.label ++ ": " ++ f.message ++ " (" ++ f.source ++ ")"

/-- The stored form of a finding. -/
def toJson (f : Finding) : Json :=
  .object <|
    [("severity", .str f.severity.name), ("source", .str f.source), ("code", .str f.code.name)] ++
      if f.args.isEmpty then [] else [("args", .strings f.args)]

/-- A finding from its stored form. -/
def decode? (j : Json) : Option Finding := do
  let s ← RecordSource.record? 4 j
  return {
    severity := ← s.required 0 "severity" (Json.plainChoice? Severity.ofName?)
    source := ← s.required 1 "source" Json.text?
    code := ← s.required 2 "code" (Json.plainChoice? FindingCode.ofName?)
    args := ← s.withDefault 3 "args" (Json.list? Json.text?) [] }

end Finding

/-- Findings in the order of reporting. -/
abbrev Findings := List Finding

namespace Findings

/-- The findings that are errors. -/
def errors (fs : Findings) : Findings :=
  fs.filter fun f => f.severity = .error

/-- The findings that are warnings. -/
def warnings (fs : Findings) : Findings :=
  fs.filter fun f => f.severity = .warning

/-- Whether there is an error. -/
def hasErrors (fs : Findings) : Bool :=
  fs.any fun f => f.severity = .error

/-- The findings with a code. -/
def withCode (fs : Findings) (code : FindingCode) : Findings :=
  fs.filter fun f => f.code = code

/-- All findings a line each, with a closing count. -/
def text (fs : Findings) : String :=
  let body := "".intercalate (fs.map fun f => f.text ++ "\n")
  if fs.isEmpty then body
  else
    body ++ "\n" ++ toString fs.errors.length ++ " error(s), " ++
      toString fs.warnings.length ++ " warning(s)\n"

/-- The stored form of findings. -/
def toJson (fs : Findings) : Json :=
  .object [("items", .arr (fs.map Finding.toJson))]

/-- Findings from their stored form. -/
def decode? (j : Json) : Option Findings := do
  (← RecordSource.record? 1 j).required 0 "items" (Json.list? Finding.decode?)

end Findings

end TravelModel
