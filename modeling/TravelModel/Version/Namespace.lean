import TravelModel.Number.Padded
import TravelModel.Text.Blank
import TravelModel.Text.Digit
import TravelModel.Version.Basic

/-!
# TravelModel — versioned namespaces

A versioned namespace is a base followed by `/vMM`, `/vMM_mm` or `/vMM_mm_pp`
and at most one slash, each part of two digits or more. `decompose` splits a
namespace into base and version, `compose` puts them together.
-/

namespace TravelModel

/-- A namespace split into base and version. -/
structure VersionedNamespace where
  base : String
  version : Version
deriving DecidableEq, Repr

/-- How a versioned namespace is shown. -/
def VersionedNamespace.text (v : VersionedNamespace) : String :=
  v.base ++ " (" ++ v.version.text ++ ")"

/-- What is wrong with a namespace. -/
inductive NamespaceProblem where
  | missingSuffix
  | partOutOfRange
deriving DecidableEq, Repr

/-- A namespace that has no version, and why. -/
structure NamespaceError where
  ns : String
  problem : NamespaceProblem
deriving DecidableEq, Repr

/-- The wording of a problem. -/
def NamespaceProblem.text : NamespaceProblem → String
  | .missingSuffix => "missing version suffix /vMM[_mm[_pp]]"
  | .partOutOfRange => "version part out of range"

/-- The wording of an error. -/
def NamespaceError.message (e : NamespaceError) : String :=
  "Invalid namespace '" ++ e.ns ++ "': " ++ e.problem.text

namespace VersionScheme

/-- The name of the scheme. -/
def id : String := "OTA2"

/-! ## Splitting -/

/-- Whether a part is two digits or more. -/
def isPart (part : List Char) : Bool :=
  part.length ≥ 2 && part.all Text.isDecimalDigit

/-- Parts separated by underscores. -/
def splitParts : List Char → List (List Char)
  | [] => [[]]
  | c :: rest =>
    match splitParts rest with
    | [] => [[c]]
    | p :: ps => if c = '_' then [] :: p :: ps else (c :: p) :: ps

/-- The text without one closing slash. -/
def dropSlash (cs : List Char) : List Char :=
  match cs.reverse with
  | '/' :: r => r.reverse
  | _ => cs

/-- The version parts after `/v`, if they reach to the end. -/
def suffixParts? (cs : List Char) : Option (List (List Char)) :=
  let parts := splitParts (dropSlash cs)
  if parts.length ≤ 3 && parts.all isPart then some parts else none

/-- The base, held last character first, grows until a version suffix follows
it; a base is not empty and has no line break. -/
def splitFrom : List Char → List Char → Option (List Char × List (List Char))
  | _, [] => none
  | base, c :: rest =>
    let here := match c, rest with
      | '/', 'v' :: digits => if base.isEmpty then none else suffixParts? digits
      | _, _ => none
    match here with
    | some parts => some (base.reverse, parts)
    | none => if c = '\n' then none else splitFrom (c :: base) rest

/-- The number of a part; digits of other scripts and numbers beyond 64 bits
have none. -/
def partNumber? (part : List Char) : Option Nat :=
  if part.all Char.isDigit && digitsValue part < Nat.pow 2 64 then some (digitsValue part) else none

/-- Splits a namespace into its base and its version. -/
def decompose (ns : String) : Except NamespaceError VersionedNamespace :=
  match splitFrom [] ns.toList with
  | none => .error ⟨ns, .missingSuffix⟩
  | some (base, parts) =>
    match parts.mapM partNumber? with
    | none => .error ⟨ns, .partOutOfRange⟩
    | some numbers =>
      .ok { base := String.ofList base
            version := .release (numbers[0]?.getD 0) (numbers[1]?.getD 0) (numbers[2]?.getD 0) }

/-- Whether a namespace has a version. -/
def isValid (ns : String) : Bool :=
  (decompose ns).toBool

/-! ## Composing -/

/-- The namespace of a base and a version; slashes at the end of the base and
parts that are zero at the end are left out. -/
def compose (base : String) (v : Version) : String :=
  let base := String.ofList (Text.dropTrailing (· = '/') base.toList)
  let minor := if v.minor = 0 ∧ v.patch = 0 then "" else "_" ++ padded 2 v.minor
  let patch := if v.patch = 0 then "" else "_" ++ padded 2 v.patch
  base ++ "/v" ++ padded 2 v.major ++ minor ++ patch

/-- The namespace of the major version a namespace belongs to. -/
def majorNamespace (ns : String) : Except NamespaceError String := do
  let parts ← decompose ns
  return compose parts.base (.release parts.version.major 0 0)

/-! ## Version identifiers -/

/-- Reads a version identifier; blanks around it, one leading `v` and missing
parts are allowed. -/
def parseVersion (s : String) : Except Version.ParseError Version :=
  let trimmed := Text.trimBlanks s
  let s := match trimmed.toList with
    | 'v' :: rest => String.ofList rest
    | _ => trimmed
  match s.toList.count '.' with
  | 0 => Version.parse (s ++ ".0.0")
  | 1 => Version.parse (s ++ ".0")
  | _ => Version.parse s

/-- The file name of a library at a version. -/
def fileName (library : String) (v : Version) : String :=
  library ++ "_" ++ toString v.major ++ "_" ++ toString v.minor ++ "_" ++ toString v.patch ++ ".otm"

/-- The order of two version identifiers. -/
def compareVersions (a b : String) : Except Version.ParseError Ordering := do
  return (← parseVersion a).cmp (← parseVersion b)

end VersionScheme

end TravelModel
