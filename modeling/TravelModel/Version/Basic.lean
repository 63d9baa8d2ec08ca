import TravelModel.Number.Reading
import TravelModel.Text.Quoted

/-!
# TravelModel — versions

A version has three numbers of 64 bits, optional pre-release identifiers and
optional build identifiers. Versions are totally ordered: by the numbers,
then a pre-release comes before its release, then identifier by identifier,
and at last by the build identifiers.
-/

namespace TravelModel

/-- A version such as `1.2.0-beta.1+build`. -/
structure Version where
  major : Nat
  minor : Nat
  patch : Nat
  pre : List String
  build : List String
deriving DecidableEq, Repr, Inhabited

namespace Version

/-- A release with the given numbers. -/
def release (major minor patch : Nat) : Version :=
  { major, minor, patch, pre := [], build := [] }

/-- The text of a version. -/
def text (v : Version) : String :=
  let numbers := toString v.major ++ "." ++ toString v.minor ++ "." ++ toString v.patch
  let pre := if v.pre.isEmpty then "" else "-" ++ ".".intercalate v.pre
  let build := if v.build.isEmpty then "" else "+" ++ ".".intercalate v.build
  numbers ++ pre ++ build

/-! ## Errors -/

/-- The part of a version a reader is at. -/
inductive Part where
  | major
  | minor
  | patch
  | pre
  | build
deriving DecidableEq, Repr

/-- How a part is called. -/
def Part.label : Part → String
  | .major => "major version number"
  | .minor => "minor version number"
  | .patch => "patch version number"
  | .pre => "pre-release identifier"
  | .build => "build metadata"

/-- Why a text is not a version. -/
inductive ParseError where
  | empty
  | unexpectedEnd (part : Part)
  | unexpectedChar (part : Part) (c : Char)
  | unexpectedCharAfter (part : Part) (c : Char)
  | leadingZero (part : Part)
  | overflow (part : Part)
  | emptySegment (part : Part)
deriving DecidableEq, Repr

/-- The wording of an error. -/
def ParseError.message : ParseError → String
  | .empty => "empty string, expected a semver version"
  | .unexpectedEnd p => "unexpected end of input while parsing " ++ p.label
  | .unexpectedChar p c =>
    "unexpected character " ++ Text.quoteChar c ++ " while parsing " ++ p.label
  | .unexpectedCharAfter p c =>
    "unexpected character " ++ Text.quoteChar c ++ " after " ++ p.label
  | .leadingZero p => "invalid leading zero in " ++ p.label
  | .overflow p => "value of " ++ p.label ++ " exceeds u64::MAX"
  | .emptySegment p => "empty identifier segment in " ++ p.label

/-! ## Reading -/

/-- The digits of a number; a second digit after a zero and a value beyond 64
bits are errors, whichever comes first. -/
def readDigits (part : Part) : List Char → Nat → Nat → Except ParseError (Nat × Nat × List Char)
  | [], value, len => .ok (value, len, [])
  | c :: rest, value, len =>
    if c.isDigit then
      if value = 0 ∧ len > 0 then .error (.leadingZero part)
      else
        let value' := value * 10 + (c.toNat - '0'.toNat)
        if value' < Nat.pow 2 64 then readDigits part rest value' (len + 1)
        else .error (.overflow part)
    else .ok (value, len, c :: rest)

/-- A number and what follows it. -/
def readNumber (part : Part) (cs : List Char) : Except ParseError (Nat × List Char) := do
  let (value, len, rest) ← readDigits part cs 0 0
  if len > 0 then return (value, rest)
  else match rest with
    | c :: _ => throw (.unexpectedChar part c)
    | [] => throw (.unexpectedEnd part)

/-- The point after a number. -/
def readPoint (part : Part) : List Char → Except ParseError (List Char)
  | '.' :: rest => .ok rest
  | c :: _ => .error (.unexpectedCharAfter part c)
  | [] => .error (.unexpectedEnd part)

/-- Characters of identifiers. -/
def isIdentifierChar (c : Char) : Bool :=
  c.isAlpha || c.isDigit || c = '-'

/-- Whether a pre-release identifier is a number with a leading zero. -/
def hasLeadingZero (segment : List Char) : Bool :=
  segment.all Char.isDigit && segment.length > 1 && segment.head? == some '0'

/-- Identifiers separated by points. The segment read so far is held last
character first; so are the finished segments. -/
def readIdentifiers (part : Part) :
    List Char → List Char → List String → Except ParseError (List String × List Char)
  | cs, segment, done =>
    match cs with
    | c :: rest =>
      if isIdentifierChar c then readIdentifiers part rest (c :: segment) done
      else if segment.isEmpty then
        if done.isEmpty && c ≠ '.' then .ok ([], c :: rest)
        else .error (.emptySegment part)
      else if part = .pre ∧ hasLeadingZero segment.reverse then .error (.leadingZero part)
      else
        let done := String.ofList segment.reverse :: done
        if c = '.' then readIdentifiers part rest [] done
        else .ok (done.reverse, c :: rest)
    | [] =>
      if segment.isEmpty then
        if done.isEmpty then .ok ([], []) else .error (.emptySegment part)
      else if part = .pre ∧ hasLeadingZero segment.reverse then .error (.leadingZero part)
      else .ok ((String.ofList segment.reverse :: done).reverse, [])

/-- Identifiers behind a mark; the mark without any is an error. -/
def readMarked (mark : Char) (part : Part) :
    List Char → Except ParseError (List String × List Char)
  | c :: rest =>
    if c = mark then do
      let (ids, rest) ← readIdentifiers part rest [] []
      if ids.isEmpty then throw (.emptySegment part) else return (ids, rest)
    else .ok ([], c :: rest)
  | [] => .ok ([], [])

/-- The version a text denotes. -/
def parse (s : String) : Except ParseError Version := do
  let cs := s.toList
  if cs.isEmpty then throw .empty
  let (major, cs) ← readNumber .major cs
  let cs ← readPoint .major cs
  let (minor, cs) ← readNumber .minor cs
  let cs ← readPoint .minor cs
  let (patch, cs) ← readNumber .patch cs
  let (pre, cs') ← readMarked '-' .pre cs
  let (build, cs'') ← readMarked '+' .build cs'
  match cs'' with
  | [] => return { major, minor, patch, pre, build }
  | c :: _ =>
    let last := if !build.isEmpty then Part.build else if !pre.isEmpty then .pre else .patch
    throw (.unexpectedCharAfter last c)

/-! ## Order -/

/-- Whether an identifier is made of digits alone. -/
def isNumericIdentifier (s : String) : Bool :=
  s.toList.all Char.isDigit

/-- Order of pre-release identifiers: numbers come first, by value. -/
def comparePre (a b : String) : Ordering :=
  match isNumericIdentifier a, isNumericIdentifier b with
  | false, true => .gt
  | true, false => .lt
  | false, false => compare a b
  | true, true => (compare a.length b.length).then (compare a b)

/-- Order of build identifiers: numbers come first, by value and then by the
number of leading zeros. -/
def compareBuild (a b : String) : Ordering :=
  match isNumericIdentifier a, isNumericIdentifier b with
  | false, true => .gt
  | true, false => .lt
  | false, false => compare a b
  | true, true =>
    let x := String.ofList (a.toList.dropWhile (· = '0'))
    let y := String.ofList (b.toList.dropWhile (· = '0'))
    ((compare x.length y.length).then (compare x y)).then (compare a.length b.length)

/-- Order of identifier lists; a proper beginning comes first. -/
def compareIdentifiers (cmp : String → String → Ordering) : List String → List String → Ordering
  | [], [] => .eq
  | [], _ :: _ => .lt
  | _ :: _, [] => .gt
  | a :: as, b :: bs => (cmp a b).then (compareIdentifiers cmp as bs)

/-- Order of the pre-release parts: a release comes after its pre-releases. -/
def comparePres (a b : List String) : Ordering :=
  match a, b with
  | [], [] => .eq
  | [], _ => .gt
  | _, [] => .lt
  | a, b => compareIdentifiers comparePre a b

/-- The order of versions. -/
def cmp (a b : Version) : Ordering :=
  (compare a.major b.major).then <| (compare a.minor b.minor).then <|
    (compare a.patch b.patch).then <| (comparePres a.pre b.pre).then <|
      compareIdentifiers compareBuild (if a.build.isEmpty then [""] else a.build)
        (if b.build.isEmpty then [""] else b.build)

end Version

end TravelModel
