import TravelModel.Json.Value
import TravelModel.Text.Split

/-!
# TravelModel — shapes of JSON values

A shape says which JSON values a grammar admits: fixed texts, texts by rule,
whole numbers in a range, lists, and records that admit no other fields.
`violations` gives the places where a value breaks a shape.
-/

namespace TravelModel

/-- A rule for texts. -/
inductive TextRule where
  | any
  | nonEmpty
  | name
  | typeName
  | namespaceUri
  | versionNumber
deriving DecidableEq, Repr, Inhabited

/-- What a record requires, depending on the text in its field `kind`. A record
without that field counts as one of any kind asked for. -/
inductive Condition where
  | requires (names : List String)
  | ifKind (kind : String) (yes no : Condition)
deriving Repr, Inhabited

/-- Which values are admitted. -/
inductive Shape where
  | oneOf (texts : List String)
  | text (rule : TextRule)
  | integer (least : Int) (most : Option Int)
  | boolean
  | list (item : Shape)
  | record (fields : List (String × Shape)) (conditions : List Condition)
deriving Repr, Inhabited

namespace TextRule

/-- A character a name starts with. -/
def isNameStart (c : Char) : Bool :=
  c.isAlpha || c = '_'

/-- A character inside a name. -/
def isNameChar (c : Char) : Bool :=
  c.isAlphanum || c = '_' || c = '.' || c = '-'

/-- Whether characters are a name. -/
def isName : List Char → Bool
  | [] => false
  | c :: rest => isNameStart c && rest.all isNameChar

/-- Whether characters are a name with or without a name and a colon before it. -/
def isTypeName (cs : List Char) : Bool :=
  match Text.splitChars ':' cs with
  | [n] => isName n
  | [p, n] => isName p && isName n
  | _ => false

/-- Whether characters start with a scheme and a colon. -/
def startsWithScheme : List Char → Bool
  | [] => false
  | c :: rest =>
    c.isAlpha &&
      (rest.dropWhile fun c => c.isAlphanum || c = '+' || c = '.' || c = '-').head? = some ':'

/-- Whether characters are one to three numbers parted by points. -/
def isVersionNumber (cs : List Char) : Bool :=
  let parts := Text.splitChars '.' cs
  parts.length ≤ 3 && parts.all fun p => !p.isEmpty && p.all Char.isDigit

/-- Whether a text follows a rule. -/
def holds (rule : TextRule) (s : String) : Bool :=
  match rule with
  | any => true
  | nonEmpty => s ≠ ""
  | name => isName s.toList
  | typeName => isTypeName s.toList
  | namespaceUri => startsWithScheme s.toList
  | versionNumber => isVersionNumber s.toList

end TextRule

/-- Whether a number is whole and within bounds. -/
def JsonNumber.inRange (least : Int) (most : Option Int) : JsonNumber → Bool
  | .whole n => least ≤ n && most.all (n ≤ ·)
  | .float x => x.isWhole && !x.ltInt least && !most.any (x.gtInt ·)

/-- The fields a condition requires of a record. -/
def Condition.required (fields : Keyed Json) : Condition → List String
  | requires names => names
  | ifKind kind yes no =>
    let matching :=
      match Keyed.find? "kind" fields with
      | none => true
      | some (.str s) => s = kind
      | some _ => false
    if matching then yes.required fields else no.required fields

/-- A place in a value: field names and item numbers, from the outside in. -/
abbrev JsonPlace := List String

/-- A place as a path with slashes. -/
def JsonPlace.text (p : JsonPlace) : String :=
  String.join (p.map ("/" ++ ·))

namespace Shape

/-- The violation of a value that fails as a whole. -/
def failUnless (ok : Bool) : List JsonPlace :=
  if ok then [] else [[]]

/-- Violations inside each item of a list. -/
def itemViolations (check : Json → List JsonPlace) : Nat → List Json → List JsonPlace
  | _, [] => []
  | i, j :: rest => (check j).map (toString i :: ·) ++ itemViolations check (i + 1) rest

/-- Whether a record lacks a required field or has one that is not known. -/
def recordFails (known : List String) (conditions : List Condition) (fields : Keyed Json) : Bool :=
  (fields.any fun f => !known.contains f.1) ||
    conditions.any fun c => (c.required fields).any fun n => !fields.contains n

mutual

/-- The places where a value breaks a shape. -/
def violations : Shape → Json → List JsonPlace
  | oneOf texts, j =>
    failUnless <|
      match j with
      | .str s => texts.contains s
      | _ => false
  | text rule, j =>
    failUnless <|
      match j with
      | .str s => rule.holds s
      | _ => false
  | integer least most, j =>
    failUnless <|
      match j with
      | .num n => n.inRange least most
      | _ => false
  | boolean, j =>
    failUnless <|
      match j with
      | .bool _ => true
      | _ => false
  | list item, j =>
    match j with
    | .arr items => itemViolations (violations item) 0 items
    | _ => [[]]
  | record shapes conditions, j =>
    match j with
    | .obj fields =>
      failUnless (!recordFails (shapes.map Prod.fst) conditions fields) ++
        fieldViolations shapes fields
    | _ => [[]]

/-- The places where the fields of a record break their shapes. -/
def fieldViolations : List (String × Shape) → Keyed Json → List JsonPlace
  | [], _ => []
  | (name, shape) :: rest, fields =>
    (match Keyed.find? name fields with
      | some j => (violations shape j).map (name :: ·)
      | none => []) ++
      fieldViolations rest fields

end

/-- Whether a value is admitted. -/
def admits (s : Shape) (j : Json) : Bool :=
  (s.violations j).isEmpty

end Shape

end TravelModel
