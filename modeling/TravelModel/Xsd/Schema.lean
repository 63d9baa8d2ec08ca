import TravelModel.Model.Binding

/-!
# TravelModel — XML schemas

Schemas in memory. Components carry names with namespaces; prefixes come in
when a schema is written.
-/

namespace TravelModel.Xsd

/-- A name with its namespace. -/
structure QName where
  ns : Option String
  name : String
deriving DecidableEq, Repr, Inhabited

/-- A name of a primitive type. -/
def QName.primitive (name : String) : QName :=
  ⟨some primitiveNamespace, name⟩

/-- A restriction on the values of a simple type. -/
inductive Facet where
  | pattern (value : String)
  | minLength (n : Nat)
  | maxLength (n : Nat)
  | fractionDigits (n : Nat)
  | totalDigits (n : Nat)
  | minInclusive (value : String)
  | maxInclusive (value : String)
  | enumeration (value : String) (documentation : Option String)
deriving DecidableEq, Repr, Inhabited

namespace Facet

/-- The tag of a facet. -/
def tag : Facet → String
  | pattern _ => "xsd:pattern"
  | minLength _ => "xsd:minLength"
  | maxLength _ => "xsd:maxLength"
  | fractionDigits _ => "xsd:fractionDigits"
  | totalDigits _ => "xsd:totalDigits"
  | minInclusive _ => "xsd:minInclusive"
  | maxInclusive _ => "xsd:maxInclusive"
  | enumeration _ _ => "xsd:enumeration"

/-- The value of a facet as text. -/
def value : Facet → String
  | pattern v | minInclusive v | maxInclusive v | enumeration v _ => v
  | minLength n | maxLength n | fractionDigits n | totalDigits n => toString n

end Facet

/-- How a simple type is derived. -/
inductive SimpleDerivation where
  | restriction (base : QName) (facets : List Facet)
  | list (item : QName)
deriving DecidableEq, Repr, Inhabited

/-- What stands at a place of a sequence. -/
inductive Term where
  /-- An element declared here. -/
  | element (name : String) (type : QName) (documentation : Option String)
  /-- A reference to a global element. -/
  | ref (name : QName)
deriving DecidableEq, Repr, Inhabited

/-- A place of a sequence; without a most it is unbounded. -/
structure Particle where
  term : Term
  minOccurs : Nat
  maxOccurs : Option Nat
deriving DecidableEq, Repr, Inhabited

/-- An attribute of a complex type. -/
structure AttributeDef where
  name : String
  type : QName
  required : Bool
  documentation : Option String
deriving DecidableEq, Repr, Inhabited

/-- The content of a complex type. -/
inductive ComplexContent where
  | sequence (particles : List Particle)
  /-- Simple content that extends another type. -/
  | simpleExtension (base : QName)
  /-- Complex content that extends another type. -/
  | extension (base : QName) (particles : List Particle)
deriving DecidableEq, Repr, Inhabited

/-- A simple type. -/
structure SimpleTypeDef where
  name : String
  documentation : Option String
  derivation : SimpleDerivation
deriving DecidableEq, Repr, Inhabited

/-- A complex type. -/
structure ComplexTypeDef where
  name : String
  documentation : Option String
  content : ComplexContent
  attributes : List AttributeDef
deriving DecidableEq, Repr, Inhabited

/-- A global element. -/
structure ElementDef where
  name : String
  type : QName
  substitutionGroup : Option QName
  documentation : Option String
deriving DecidableEq, Repr, Inhabited

/-- A global component. -/
inductive Component where
  | simpleType (t : SimpleTypeDef)
  | complexType (t : ComplexTypeDef)
  | element (e : ElementDef)
deriving DecidableEq, Repr, Inhabited

/-- An import of another namespace. -/
structure Import where
  ns : String
  location : Option String
deriving DecidableEq, Repr, Inhabited

/-- A schema; without a target namespace it takes those of its hosts. -/
structure Schema where
  targetNamespace : Option String := none
  version : Option String := none
  documentation : Option String := none
  includes : List String := []
  imports : List Import := []
  components : List Component := []
deriving DecidableEq, Repr, Inhabited

/-- A schema with the file it is written to. -/
structure Document where
  path : String
  library : Option LibraryId
  /-- The namespaces it is included into if it has none. -/
  hosts : List String
  schema : Schema
  service : Bool
deriving DecidableEq, Repr, Inhabited

/-! ## References -/

/-- The name a term refers to. -/
def Term.reference : Term → QName
  | element _ type _ => type
  | ref name => name

/-- The name of a component. -/
def Component.name : Component → String
  | simpleType t => t.name
  | complexType t => t.name
  | element e => e.name

/-- The names a component refers to, in order. -/
def Component.references : Component → List QName
  | simpleType t =>
    match t.derivation with
    | .restriction base _ => [base]
    | .list item => [item]
  | complexType t =>
    (match t.content with
      | .sequence ps => ps.map fun p => p.term.reference
      | .simpleExtension base => [base]
      | .extension base ps => base :: ps.map fun p => p.term.reference) ++
      t.attributes.map AttributeDef.type
  | element e => e.type :: e.substitutionGroup.toList

namespace Schema

/-- The names the components of a schema refer to, in order. -/
def references (s : Schema) : List QName :=
  s.components.flatMap Component.references

/-- Texts in order, each once. -/
def sortedDistinct (items : List String) : List String :=
  (Keyed.ofList (items.map fun i => (i, ()))).keys

/-- The namespaces a schema needs prefixes for, in order. -/
def namespaces (s : Schema) : List String :=
  sortedDistinct <|
    s.targetNamespace.toList ++ s.imports.map Import.ns ++ s.references.filterMap QName.ns

/-- Adds an include unless it is there. -/
def addInclude (s : Schema) (location : String) : Schema :=
  if s.includes.contains location then s else { s with includes := s.includes ++ [location] }

/-- Adds an import unless it is there. -/
def addImport (s : Schema) (ns : String) (location : Option String) : Schema :=
  if s.imports.contains ⟨ns, location⟩ then s
  else { s with imports := s.imports ++ [⟨ns, location⟩] }

end Schema

end TravelModel.Xsd
