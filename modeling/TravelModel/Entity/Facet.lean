import TravelModel.Entity.Reference

/-!
# TravelModel — content of facets

A facet holds attributes, elements and indicators. Content grows by
appending: what comes from a supertype or a lower facet stands first.
-/

namespace TravelModel

/-- An attribute of a facet. -/
structure Attribute where
  name : String
  type : Reference
  mandatory : Bool
  documentation : Option String
deriving DecidableEq, Repr, Inhabited

/-- An element of a facet. An empty name means that of the type; a repeat of
zero or one means a single value. -/
structure Element where
  name : String
  type : Reference
  mandatory : Bool
  maxRepeat : Nat
  unbounded : Bool
  byReference : Bool
  documentation : Option String
deriving DecidableEq, Repr, Inhabited

/-- A yes-or-no mark of a facet. -/
structure Indicator where
  name : String
  publishAsElement : Bool
  documentation : Option String
deriving DecidableEq, Repr, Inhabited

/-- The content of a facet. -/
structure FacetContent where
  attributes : List Attribute := []
  elements : List Element := []
  indicators : List Indicator := []
deriving DecidableEq, Repr, Inhabited

namespace Element

/-- The name an element has as a property. -/
def propertyName (e : Element) : String :=
  if e.name = "" then e.type.localName else e.name

/-- Whether an element can occur more than once. -/
def isRepeating (e : Element) : Bool :=
  e.unbounded || e.maxRepeat > 1

end Element

instance : References Attribute where
  refs a := refs a.type
  putRefs a rs := { a with type := putRefs a.type rs }

instance : References Element where
  refs e := refs e.type
  putRefs e rs := { e with type := putRefs e.type rs }

instance : References FacetContent where
  refs c := refs (c.attributes, c.elements)
  putRefs c rs :=
    let p := putRefs (c.attributes, c.elements) rs
    { c with attributes := p.1, elements := p.2 }

namespace FacetContent

/-- Whether a facet has no content. -/
def isEmpty (c : FacetContent) : Bool :=
  c.attributes.isEmpty && c.elements.isEmpty && c.indicators.isEmpty

/-- The content of one facet followed by that of another. -/
def append (a b : FacetContent) : FacetContent :=
  { attributes := a.attributes ++ b.attributes
    elements := a.elements ++ b.elements
    indicators := a.indicators ++ b.indicators }

/-- The contents of some facets one after another. -/
def concat (cs : List FacetContent) : FacetContent :=
  cs.foldl append {}

end FacetContent

end TravelModel
