/-!
# TravelModel — kinds of facets

An object has fixed facets, which hold its content in growing detail, and
contextual facets, which are declared on their own and attached to it.
-/

namespace TravelModel

/-- The kinds of facets. -/
inductive FacetKind where
  | id
  | summary
  | detail
  | shared
  | simple
  | custom
  | query
  | update
  | choice
deriving DecidableEq, Repr, Inhabited

/-- The kinds of facets that are declared on their own. -/
inductive ContextualKind where
  | custom
  | query
  | update
  | choice
deriving DecidableEq, Repr, Inhabited

namespace FacetKind

/-- How a facet is called in names. -/
def label : FacetKind → String
  | id => "ID"
  | summary => "Summary"
  | detail => "Detail"
  | shared => "Shared"
  | simple => "Simple"
  | custom => "Custom"
  | query => "Query"
  | update => "Update"
  | choice => "Choice"

/-- All kinds. -/
def all : List FacetKind :=
  [id, summary, detail, shared, simple, custom, query, update, choice]

/-- The fixed facet a derived name ends in. -/
def ofSuffix? : String → Option FacetKind
  | "ID" => some id
  | "Summary" => some summary
  | "Detail" => some detail
  | "Shared" => some shared
  | "Simple" => some simple
  | _ => none

/-- The place of a facet in the order of growing content. -/
def rank : FacetKind → Nat
  | id | simple | shared => 0
  | summary => 1
  | detail => 2
  | custom | query | update | choice => 3

end FacetKind

namespace ContextualKind

/-- All kinds. -/
def all : List ContextualKind :=
  [custom, query, update, choice]

/-- The kind of facet. -/
def facetKind : ContextualKind → FacetKind
  | custom => .custom
  | query => .query
  | update => .update
  | choice => .choice

/-- How a kind is written in declarations. -/
def name : ContextualKind → String
  | custom => "custom"
  | query => "query"
  | update => "update"
  | choice => "choice"

/-- The kind of a written name. -/
def ofName? (s : String) : Option ContextualKind :=
  all.find? fun k => k.name = s

/-- The entity name of a contextual facet, such as `Order_Custom_Web`. -/
def entityName (kind : ContextualKind) (owner facetName : String) : String :=
  owner ++ "_" ++ kind.facetKind.label ++ "_" ++ facetName

end ContextualKind

end TravelModel
