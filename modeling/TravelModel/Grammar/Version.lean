import TravelModel.Grammar.Shape

/-!
# TravelModel — grammars of library documents

A document names its grammar. Three grammars are known: the current one,
one that declares contextual facets inline on their owners, and one without
choice objects, resources and contexts.
-/

namespace TravelModel

/-- The grammars of library documents. -/
inductive Grammar where
  | v1_6
  | v1_5
  | v1_4
deriving DecidableEq, Repr, Inhabited

namespace Grammar

/-- All grammars, the most specific first. -/
def all : List Grammar :=
  [v1_6, v1_5, v1_4]

/-- The name of a grammar. -/
def label : Grammar → String
  | v1_6 => "LibraryModel_v01_06"
  | v1_5 => "LibraryModel_v01_05"
  | v1_4 => "LibraryModel_v01_04"

/-- The namespace by which documents name a grammar. -/
def ns (g : Grammar) : String :=
  "http://www.OpenTravel.org/ns/OTA2/" ++ g.label

/-- The field that names the grammar of a document. -/
def key : String := "$grammar"

/-- Whether a document names a grammar as its own. -/
def claims (g : Grammar) (document : Json) : Bool :=
  document.textField? key = some g.ns

/-! ## Shapes of parts -/

/-- A name. -/
def nameShape : Shape := .text .name

/-- A name of a type. -/
def typeNameShape : Shape := .text .typeName

/-- Any text. -/
def textShape : Shape := .text .any

/-- A text that is not empty. -/
def filledShape : Shape := .text .nonEmpty

/-- A whole number from a bound on. -/
def atLeast (n : Int) : Shape := .integer n none

/-- A record with some required fields. -/
def recordShape (required : List String) (fields : List (String × Shape)) : Shape :=
  .record fields [.requires required]

/-- The shape of an attribute. -/
def attributeShape : Shape :=
  recordShape ["name", "type"]
    [ ("name", nameShape), ("type", typeNameShape), ("mandatory", .boolean), ("documentation", textShape) ]

/-- The shape of an element. -/
def elementShape : Shape :=
  recordShape ["type"]
    [ ("name", nameShape), ("type", typeNameShape), ("mandatory", .boolean), ("repeat", atLeast 0),
      ("unbounded", .boolean), ("reference", .boolean), ("documentation", textShape) ]

/-- The shape of an indicator. -/
def indicatorShape : Shape :=
  recordShape ["name"]
    [("name", nameShape), ("publishAsElement", .boolean), ("documentation", textShape)]

/-- The fields of a facet's content. -/
def contentShapes : List (String × Shape) :=
  [ ("attributes", .list attributeShape), ("elements", .list elementShape),
    ("indicators", .list indicatorShape) ]

/-- The shape of a facet. -/
def facetShape : Shape :=
  recordShape [] contentShapes

/-- The shape of an import. -/
def importShape : Shape :=
  recordShape []
    [("namespace", .text .namespaceUri), ("prefix", nameShape), ("fileHints", .list filledShape)]

/-- The shape of a context. -/
def contextShape : Shape :=
  recordShape ["contextId"] [("contextId", filledShape), ("applicationContext", textShape)]

/-- The shape of an operation. -/
def operationShape : Shape :=
  recordShape ["name"]
    [ ("name", nameShape), ("request", facetShape), ("response", facetShape),
      ("notification", facetShape) ]

/-- The shape of a value of an enumeration. -/
def enumValueShape : Shape :=
  recordShape ["literal"] [("literal", filledShape), ("documentation", textShape)]

/-- The shape of a request. -/
def requestShape : Shape :=
  recordShape ["method"]
    [ ("method", .oneOf ["GET", "POST", "PUT", "PATCH", "DELETE", "HEAD", "OPTIONS"]),
      ("pathTemplate", textShape), ("parameterGroup", nameShape), ("payload", typeNameShape),
      ("mimeTypes", .list textShape) ]

/-- The shape of a response. -/
def responseShape : Shape :=
  recordShape ["statusCodes"]
    [ ("statusCodes", .list (.integer 100 (some 599))), ("payload", typeNameShape),
      ("mimeTypes", .list textShape) ]

/-- The shape of an action. -/
def actionShape : Shape :=
  recordShape ["actionId", "request"]
    [ ("actionId", nameShape), ("common", .boolean), ("request", requestShape),
      ("responses", .list responseShape) ]

/-- The shape of a parameter. -/
def parameterShape : Shape :=
  recordShape ["fieldName"]
    [("fieldName", nameShape), ("location", .oneOf ["path", "query", "header"])]

/-- The shape of a parameter group. -/
def parameterGroupShape : Shape :=
  recordShape ["name"]
    [ ("name", nameShape), ("idGroup", .boolean), ("facet", typeNameShape),
      ("parameters", .list parameterShape) ]

/-- The shape of a parent of a resource. -/
def parentShape : Shape :=
  recordShape ["resource"]
    [("resource", typeNameShape), ("pathTemplate", textShape), ("parameterGroup", nameShape)]

/-- The shape of a facet declared on its owner. -/
def inlineFacetShape : Shape :=
  recordShape ["name"] ([("name", nameShape), ("context", filledShape), ("documentation", textShape)] ++ contentShapes)

/-! ## Members -/

/-- The fields members have in every grammar. -/
def sharedMemberShapes : List (String × Shape) :=
  [ ("name", nameShape), ("documentation", textShape), ("base", typeNameShape), ("pattern", textShape),
    ("minLength", atLeast 0), ("maxLength", atLeast 0), ("fractionDigits", atLeast 0),
    ("totalDigits", atLeast 1), ("minInclusive", textShape), ("maxInclusive", textShape),
    ("list", .boolean), ("extension", typeNameShape), ("valueType", typeNameShape),
    ("simpleType", typeNameShape), ("summary", facetShape), ("detail", facetShape),
    ("id", facetShape), ("roles", .list nameShape), ("aliases", .list nameShape),
    ("notExtendable", .boolean), ("extends", typeNameShape), ("operations", .list operationShape) ] ++
    contentShapes

/-- The fields of members from version 1.5 on. -/
def resourceMemberShapes : List (String × Shape) :=
  [ ("open", .boolean), ("values", .list enumValueShape), ("shared", facetShape),
    ("businessObject", typeNameShape), ("basePath", textShape), ("abstract", .boolean),
    ("firstClass", .boolean), ("parents", .list parentShape),
    ("parameterGroups", .list parameterGroupShape), ("actions", .list actionShape) ]

/-- An extension point says what it extends; any other member has a name. -/
def namedOrExtending : Condition :=
  .ifKind "extensionPointFacet" (.requires ["extends"]) (.requires ["name"])

/-- The shape of a member. -/
def memberShape : Grammar → Shape
  | v1_6 =>
    .record
      ([("kind", .oneOf
          [ "simpleType", "enumeration", "valueWithAttributes", "coreObject", "businessObject",
            "choiceObject", "contextualFacet", "extensionPointFacet", "resource", "service" ])] ++
        sharedMemberShapes ++ resourceMemberShapes ++
        [ ("facetKind", .oneOf ["custom", "query", "update", "choice"]), ("facetName", nameShape),
          ("owner", typeNameShape), ("context", filledShape) ])
      [ .requires ["kind"],
        .ifKind "contextualFacet" (.requires ["facetKind", "facetName", "owner"]) (.requires []),
        .ifKind "extensionPointFacet" (.requires ["extends"])
          (.ifKind "contextualFacet" (.requires []) (.requires ["name"])) ]
  | v1_5 =>
    .record
      ([("kind", .oneOf
          [ "simpleType", "enumeration", "valueWithAttributes", "coreObject", "businessObject",
            "choiceObject", "extensionPointFacet", "resource", "service" ])] ++
        sharedMemberShapes ++ resourceMemberShapes ++
        [ ("customFacets", .list inlineFacetShape), ("queryFacets", .list inlineFacetShape),
          ("updateFacets", .list inlineFacetShape), ("choiceFacets", .list inlineFacetShape) ])
      [.requires ["kind"], namedOrExtending]
  | v1_4 =>
    .record
      ([("kind", .oneOf
          [ "simpleType", "enumeration", "valueWithAttrs", "coreObject", "businessObject",
            "extensionPointFacet", "service" ])] ++
        sharedMemberShapes ++ [("extensible", .boolean), ("values", .list filledShape)])
      [.requires ["kind"], namedOrExtending]

/-! ## Documents -/

/-- The fields of documents in every grammar. -/
def documentShapes (g : Grammar) : List (String × Shape) :=
  [ (key, .oneOf [g.ns]), ("name", nameShape), ("namespace", .text .namespaceUri),
    ("prefix", nameShape), ("version", .text .versionNumber),
    ("status", .oneOf ["draft", "underReview", "final", "obsolete"]),
    ("documentation", textShape), ("imports", .list importShape), ("includes", .list filledShape),
    ("members", .list (memberShape g)) ]

/-- The shape of documents. -/
def shape : Grammar → Shape
  | v1_4 => .record (documentShapes .v1_4) [.requires [key, "name", "members"]]
  | g =>
    .record (documentShapes g ++ [("contexts", .list contextShape)])
      [.requires [key, "name", "members"]]

/-- The places where a document breaks a grammar. -/
def violations (g : Grammar) (document : Json) : List JsonPlace :=
  g.shape.violations document

end Grammar

end TravelModel
