import TravelModel.Entity.FacetKind
import TravelModel.Model.Basic
import TravelModel.Version.Namespace

/-!
# TravelModel — names in generated documents

Every generated name is made here, so that a type has the same name where it
is declared and where it is referred to.
-/

namespace TravelModel.Naming

/-- The type of a facet, such as `Order_Summary`. -/
def facetType (owner : String) (kind : FacetKind) : String :=
  owner ++ "_" ++ kind.label

/-- The element of a fixed facet. -/
def facetElement? (owner : String) : FacetKind → Option String
  | .id => some (owner ++ "ID")
  | .summary | .shared => some owner
  | .detail => some (owner ++ "Detail")
  | _ => none

/-- The element of a contextual facet, such as `OrderCustomWeb`. -/
def contextualElement (owner : String) (kind : FacetKind) (facetName : String) : String :=
  owner ++ kind.label ++ facetName

/-- The type of an extension point. -/
def extensionPoint (owner : String) (kind : FacetKind) : String :=
  "ExtensionPoint_" ++ kind.label ++ "_" ++ owner

/-- The element a facet can be extended at. -/
def extensionElement? : FacetKind → Option String
  | .simple => none
  | kind => some ("ExtensionPoint_" ++ kind.label)

/-- The base type of an open enumeration. -/
def openEnumBase (name : String) : String :=
  name ++ "_Base"

/-- The literal every open enumeration has. -/
def openEnumOther : String := "Other_"

/-- The document name of a library: its name with its version. -/
def libraryStem (l : Library) : String :=
  match VersionScheme.parseVersion l.version with
  | .ok v =>
    l.name ++ "_" ++ toString v.major ++ "_" ++ toString v.minor ++ "_" ++ toString v.patch
  | .error _ => l.name

/-- Replaces each occurrence of a text. -/
def replaceAll (text pattern value : String) : String :=
  value.intercalate (text.splitOn pattern)

/-- Fills a file name template. -/
def applyTemplate (template : String) (l : Library) : String :=
  replaceAll (replaceAll template "\x7blibrary\x7d" l.name) "\x7bversion\x7d" l.version

/-- The document that includes all files of a namespace. -/
def consolidationFile (nsPrefix : String) : String :=
  nsPrefix ++ "_ImportConsolidation.xsd"

/-- The document of the messages of a service. -/
def serviceFile (service : String) : String :=
  service ++ "_Messages.xsd"

/-- The document of the requests and responses of a business object. -/
def requestResponseFile (businessObject : String) : String :=
  businessObject ++ "_RAS.xsd"

/-- The type that selects a facet of a business object. -/
def facetSelector (businessObject : String) : String :=
  businessObject ++ "_FacetType"

end TravelModel.Naming
