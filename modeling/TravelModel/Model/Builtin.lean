import TravelModel.Model.Binding

/-!
# TravelModel — libraries that come with the program

The primitive types and a small library of common types. The common library
has a schema of its own, which is published as it is.
-/

namespace TravelModel.Builtin

/-- The namespace of the common library. -/
def commonNamespace : String := "http://www.opentravel.org/OTM/Common/v0"

/-- The directory the schema of the common library is published in. -/
def directory : String := "built-ins"

/-- The file name of the schema of the common library. -/
def commonFile : String := "OTM_Common.xsd"

/-- Whether a namespace is known without an import. -/
def isIntrinsic (ns : String) : Bool :=
  ns = primitiveNamespace

/-- The location of a library that comes with the program. -/
def builtinUrl (file : String) : Url :=
  { scheme := "otm-builtin", authority := some { userInfo := "", host := none, port := none }
    path := .rooted [file], query := none, fragment := none }

/-- A simple type with a base. -/
def restriction (name base : String) : MemberDecl :=
  { name, documentation := none, body := .simpleType { base := some (.unbound base) } }

/-- The common library. -/
def common : LibraryModule :=
  { url := builtinUrl "OTM_Common.otm.json"
    grammar := .v1_6
    header :=
      { name := "OTM_Common", ns := some commonNamespace, nsPrefix := some "ota2"
        version := some "0.0.0", status := .final
        documentation := some "Common types shared by every OTM library" }
    imports := [], includes := [], contexts := []
    members :=
      [ { name := "Empty", documentation := some "Value that carries no content"
          body := .simpleType { base := some (.unbound "xsd:string"), maxLength := some 0 } },
        restriction "LocalDate" "xsd:date", restriction "LocalTime" "xsd:time",
        restriction "LocalDateTime" "xsd:dateTime",
        { name := "LanguageCode", documentation := none
          body := .enumeration { isOpen := true, values := [], extension := none } } ] }

/-- The names of the primitive types. -/
def primitiveNames : List String :=
  [ "anyURI", "base64Binary", "boolean", "date", "dateTime", "decimal", "double", "duration",
    "float", "gDay", "gMonth", "gMonthDay", "gYear", "gYearMonth", "hexBinary", "ID", "IDREF",
    "IDREFS", "int", "integer", "language", "long", "Name", "NCName", "negativeInteger",
    "NMTOKEN", "NMTOKENS", "nonNegativeInteger", "nonPositiveInteger", "normalizedString",
    "positiveInteger", "QName", "short", "string", "time", "token", "unsignedInt",
    "unsignedLong", "unsignedShort", "byte", "unsignedByte" ]

/-- The library of primitive types. -/
def primitives : LibraryModule :=
  { url := builtinUrl "XMLSchema.otm.json"
    grammar := .v1_6
    header :=
      { name := "XMLSchema", ns := some primitiveNamespace, nsPrefix := some "xsd"
        version := some "1.0.0", status := .final
        documentation := some "XML Schema primitive types" }
    imports := [], includes := [], contexts := []
    members := primitiveNames.map fun name =>
      { name, documentation := none, body := .simpleType {} } }

/-- The libraries that come with the program, in order. -/
def modules : List LibraryModule :=
  [common, primitives]

/-- The schema of the common library. -/
def commonSchema : String :=
  "\n".intercalate
    [ "<?xml version=\"1.0\" encoding=\"UTF-8\"?>",
      "<xsd:schema xmlns:xsd=\"http://www.w3.org/2001/XMLSchema\"",
      "            xmlns:ota2=\"http://www.opentravel.org/OTM/Common/v0\"",
      "            targetNamespace=\"http://www.opentravel.org/OTM/Common/v0\"",
      "            elementFormDefault=\"qualified\"",
      "            attributeFormDefault=\"unqualified\">",
      "",
      "  <xsd:simpleType name=\"Empty\">",
      "    <xsd:restriction base=\"xsd:string\">",
      "      <xsd:maxLength value=\"0\"/>",
      "    </xsd:restriction>",
      "  </xsd:simpleType>",
      "",
      "  <xsd:simpleType name=\"LocalDate\">",
      "    <xsd:restriction base=\"xsd:date\"/>",
      "  </xsd:simpleType>",
      "",
      "  <xsd:simpleType name=\"LocalTime\">",
      "    <xsd:restriction base=\"xsd:time\"/>",
      "  </xsd:simpleType>",
      "",
      "  <xsd:simpleType name=\"LocalDateTime\">",
      "    <xsd:restriction base=\"xsd:dateTime\"/>",
      "  </xsd:simpleType>",
      "",
      "  <xsd:simpleType name=\"LanguageCode\">",
      "    <xsd:restriction base=\"xsd:string\"/>",
      "  </xsd:simpleType>",
      "",
      "  <xsd:complexType name=\"ExtensionPoint_Type\">",
      "    <xsd:sequence>",
      "      <xsd:any namespace=\"##other\" processContents=\"lax\" minOccurs=\"0\" maxOccurs=\"unbounded\"/>",
      "    </xsd:sequence>",
      "  </xsd:complexType>",
      "",
      "  <xsd:element name=\"ExtensionPoint\" type=\"ota2:ExtensionPoint_Type\"/>",
      "  <xsd:element name=\"ExtensionPoint_ID\" type=\"ota2:ExtensionPoint_Type\"/>",
      "  <xsd:element name=\"ExtensionPoint_Summary\" type=\"ota2:ExtensionPoint_Type\"/>",
      "  <xsd:element name=\"ExtensionPoint_Detail\" type=\"ota2:ExtensionPoint_Type\"/>",
      "  <xsd:element name=\"ExtensionPoint_Shared\" type=\"ota2:ExtensionPoint_Type\"/>",
      "  <xsd:element name=\"ExtensionPoint_Custom\" type=\"ota2:ExtensionPoint_Type\"/>",
      "  <xsd:element name=\"ExtensionPoint_Query\" type=\"ota2:ExtensionPoint_Type\"/>",
      "  <xsd:element name=\"ExtensionPoint_Update\" type=\"ota2:ExtensionPoint_Type\"/>",
      "  <xsd:element name=\"ExtensionPoint_Choice\" type=\"ota2:ExtensionPoint_Type\"/>",
      "",
      "</xsd:schema>", "" ]

end TravelModel.Builtin
