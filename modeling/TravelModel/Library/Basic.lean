import TravelModel.Entity.Decode
import TravelModel.Entity.Encode
import TravelModel.Grammar.Version
import TravelModel.Url.FilePath

/-!
# TravelModel — library declarations

What a document says about its library: the header, the namespaces it
imports, the files it includes, its contexts and its members.
-/

namespace TravelModel

/-- How far a library has come. -/
inductive LibraryStatus where
  | draft
  | underReview
  | final
  | obsolete
deriving DecidableEq, Repr, Inhabited

namespace LibraryStatus

/-- All states. -/
def all : List LibraryStatus :=
  [draft, underReview, final, obsolete]

/-- How a state is written. -/
def name : LibraryStatus → String
  | draft => "draft"
  | underReview => "underReview"
  | final => "final"
  | obsolete => "obsolete"

/-- The state of a written name. -/
def ofName? (s : String) : Option LibraryStatus :=
  all.find? fun v => v.name = s

end LibraryStatus

/-- An import of another namespace; without a namespace it is one of a library
that takes the namespace of its host. -/
structure ImportDecl where
  ns : Option String
  nsPrefix : Option String
  fileHints : List String
deriving DecidableEq, Repr, Inhabited

/-- A context that contextual facets may refer to. -/
structure ContextDecl where
  contextId : String
  applicationContext : Option String
deriving DecidableEq, Repr, Inhabited

/-- The header of a library. -/
structure LibraryHeader where
  name : String
  ns : Option String
  nsPrefix : Option String
  version : Option String
  status : LibraryStatus
  documentation : Option String
deriving DecidableEq, Repr, Inhabited

/-- A library as read from a document. -/
structure LibraryModule where
  url : Url
  grammar : Grammar
  header : LibraryHeader
  imports : List ImportDecl
  includes : List String
  contexts : List ContextDecl
  members : List MemberDecl
deriving DecidableEq, Repr, Inhabited

/-- What a module depends on: namespaces with the files that may hold them. -/
def LibraryModule.dependencies (m : LibraryModule) : List (Option String × List String) :=
  (m.imports.map fun i => (i.ns, i.fileHints)) ++
    if m.includes.isEmpty then [] else [(m.header.ns, m.includes)]

/-! ## Reading and writing -/

open Json (text? bool? list? choice?)
open RecordSource (object? record?)

/-- Reads an import. -/
def ImportDecl.decode? (j : Json) : Option ImportDecl := do
  let s ← record? 3 j
  return {
    ns := ← s.optional 0 "namespace" text?
    nsPrefix := ← s.optional 1 "prefix" text?
    fileHints := ← s.withDefault 2 "fileHints" (list? text?) [] }

/-- Reads a context. -/
def ContextDecl.decode? (j : Json) : Option ContextDecl := do
  let s ← record? 2 j
  return {
    contextId := ← s.required 0 "contextId" text?
    applicationContext := ← s.optional 1 "applicationContext" text? }

/-- Reads a header from the fields around it. -/
def LibraryHeader.decode? (s : RecordSource) : Option LibraryHeader := do
  return {
    name := ← s.required 0 "name" text?
    ns := ← s.optional 1 "namespace" text?
    nsPrefix := ← s.optional 2 "prefix" text?
    version := ← s.optional 3 "version" text?
    status := ← s.withDefault 4 "status" (choice? LibraryStatus.ofName?) .draft
    documentation := ← s.optional 5 "documentation" text? }

/-- Writes an import. -/
def ImportDecl.encode (i : ImportDecl) : Json :=
  .object <|
    Json.optEntry "namespace" i.ns ++ Json.optEntry "prefix" i.nsPrefix ++
      Json.listEntry "fileHints" (i.fileHints.map .str)

/-- Writes a context. -/
def ContextDecl.encode (c : ContextDecl) : Json :=
  .object <|
    ("contextId", .str c.contextId) :: Json.optEntry "applicationContext" c.applicationContext

/-- Writes a header. -/
def LibraryHeader.encode (h : LibraryHeader) : Json :=
  .object <|
    ("name", .str h.name) :: ("status", .str h.status.name) ::
      (Json.optEntry "namespace" h.ns ++ Json.optEntry "prefix" h.nsPrefix ++
        Json.optEntry "version" h.version ++ Json.optEntry "documentation" h.documentation)

end TravelModel
