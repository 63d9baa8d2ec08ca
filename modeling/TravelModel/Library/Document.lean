import TravelModel.Library.Basic

/-!
# TravelModel — reading library documents

Reads a document by the rules of its grammar into a module of the current
form: inline facets become members that follow their owner, enumerations of
plain literals become ones of values.
-/

namespace TravelModel

/-- Why a document is no library of a grammar. -/
inductive DocumentProblem where
  /-- The content is no JSON text. -/
  | notJson
  /-- The document names another grammar. -/
  | otherGrammar (g : Grammar)
  /-- A part has the wrong form. -/
  | malformed (g : Grammar)
  /-- A contextual facet stands on its own where it has to be inline. -/
  | facetNotInline (name : String) (g : Grammar)
deriving DecidableEq, Repr, Inhabited

/-- The wording of a problem. -/
def DocumentProblem.text : DocumentProblem → String
  | notJson => "content is not JSON"
  | otherGrammar g => "document root is not a " ++ g.label ++ " library"
  | malformed g => "document does not have the form of a " ++ g.label ++ " library"
  | facetNotInline name g =>
    "contextual facet '" ++ name ++ "' must be declared inline in " ++ g.label

open Json (text? list?)
open RecordSource (object?)

/-- The parts of a document besides its members. -/
structure DocumentFrame where
  header : LibraryHeader
  imports : List ImportDecl
  includes : List String
  contexts : List ContextDecl
deriving Inhabited

/-- Reads header, imports and includes. -/
def DocumentFrame.decode? (s : RecordSource) (withContexts : Bool) : Option DocumentFrame := do
  return {
    header := ← LibraryHeader.decode? s
    imports := ← s.withDefault 0 "imports" (list? ImportDecl.decode?) []
    includes := ← s.withDefault 1 "includes" (list? text?) []
    contexts :=
      ← if withContexts then s.withDefault 2 "contexts" (list? ContextDecl.decode?) []
        else some [] }

/-- A module from its parts. -/
def DocumentFrame.toModule (f : DocumentFrame) (url : Url) (grammar : Grammar)
    (members : List MemberDecl) : LibraryModule :=
  { url, grammar, header := f.header, imports := f.imports, includes := f.includes,
    contexts := f.contexts, members }

/-- Reads a document whose members have a reader, without further checks. -/
def readDocument? {α : Type} (withContexts : Bool) (member? : Json → Option α) (document : Json) :
    Option (DocumentFrame × List α) := do
  let s ← object? document
  let frame ← DocumentFrame.decode? s withContexts
  let members ← s.required 0 "members" (list? member?)
  return (frame, members)

/-! ## Version 1.6 -/

/-- Reads a document of the current grammar. -/
def readCurrent? (url : Url) (document : Json) : Option LibraryModule := do
  let (frame, members) ← readDocument? true MemberDecl.decode? document
  return frame.toModule url .v1_6 members

/-! ## Version 1.5 -/

/-- A contextual facet declared on its owner. -/
structure InlineFacet where
  name : String
  context : Option String
  documentation : Option String
  content : FacetContent
deriving Inhabited

/-- Reads an inline facet. -/
def InlineFacet.decode? (j : Json) : Option InlineFacet := do
  let s ← object? j
  return {
    name := ← s.required 0 "name" text?
    context := ← s.optional 1 "context" text?
    documentation := ← s.optional 2 "documentation" text?
    content := ← FacetContent.decodeFields? s }

/-- An inline facet as a member of its own. -/
def InlineFacet.toMember (f : InlineFacet) (kind : ContextualKind) (owner : String) : MemberDecl :=
  { name := ""
    documentation := f.documentation
    body := .contextualFacet
      { facetKind := kind, facetName := f.name, owner := .unbound owner, context := f.context,
        content := f.content } }

/-- The field of a member that holds its facets of a kind. -/
def ContextualKind.inlineField : ContextualKind → String
  | custom => "customFacets"
  | query => "queryFacets"
  | update => "updateFacets"
  | choice => "choiceFacets"

/-- A member followed by its inline facets. -/
structure InlineMember where
  decl : MemberDecl
  facets : List (ContextualKind × List InlineFacet)
deriving Inhabited

/-- Reads a member with its inline facets. -/
def InlineMember.decode? (j : Json) : Option InlineMember := do
  let s ← object? j
  let facets ← ContextualKind.all.mapM fun k => do
    let fs ← s.withDefault 0 k.inlineField (list? InlineFacet.decode?) []
    return (k, fs)
  return { decl := ← MemberDecl.decode? j, facets }

/-- The members an inline member stands for. -/
def InlineMember.expand (m : InlineMember) : List MemberDecl :=
  m.decl :: m.facets.flatMap fun (k, fs) => fs.map fun f => f.toMember k m.decl.name

/-- Reads a document with inline facets. -/
def readInline (url : Url) (document : Json) : Except DocumentProblem LibraryModule :=
  match readDocument? true InlineMember.decode? document with
  | none => .error (.malformed .v1_5)
  | some (frame, members) =>
    match members.find? fun m => m.decl.body.kind = .contextualFacet with
    | some m => .error (.facetNotInline m.decl.name .v1_5)
    | none => .ok (frame.toModule url .v1_5 (members.flatMap InlineMember.expand))

/-! ## Version 1.4 -/

/-- The kinds of members of version 1.4, in their order. -/
def oldKinds : List EntityKind :=
  [ .simpleType, .enumeration, .valueWithAttributes, .coreObject, .businessObject,
    .extensionPointFacet, .service ]

/-- How version 1.4 writes a kind. -/
def oldKindName : EntityKind → String
  | .valueWithAttributes => "valueWithAttrs"
  | k => k.name

/-- Reads a member of version 1.4. -/
def decodeOldMember? (j : Json) : Option MemberDecl :=
  MemberDecl.decodeWith?
    (fun s => do
      let kind ←
        s.required 0 "kind"
          (EntityKind.decode? oldKinds fun n => oldKinds.find? fun k => oldKindName k = n)
      if kind = .enumeration then (Enumeration.decodeLiterals? s).map .enumeration
      else EntityBody.decode? kind s)
    j

/-- Reads a document of version 1.4. -/
def readOld? (url : Url) (document : Json) : Option LibraryModule := do
  let (frame, members) ← readDocument? false decodeOldMember? document
  return frame.toModule url .v1_4 members

/-! ## All versions -/

/-- Reads a document by the rules of a grammar, without strict validation. -/
def Grammar.read (g : Grammar) (url : Url) (document : Json) :
    Except DocumentProblem LibraryModule :=
  match g with
  | v1_6 => (readCurrent? url document).elim (.error (.malformed v1_6)) .ok
  | v1_5 => readInline url document
  | v1_4 => (readOld? url document).elim (.error (.malformed v1_4)) .ok

end TravelModel
