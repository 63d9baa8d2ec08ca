import TravelModel.Entity.Body
import TravelModel.Keyed
import TravelModel.Text.Likeness

/-!
# TravelModel — symbol table

What names stand for, by namespace. Libraries without a namespace are hosted
by others: their names are merged into the namespaces of their hosts, and a
name that two libraries bring there is ambiguous and stands for nothing.
-/

namespace TravelModel

/-- A message of an operation of a service. -/
structure OperationSymbol where
  service : EntityId
  operation : Nat
  message : MessageKind
deriving DecidableEq, Repr, Inhabited

/-- A name with its namespace and the prefix of that namespace. -/
structure QualifiedName where
  ns : String
  nsPrefix : String
  name : String
deriving DecidableEq, Repr, Inhabited

/-- How a qualified name is shown. -/
def QualifiedName.text (q : QualifiedName) : String :=
  q.nsPrefix ++ ":" ++ q.name

/-- What names stand for, and what is known about namespaces and owners. -/
structure SymbolTable where
  symbols : Keyed (Keyed Symbol) := []
  ambiguous : List (String × String) := []
  operations : Keyed (Keyed OperationSymbol) := []
  /-- The prefix of each namespace. -/
  prefixes : Keyed String := []
  /-- The namespaces that host each library without one of its own. -/
  hosts : List (LibraryId × List String) := []
  /-- The contextual facets attached to each owner. -/
  facets : List (EntityId × List EntityId) := []
deriving DecidableEq, Repr, Inhabited

namespace SymbolTable

/-- What a name stands for in a namespace. -/
def lookup (t : SymbolTable) (ns name : String) : Option Symbol :=
  (t.symbols.find? ns).bind (Keyed.find? name)

/-- Whether a name is ambiguous in a namespace. -/
def isAmbiguous (t : SymbolTable) (ns name : String) : Bool :=
  t.ambiguous.contains (ns, name)

/-- The message an operation name stands for in a namespace. -/
def lookupOperation (t : SymbolTable) (ns name : String) : Option OperationSymbol :=
  (t.operations.find? ns).bind (Keyed.find? name)

/-- The prefix of a namespace. -/
def prefixFor (t : SymbolTable) (ns : String) : Option String :=
  t.prefixes.find? ns

/-- The namespace of a prefix. -/
def namespaceFor (t : SymbolTable) (p : String) : Option String :=
  (List.find? (fun e => e.2 = p) t.prefixes).map Prod.fst

/-- The namespaces that host a library. -/
def hostsOf (t : SymbolTable) (library : LibraryId) : List String :=
  ((t.hosts.find? fun e => e.1 = library).map Prod.snd).getD []

/-- The contextual facets attached to an owner. -/
def facetsOf (t : SymbolTable) (owner : EntityId) : List EntityId :=
  ((t.facets.find? fun e => e.1 = owner).map Prod.snd).getD []

/-- Puts a symbol under a name. -/
def put (t : SymbolTable) (ns name : String) (s : Symbol) : SymbolTable :=
  { t with symbols := t.symbols.insert ns (((t.symbols.find? ns).getD []).insert name s) }

/-- Takes a name out. -/
def erase (t : SymbolTable) (ns name : String) : SymbolTable :=
  match t.symbols.find? ns with
  | some names => { t with symbols := t.symbols.insert ns (names.filter fun e => e.1 ≠ name) }
  | none => t

/-- Puts a message under a name. -/
def putOperation (t : SymbolTable) (ns name : String) (s : OperationSymbol) : SymbolTable :=
  { t with operations := t.operations.insert ns (((t.operations.find? ns).getD []).insert name s) }

/-- The names a prefix is chosen from: the wanted one, then with a number. -/
def prefixCandidates (base : String) (count : Nat) : List String :=
  base :: (List.range count).map fun n => base ++ toString (n + 1)

/-- The first name that is not in use. -/
def freshPrefix (base : String) (used : List String) : String :=
  ((prefixCandidates base used.length).find? fun c => !used.contains c).getD base

/-- Gives a namespace a prefix unless it has one. -/
def assignPrefix (t : SymbolTable) (ns : String) (preferred : Option String) : SymbolTable :=
  if t.prefixes.contains ns then t
  else
    let base := (preferred.filter (· ≠ "")).getD "ns"
    { t with prefixes := t.prefixes.insert ns (freshPrefix base (t.prefixes.map Prod.snd)) }

/-- The name in a namespace that a text comes closest to. -/
def suggest (t : SymbolTable) (ns name : String) : Option String :=
  (t.symbols.find? ns).bind fun names => Likeness.best? names.keys name

/-- All names with what they stand for, by namespace and name. -/
def entries (t : SymbolTable) : List (String × String × Symbol) :=
  t.symbols.flatMap fun (ns, names) => names.map fun (n, s) => (ns, n, s)

/-- How many names there are. -/
def size (t : SymbolTable) : Nat :=
  t.symbols.foldl (fun n e => n + e.2.length) 0

end SymbolTable

end TravelModel
