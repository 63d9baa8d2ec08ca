import TravelModel.Files.Path
import TravelModel.Model.Inheritance

/-!
# TravelModel — names in namespaces

Which names the libraries of a model bring to which namespaces: prefixes,
native names, names of hosted libraries, and names of messages.
-/

namespace TravelModel

/-- The names an entity brings: its own, its aliases and its fixed facets. -/
def NamedEntity.symbolNames (e : NamedEntity) : List (String × Symbol) :=
  (e.name, .entity e.id) ::
    ((e.body.aliases.zipIdx.map fun (a, i) => (a, .aliasOf e.id i)) ++
      e.body.fixedFacetKinds.map fun k => (e.name ++ "_" ++ k.label, .facet e.id k))

namespace Model

/-! ## Hosts -/

/-- The files by which a library takes in others without a namespace. -/
def chameleonHints (l : Library) : List String :=
  l.includes ++ (l.imports.filter fun i => i.ns.isNone).flatMap ImportDecl.fileHints

/-- Whether a hint in a library names another library: by location, or else by
the name of the file. -/
def hintMatches (l : Library) (hint : String) (chameleon : Library) : Bool :=
  let resolved := l.url.bind fun u => (u.join hint).toOption
  (resolved.isSome && resolved = chameleon.url) || chameleon.fileName? = some (Files.lastPart hint)

/-- The namespaces that host a library, in the order of the hosting libraries. -/
def hostsFor (m : Model) (chameleon : Library) : List String :=
  (m.libraries.filterMap fun l =>
    if (chameleonHints l).any fun h => hintMatches l h chameleon then l.ns else none).eraseDups

/-- The hosts of all libraries without a namespace that have one. -/
def chameleonHosts (m : Model) : List (LibraryId × List String) :=
  ((m.libraries.filter Library.isChameleon).map fun c => (c.id, m.hostsFor c)).filter
    fun p => !p.2.isEmpty

/-- The namespaces in which an entity is seen. -/
def effectiveNamespaces (m : Model) (t : SymbolTable) (id : EntityId) : List String :=
  match m.owner? id with
  | none => []
  | some l =>
    match l.ns with
    | some ns => [ns]
    | none => t.hostsOf l.id

/-! ## Native names -/

/-- A table with the prefixes of all namespaces. -/
def assignPrefixes (m : Model) (t : SymbolTable) : SymbolTable :=
  m.libraries.foldl
    (fun t l =>
      match l.ns with
      | some ns => t.assignPrefix ns l.nsPrefix
      | none => t)
    t

/-- What libraries bring to their own namespaces, in order: the source of
findings, namespace, name and symbol. -/
def nativeNames (m : Model) : List (String × String × String × Symbol) :=
  m.libraries.flatMap fun l =>
    match l.ns with
    | none => []
    | some ns =>
      (m.libraryEntities l.id).flatMap fun e =>
        e.symbolNames.map fun (n, s) => (l.identity, ns, n, s)

/-- Enters native names; the first one stays, a later one is reported. -/
def enterNative : List (String × String × String × Symbol) → SymbolTable → SymbolTable × Findings
  | [], t => (t, [])
  | (source, ns, name, s) :: rest, t =>
    match t.lookup ns name with
    | none => enterNative rest (t.put ns name s)
    | some existing =>
      let (t, fs) := enterNative rest t
      (t, if existing = s then fs else .report source .duplicateSymbol [name, ns] :: fs)

/-! ## Hosted names -/

/-- The names of hosted libraries by namespace and name: which library brings
which symbol, each library once. -/
abbrev Contributions := Keyed (Keyed (List (LibraryId × Symbol)))

/-- Enters what a library brings under a name, unless it brought one before. -/
def contribute (cs : Contributions) (ns name : String) (library : LibraryId) (s : Symbol) :
    Contributions :=
  let names := (cs.find? ns).getD []
  let given := (names.find? name).getD []
  if given.any fun g => g.1 = library then cs
  else cs.insert ns (names.insert name (given ++ [(library, s)]))

/-- What hosted libraries bring to the namespaces of their hosts. -/
def contributions (m : Model) (hosts : List (LibraryId × List String)) : Contributions :=
  hosts.foldl
    (fun cs (library, spaces) =>
      spaces.foldl
        (fun cs ns =>
          ((m.libraryEntities library).flatMap NamedEntity.symbolNames).foldl
            (fun cs (n, s) => contribute cs ns n library s) cs)
        cs)
    []

/-- The libraries a collision is reported with. -/
def contributorNames (m : Model) (given : List (LibraryId × Symbol)) (native : Option Symbol) :
    List String :=
  (given.filterMap fun g => (m.library? g.1).map Library.name) ++
    ((native.bind fun s => m.owner? s.owner).map Library.name).toList

/-- Merges one name of hosted libraries: one library alone brings its symbol, a
collision makes the name ambiguous and is reported if an entity is in it. -/
def mergeName (m : Model) (t : SymbolTable) (ns name : String)
    (given : List (LibraryId × Symbol)) : SymbolTable × Findings :=
  let native := t.lookup ns name
  match given, native with
  | [(_, s)], none => (t.put ns name s, [])
  | _, _ =>
    let t := t.erase ns name
    ({ t with ambiguous := t.ambiguous ++ [(ns, name)] },
      if given.any fun g => g.2.isEntity then
        [.report ns .duplicateChameleonSymbols
          [name, ns, ", ".intercalate (m.contributorNames given native)]]
      else [])

/-- Merges the names of hosted libraries, by namespace and name. -/
def mergeHosted (m : Model) (t : SymbolTable) : SymbolTable × Findings :=
  let all := (m.contributions t.hosts).flatMap fun (ns, names) => names.map fun (n, g) => (ns, n, g)
  all.foldl
    (fun (t, fs) (ns, n, g) =>
      let (t, more) := m.mergeName t ns n g
      (t, fs ++ more))
    (t, [])

/-! ## Messages -/

/-- The names of the messages of a service with what they stand for. -/
def messageNames (e : NamedEntity) : List (String × OperationSymbol) :=
  match e.body with
  | .service s =>
    s.operations.zipIdx.flatMap fun (op, i) =>
      op.messages.map fun (k, _) => (op.messageName e.name k, ⟨e.id, i, k⟩)
  | _ => []

/-- Enters the names of messages; the last one stays. -/
def indexOperations (m : Model) (t : SymbolTable) : SymbolTable :=
  m.entities.foldl
    (fun t e =>
      (m.effectiveNamespaces t e.id).foldl
        (fun t ns => (messageNames e).foldl (fun t (n, s) => t.putOperation ns n s) t) t)
    t

/-! ## The whole table -/

/-- The symbol table of the libraries of a model, without ghosts. -/
def buildSymbols (m : Model) : SymbolTable × Findings :=
  let t := { m.assignPrefixes {} with hosts := m.chameleonHosts }
  let (t, native) := enterNative m.nativeNames t
  let (t, hosted) := m.mergeHosted t
  (m.indexOperations t, native ++ hosted)

/-- The name a symbol is entered under. -/
def localName? (m : Model) (s : Symbol) : Option String := do
  let owner ← m.entity? s.owner
  match s with
  | .entity _ => return owner.name
  | .aliasOf _ i => owner.body.aliases[i]?
  | .facet _ k => return owner.name ++ "_" ++ k.label
  | .ghost _ source =>
    match (← m.entity? source).body with
    | .contextualFacet f => return f.facetKind.entityName owner.name f.facetName
    | _ => none

end Model

end TravelModel
