import TravelModel.Proofs.OutputPlaces
import TravelModel.Proofs.StrictReading
import TravelModel.Proofs.UnrelatedLibrary

/-!
# TravelModel — generations that stay in their directory

The strict shape of a document has no slash in a name. A document that breaks it is loaded
all the same, and a slash in the name of a library, a service, a business object or a
resource, or in a prefix, becomes part of a path.

Main results:

* `slashless_of_load` — a document that is loaded without a finding has no such slash.
* `assembledFrom_assemble` — an assembled model declares nothing that its modules do not.
* `assembled_generation_places` — where a generation from an assembled model writes, and that
  it stays in its directory if the modules have no slash in their names.
-/

namespace TravelModel

/-! ## Names without slashes -/

theorem TextRule.slash_notMem_of_name {s : String} (h : TextRule.name.holds s = true) :
    '/' ∉ s.toList := by
  rw [holds] at h
  generalize s.toList = cs at h
  cases cs with
  | nil => exact List.not_mem_nil
  | cons c rest =>
    rw [isName, Bool.and_eq_true, List.all_eq_true] at h
    intro hslash
    rcases List.mem_cons.mp hslash with hc | hrest
    · rw [← hc] at h
      exact absurd h.1 (by decide)
    · exact absurd (h.2 _ hrest) (by decide)

/-- No slash is in the name of a module, in its prefix, or in the name of a member that
files are named for. -/
structure LibraryModule.Slashless (m : LibraryModule) : Prop where
  name : '/' ∉ m.header.name.toList
  nsPrefix : ∀ p ∈ m.header.nsPrefix, '/' ∉ p.toList
  members : ∀ d ∈ m.members, d.body.kind ∈ [EntityKind.service, .businessObject, .resource] →
    '/' ∉ d.name.toList

instance (m : LibraryModule) : Decidable m.Slashless :=
  decidable_of_iff
    ('/' ∉ m.header.name.toList ∧ (∀ p ∈ m.header.nsPrefix, '/' ∉ p.toList) ∧
      ∀ d ∈ m.members, d.body.kind ∈ [EntityKind.service, .businessObject, .resource] →
        '/' ∉ d.name.toList)
    ⟨fun h => ⟨h.1, h.2.1, h.2.2⟩, fun h => ⟨h.name, h.nsPrefix, h.members⟩⟩

/-! ## Documents -/

theorem DocumentFrame.header_of_decode? {s : RecordSource} {withContexts : Bool}
    {frame : DocumentFrame} (h : DocumentFrame.decode? s withContexts = some frame) :
    LibraryHeader.decode? s = some frame.header := by
  obtain ⟨header, hheader, h⟩ := Option.bind_eq_some_iff.mp h
  obtain ⟨imports, -, h⟩ := Option.bind_eq_some_iff.mp h
  obtain ⟨includes, -, h⟩ := Option.bind_eq_some_iff.mp h
  dsimp only at h
  split at h
  · obtain ⟨contexts, -, h⟩ := Option.bind_eq_some_iff.mp h
    cases h
    exact hheader
  · cases h
    exact hheader

namespace Grammar

section

variable {fields : Keyed Json} {shapes : List (String × Shape)} {field : String}

/-- What is read as a name has no slash. -/
theorem slash_notMem_of_text? {j : Json} {s : String}
    (hfields : Shape.fieldViolations shapes fields = []) (hshape : (field, nameShape) ∈ shapes)
    (hj : Keyed.find? field fields = some j) (hs : Json.text? j = some s) : '/' ∉ s.toList := by
  obtain ⟨s', rfl, hname⟩ :=
    Shape.violations_text.mp (Shape.fieldViolations_eq_nil.mp hfields _ hshape j hj)
  rw [← Option.some.inj hs]
  exact TextRule.slash_notMem_of_name hname

theorem slash_notMem_header (hfields : Shape.fieldViolations shapes fields = [])
    (hname : ("name", nameShape) ∈ shapes) (hnsPrefix : ("prefix", nameShape) ∈ shapes)
    {header : LibraryHeader} (h : LibraryHeader.decode? (.named fields) = some header) :
    '/' ∉ header.name.toList ∧ ∀ p ∈ header.nsPrefix, '/' ∉ p.toList := by
  obtain ⟨name, hread, h⟩ := Option.bind_eq_some_iff.mp h
  obtain ⟨ns, -, h⟩ := Option.bind_eq_some_iff.mp h
  obtain ⟨nsPrefix, hasked, h⟩ := Option.bind_eq_some_iff.mp h
  obtain ⟨version, -, h⟩ := Option.bind_eq_some_iff.mp h
  obtain ⟨status, -, h⟩ := Option.bind_eq_some_iff.mp h
  obtain ⟨documentation, -, h⟩ := Option.bind_eq_some_iff.mp h
  cases h
  -- of all fields only the name and the prefix matter here
  constructor
  · obtain ⟨j, hj, hs⟩ := Option.bind_eq_some_iff.mp hread
    exact slash_notMem_of_text? hfields hname hj hs
  · rintro p rfl
    rw [RecordSource.optional, RecordSource.get?] at hasked
    split at hasked
    · cases hasked
    · cases hasked
    · next j _ hj =>
      obtain ⟨s, hs, hsome⟩ := Option.map_eq_some_iff.mp hasked
      cases hsome
      exact slash_notMem_of_text? hfields hnsPrefix hj hs

end

/-- A member that a grammar admits has no slash in its name. -/
theorem slash_notMem_member {g : Grammar} {j : Json} (h : g.memberShape.violations j = [])
    {body? : RecordSource → Option EntityBody} {d : MemberDecl}
    (hd : MemberDecl.decodeWith? body? j = some d) : '/' ∉ d.name.toList := by
  obtain ⟨fields, kind, -, rfl, -, hfields, -⟩ := admitted_member h
  obtain ⟨hname, -, -⟩ := MemberDecl.decodeWith?_eq_some.mp hd
  rw [RecordSource.withDefault, RecordSource.get?] at hname
  split at hname
  · next j hj =>
    refine slash_notMem_of_text? hfields ?_ hj hname
    exact List.mem_append_right _ List.mem_cons_self
  · rw [← Option.some.inj hname]
    exact List.not_mem_nil

/-- The members that a grammar admits are the ones that are read from a document. -/
theorem slash_notMem_document {g : Grammar} {document : Json} (h : g.violations document = [])
    {α : Type} {withContexts : Bool} {member? : Json → Option α} {frame : DocumentFrame}
    {members : List α} {P : α → Prop}
    (hread : readDocument? withContexts member? document = some (frame, members))
    (hmember : ∀ j, g.memberShape.violations j = [] → ∀ x, member? j = some x → P x) :
    ('/' ∉ frame.header.name.toList ∧ ∀ p ∈ frame.header.nsPrefix, '/' ∉ p.toList) ∧
      ∀ x ∈ members, P x := by
  obtain ⟨fields, items, rfl, hfields, -, -, hitems, hvalid⟩ := admitted_document h
  have hname : ("name", nameShape) ∈ g.shape.fieldShapes := by
    cases g <;> simp [shape, documentShapes, Shape.fieldShapes]
  have hnsPrefix : ("prefix", nameShape) ∈ g.shape.fieldShapes := by
    cases g <;> simp [shape, documentShapes, Shape.fieldShapes]
  obtain ⟨hframe, items', hitems', hmembers⟩ := readDocument?_eq_some.mp hread
  rw [hitems, Option.some.injEq, Json.arr.injEq] at hitems'
  subst hitems'
  exact ⟨slash_notMem_header hfields hname hnsPrefix (DocumentFrame.header_of_decode? hframe),
    forall_mem_of_mapM hmembers fun j hj => hmember j (hvalid j hj)⟩

/-- A document that a grammar admits is read without slashes in names. -/
theorem slashless_of_read {g : Grammar} {url : Url} {document : Json} {m : LibraryModule}
    (h : g.violations document = []) (hread : g.read url document = .ok m) : m.Slashless := by
  cases g with
  | v1_6 =>
    rw [read, readCurrent?] at hread
    cases hdocument : readDocument? true MemberDecl.decode? document with
    | none =>
      rw [hdocument] at hread
      cases hread
    | some parts =>
      rw [hdocument] at hread
      cases hread
      obtain ⟨hheader, hall⟩ := slash_notMem_document h hdocument fun j hj d =>
        slash_notMem_member hj
      exact ⟨hheader.1, hheader.2, fun d hd _ => hall d hd⟩
  | v1_5 =>
    rw [read, readInline] at hread
    split at hread
    · cases hread
    · next frame members hdocument =>
      split at hread
      · cases hread
      · cases hread
        obtain ⟨hheader, hall⟩ := slash_notMem_document h
          (P := fun x => '/' ∉ x.decl.name.toList) hdocument fun j hj x hx => by
            obtain ⟨fields, kind, -, rfl, -⟩ := admitted_member hj
            exact slash_notMem_member hj (InlineMember.decode?_eq_some.mp hx).1
        refine ⟨hheader.1, hheader.2, fun d hd hkind => ?_⟩
        obtain ⟨x, hx, hd⟩ := List.mem_flatMap.mp hd
        rcases List.mem_cons.mp hd with rfl | hd
        · exact hall x hx
        · -- a facet has no name of its own
          obtain ⟨facets, -, hd⟩ := List.mem_flatMap.mp hd
          obtain ⟨f, -, rfl⟩ := List.mem_map.mp hd
          exact List.not_mem_nil
  | v1_4 =>
    rw [read, readOld?] at hread
    cases hdocument : readDocument? false decodeOldMember? document with
    | none =>
      rw [hdocument] at hread
      cases hread
    | some parts =>
      rw [hdocument] at hread
      cases hread
      obtain ⟨hheader, hall⟩ := slash_notMem_document h hdocument fun j hj d =>
        slash_notMem_member hj
      exact ⟨hheader.1, hheader.2, fun d hd _ => hall d hd⟩

end Grammar

/-- A document that is loaded without a finding has no slash in its names. -/
theorem Loader.slashless_of_load {l : Loader} {source : ModuleSource} {m : LibraryModule}
    (hmodule : (l.load source).module = some m) (hfindings : (l.load source).findings = []) :
    m.Slashless := by
  obtain ⟨document, g, hg, hread⟩ := module_load_eq_some_iff.mp hmodule
  rw [load_of_reading hg hread] at hfindings
  refine Grammar.slashless_of_read ?_ hread.form
  cases hplaces : g.violations document with
  | nil => rfl
  | cons place rest =>
    rw [hplaces] at hfindings
    cases hfindings

/-! ## Assembled models -/

namespace Model

/-- All that a model holds is declared by some modules. -/
structure AssembledFrom (ms : List LibraryModule) (m : Model) : Prop where
  library : ∀ l ∈ m.libraries, ∃ k ∈ ms, l.name = k.header.name ∧ l.nsPrefix = k.header.nsPrefix
  entity : ∀ e ∈ m.entities, ∃ k ∈ ms, ∃ d ∈ k.members, e.name = d.entityName ∧
    e.kind = d.body.kind

theorem assembledFrom_addLibrary {ms : List LibraryModule} {m : Model} (h : AssembledFrom ms m)
    {k : LibraryModule} (hk : k ∈ ms) (builtIn : Bool) :
    AssembledFrom ms (m.addLibrary (libraryOf k builtIn) k.members).1 := by
  rcases m.addLibrary_eq (libraryOf k builtIn) k.members with ⟨-, hadd⟩ | ⟨-, m', hadd⟩
  · -- a library whose key is taken is refused
    rw [hadd]
    exact h
  · rw [hadd]
    refine ⟨fun l hl => ?_, fun e he => ?_⟩
    · rw [libraries_addLibrary hadd, List.mem_append, List.mem_singleton] at hl
      rcases hl with hl | rfl
      · exact h.library l hl
      · exact ⟨k, hk, rfl, rfl⟩
    · obtain ⟨id, hid⟩ := mem_entities.mp he
      rw [entity?_addLibrary hadd] at hid
      split at hid
      · exact h.entity e (mem_entities.mpr ⟨id, hid⟩)
      · rw [getElem?_added] at hid
        obtain ⟨d, hd, rfl⟩ := Option.map_eq_some_iff.mp hid
        exact ⟨k, hk, d, List.mem_of_getElem? hd, rfl, rfl⟩

theorem assembledFrom_additions {ms ks : List LibraryModule} (hks : ks ⊆ ms) (builtIn : Bool)
    {m : Model} (h : AssembledFrom ms m) :
    AssembledFrom ms ((additions builtIn ks).foldl Change.apply m) := by
  induction ks generalizing m with
  | nil => exact h
  | cons k rest ih =>
    obtain ⟨hk, hrest⟩ := List.cons_subset.mp hks
    exact ih hrest (assembledFrom_addLibrary h hk builtIn)

theorem assembledFrom_refresh {ms : List LibraryModule} {m : Model} (hm : m.WellFormed)
    (h : AssembledFrom ms m) : AssembledFrom ms m.refresh.1 := by
  have hsame := sameDeclarations_refresh hm
  refine ⟨fun l hl => ?_, fun e he => ?_⟩
  · rw [← hsame.libraries] at hl
    exact h.library l hl
  · have hdeclared : e.declared ∈ m.refresh.1.entities.map NamedEntity.declared :=
      List.mem_map_of_mem he
    rw [← hsame.entities] at hdeclared
    obtain ⟨e₀, he₀, heq⟩ := List.mem_map.mp hdeclared
    have hname : e₀.declared.name = e.declared.name := congrArg NamedEntity.name heq
    have hkind : e₀.body.declared.kind = e.body.declared.kind :=
      congrArg (fun x => x.body.kind) heq
    rw [EntityBody.kind_declared, EntityBody.kind_declared] at hkind
    obtain ⟨k, hk, d, hd, hdname, hdkind⟩ := h.entity e₀ he₀
    exact ⟨k, hk, d, hd, hname.symm.trans hdname, hkind.symm.trans hdkind⟩

/-- An assembled model declares nothing that its modules do not. -/
theorem assembledFrom_assemble (ms builtIns : List LibraryModule) :
    AssembledFrom (builtIns ++ ms) (assemble ms builtIns).1 := by
  rw [assemble_eq]
  refine assembledFrom_refresh (wellFormed_run _) ?_
  -- the built-in modules are added first
  rw [run_append]
  refine assembledFrom_additions (List.subset_append_right _ _) false ?_
  refine assembledFrom_additions (List.subset_append_left _ _) true ?_
  exact ⟨fun l hl => absurd hl List.not_mem_nil, fun e he => absurd he List.not_mem_nil⟩

end Model

/-! ## Files of assembled models -/

theorem Naming.slash_notMem_toString (n : Nat) : '/' ∉ (toString n).toList := by
  intro h
  exact absurd (isDigit_of_mem_toString h) (by decide)

theorem Naming.slash_notMem_libraryStem {l : Library} (h : '/' ∉ l.name.toList) :
    '/' ∉ (libraryStem l).toList := by
  by_cases hversioned : Versioned l
  · obtain ⟨major, minor, patch, hstem⟩ := libraryStem_of_versioned hversioned
    rw [hstem]
    simp only [String.toList_append, List.mem_append, not_or]
    exact ⟨⟨⟨⟨⟨⟨h, by decide⟩, slash_notMem_toString _⟩, by decide⟩, slash_notMem_toString _⟩,
      by decide⟩, slash_notMem_toString _⟩
  · rw [libraryStem_of_not_versioned hversioned]
    exact h

theorem SymbolTable.slash_notMem_freshPrefix {base : String} (h : '/' ∉ base.toList)
    (used : List String) : '/' ∉ (freshPrefix base used).toList := by
  rcases freshPrefix_cases base used with ⟨-, heq⟩ | ⟨-, n, -, heq, -⟩
  · rw [heq]
    exact h
  · rw [heq, String.toList_append, List.mem_append, not_or]
    exact ⟨h, Naming.slash_notMem_toString n⟩

theorem MemberDecl.entityName_of_kind {d : MemberDecl}
    (h : d.body.kind ∈ [EntityKind.service, .businessObject, .resource]) :
    d.entityName = d.name := by
  rw [entityName]
  split
  · next hbody =>
    rw [hbody] at h
    exact absurd h (by simp [EntityBody.kind])
  · next hbody =>
    rw [hbody] at h
    exact absurd h (by simp [EntityBody.kind])
  · rfl

namespace OutputName

open Model

/-- What a file is named for has no slash if the modules have none. -/
theorem slash_notMem_source {ms : List LibraryModule} (hms : ∀ k ∈ ms, k.Slashless) {m : Model}
    (hm : m.AssembledFrom ms) {n : OutputName} (h : n.DeclaredIn m) : '/' ∉ n.source.toList := by
  have hstem : ∀ l ∈ m.libraries, '/' ∉ (Naming.libraryStem l).toList := by
    intro l hl
    obtain ⟨k, hk, hname, -⟩ := hm.library l hl
    refine Naming.slash_notMem_libraryStem ?_
    rw [hname]
    exact (hms k hk).name
  have hentity : ∀ e ∈ m.entities,
      e.kind ∈ [EntityKind.service, .businessObject, .resource] → '/' ∉ e.name.toList := by
    intro e he hkind
    obtain ⟨k, hk, d, hd, hname, hsame⟩ := hm.entity e he
    rw [hsame] at hkind
    rw [hname, MemberDecl.entityName_of_kind hkind]
    exact (hms k hk).members d hd hkind
  cases n with
  | library stem | definitions stem =>
    obtain ⟨l, hl, rfl⟩ := h
    rw [source]
    exact hstem l hl
  | messages name | requests name | openApi name | swagger name =>
    obtain ⟨e, he, hkind, rfl⟩ := h
    exact hentity e he (by simp [hkind])
  | consolidation nsPrefix =>
    rcases h with rfl | ⟨base, used, hbase, rfl⟩
    · rw [source]
      decide
    · rw [source]
      refine SymbolTable.slash_notMem_freshPrefix ?_ used
      rcases hbase with rfl | ⟨l, hl, hwanted⟩
      · decide
      · obtain ⟨k, hk, -, hnsPrefix⟩ := hm.library l hl
        exact (hms k hk).nsPrefix base (hnsPrefix ▸ hwanted)
  | common => exact List.not_mem_nil

end OutputName

namespace Generator

open GenerationContext Model FileTree

/-- A generation from an assembled model, without chosen file names, makes and changes the
files that it reports and no others. They are the manifest and the checksums, which are below
the output directory, and files that are named for something that the model declares. Such a
file is below the directory if and only if the names its path goes down to start with those
that the path went up from. All files are below it if no module has a slash in the names that
files are named for, as none has that was loaded without a finding. -/
theorem assembled_generation_places (modules builtIns : List LibraryModule) (registry : Registry)
    (globalScope : Option Scope) (options : GenerationOptions) (roots : List EntityId)
    (cancelled : Bool) (generatedAt : String) (t t' : FileTree) (report : GenerationReport)
    (hoverrides : options.filenameOverrides = [])
    (h : ({ model := (assemble modules builtIns).1, registry, globalScope } : Generator).generate
      options roots cancelled generatedAt t = (t', .ok report)) :
    let dir := t.placeOf options.outputDir
    (∀ place, (∀ path ∈ report.files, placeText place ≠ t.spot path) → ∀ bytes,
      t'.nodeAt? place = some (.file bytes) ↔ t.nodeAt? place = some (.file bytes)) ∧
    (∀ path ∈ report.files, (∃ bytes, t'.nodeAt? (t.placeOf path) = some (.file bytes)) ∧
      ∃ name, path = Files.join options.outputDir name ∧
        ((name = Manifest.manifestFile ∨ name = Manifest.checksumFile) ∧
            Below (t.placeOf path) dir ∨
          Named (assemble modules builtIns).1 name ∧
            (Below (t.placeOf path) dir ↔ Below (Files.route name).names
              (if Files.isAbsolute name then dir
                else dir.drop (dir.length - (Files.route name).ups))))) ∧
    ((∀ m ∈ builtIns ++ modules, m.Slashless ∨ ∃ (l : Loader) (source : ModuleSource),
        (l.load source).module = some m ∧ (l.load source).findings = []) →
      ∀ path ∈ report.files, Below (t.placeOf path) dir) := by
  intro dir
  obtain ⟨hfiles, hpaths⟩ := generate_places hoverrides h
  have hmanifest : Below (t.placeOf (Files.join options.outputDir Manifest.manifestFile)) dir :=
    t.below_join _ rfl rfl (List.cons_ne_nil _ _)
  have hchecksum : Below (t.placeOf (Files.join options.outputDir Manifest.checksumFile)) dir :=
    t.below_join _ rfl rfl (List.cons_ne_nil _ _)
  refine ⟨hfiles, fun path hpath => ?_, fun hmodules path hpath => ?_⟩
  · obtain ⟨hthere, name, rfl, rfl | rfl | hnamed⟩ := hpaths path hpath
    · exact ⟨hthere, _, rfl, Or.inl ⟨Or.inl rfl, hmanifest⟩⟩
    · exact ⟨hthere, _, rfl, Or.inl ⟨Or.inr rfl, hchecksum⟩⟩
    · exact ⟨hthere, name, rfl, Or.inr ⟨hnamed, t.below_join_iff options.outputDir⟩⟩
  · -- what is loaded without a finding has no slash, and so nothing that files are named for has
    have hslashless : ∀ m ∈ builtIns ++ modules, m.Slashless := by
      intro m hm
      rcases hmodules m hm with hnone | ⟨l, source, hmodule, hclean⟩
      · exact hnone
      · exact Loader.slashless_of_load hmodule hclean
    obtain ⟨-, name, rfl, rfl | rfl | ⟨n, hdeclared, rfl⟩⟩ := hpaths path hpath
    · exact hmanifest
    · exact hchecksum
    · have hsource := OutputName.slash_notMem_source hslashless
        (assembledFrom_assemble modules builtIns) hdeclared
      exact OutputName.below_of_slashless hsource t options.outputDir

/-! ### A library that leaves the directory -/

/-- A document of a library with one type. -/
def codesDocument (name : String) : Json :=
  .obj
    [ ("$grammar", .str Grammar.v1_6.ns),
      ("members", .arr [.obj [("kind", .str "simpleType"), ("name", .str "Code")]]),
      ("name", .str name), ("namespace", .str "urn:codes"), ("prefix", .str "c"),
      ("version", .str "1.0.0") ]

/-- What is read from it. -/
def readCodes (name : String) : LibraryModule :=
  { url := { scheme := "file", authority := none, path := .rooted ["Codes.otm"], query := none
             fragment := none }
    grammar := .v1_6
    header := { name, ns := some "urn:codes", nsPrefix := some "c", version := some "1.0.0"
                status := .draft, documentation := none }
    imports := [], includes := [], contexts := []
    members := [sampleMember "Code" (.simpleType {})] }

theorem selfContained_readCodes :
    SelfContained (run (additions false [readCodes "Codes"] ++ [.refresh])) [⟨0⟩] ∧
      SelfContained (run (additions false [readCodes "../Codes"] ++ [.refresh])) [⟨0⟩] := by
  refine ⟨⟨?_, ?_, ?_, ?_⟩, ⟨?_, ?_, ?_, ?_⟩⟩ <;> decide +kernel

theorem assemble_eq_run (ms : List LibraryModule) :
    (assemble ms []).1 = run (additions false ms ++ [.refresh]) := by
  rw [assemble_eq, run_append (additions false ms)]
  rfl

/-- The schema of a library whose name has no slash is below the output directory. -/
theorem readCodes_confined :
    let g : Generator := { model := (assemble [readCodes "Codes"] []).1 }
    schemaOptions.filenameOverrides = [] ∧ (readCodes "Codes").Slashless ∧
      ∃ t' report, g.generate schemaOptions [⟨0⟩] false "" {} = (t', .ok report) ∧
        ∀ path ∈ report.files, Below (({} : FileTree).placeOf path) ["out"] := by
  intro g
  have hslashless : (readCodes "Codes").Slashless := by decide +kernel
  obtain ⟨t', report, hgenerate⟩ : ∃ t' report,
      g.generate schemaOptions [⟨0⟩] false "" {} = (t', .ok report) := by
    obtain ⟨t', report, -, hgenerate, -⟩ :=
      selfContained_readCodes.1.exists_generate (by decide +kernel) ""
    rw [← assemble_eq_run] at hgenerate
    exact ⟨t', report, hgenerate⟩
  obtain ⟨-, -, hbelow⟩ := assembled_generation_places [readCodes "Codes"] [] _ _ _ _ _ _ _ _ _
    rfl hgenerate
  refine ⟨rfl, hslashless, t', report, hgenerate, hbelow fun m hm => Or.inl ?_⟩
  rw [List.mem_singleton.mp hm]
  exact hslashless

/-- A library whose name goes up is loaded, with a finding on its shape, and its schema is
written beside the output directory. -/
theorem readCodes_escaped :
    let r := ({} : Loader).loadDocument (readCodes "../Codes").url (some (codesDocument "../Codes"))
    let g : Generator := { model := (assemble [readCodes "../Codes"] []).1 }
    r.module = some (readCodes "../Codes") ∧
      r.findings.map Finding.code = [.corruptLibraryContent] ∧
      schemaOptions.filenameOverrides = [] ∧
      ∃ t' report, g.generate schemaOptions [⟨0⟩] false "" {} = (t', .ok report) ∧
        ∃ path ∈ report.files, ({} : FileTree).placeOf path = ["Codes_1_0_0.xsd"] ∧
          ¬ Below (({} : FileTree).placeOf path)
            (({} : FileTree).placeOf schemaOptions.outputDir) := by
  intro r g
  refine ⟨by decide +kernel, by decide +kernel, rfl, ?_⟩
  obtain ⟨t', report, files, hgenerate, hfiles, -, hperm, -⟩ :=
    selfContained_readCodes.2.exists_generate (by decide +kernel) ""
  have hname : .library "../Codes_1_0_0" ∈ (schemaContext
      (run (additions false [readCodes "../Codes"] ++ [.refresh])) [⟨0⟩]).outputNames := by
    obtain ⟨l, hl, huser, hstem⟩ : ∃ l ∈
        (run (additions false [readCodes "../Codes"] ++ [.refresh])).libraries,
        l.builtIn = false ∧ Naming.libraryStem l = "../Codes_1_0_0" := by
      decide +kernel
    exact library_mem_outputNames.mpr ⟨List.mem_singleton_self _, l,
      selfContained_readCodes.2.mem_orderedLibraries (wellFormed_run _) hl huser, hstem⟩
  obtain ⟨f, hf, hpath⟩ := List.mem_map.mp (hperm.mem_iff.mpr (List.mem_map_of_mem hname))
  obtain ⟨t₁, files', -, hfiles', hwrite⟩ := generate_eq_ok hgenerate
  rw [hfiles, Except.ok.injEq] at hfiles'
  subst hfiles'
  obtain ⟨-, -, hreport⟩ := wrote_writeAll hwrite
  rw [← assemble_eq_run] at hgenerate
  refine ⟨t', report, hgenerate, Files.join "out" "../Codes_1_0_0.xsd", ?_, by decide +kernel,
    by decide +kernel⟩
  rw [hreport, writes, List.map_append, List.map_map]
  refine List.mem_append_left _ (List.mem_map.mpr ⟨f, hf, ?_⟩)
  show Files.join "out" f.path = _
  rw [hpath]
  rfl

end Generator

end TravelModel
