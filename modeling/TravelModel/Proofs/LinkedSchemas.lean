import TravelModel.Proofs.JsonClosure
import TravelModel.Proofs.Linking
import TravelModel.Proofs.ServiceSchemas

/-!
# TravelModel — linked schemas are sufficient

A linked schema has to reach the declarations of the names it uses through its
includes and imports. Linking looks a name up by namespace and text alone, among
the documents of the selected formats, and leaves names without a namespace
alone; where that is not enough, a name is missed.

Main results:

* `foldlM_emit` — the documents of a generation are those of its formats.
* `covered_or_missed` — a name that some document declares is reached, unless the
  first document that has the name declares something else under it, or shares its
  file with the one that uses it.
* `linked_schemas_cover` — every name in the schemas of a generation is reached,
  but for the ways to miss one that `Missed` lists.
-/

namespace TravelModel

namespace Xsd

/-! ## Linked documents -/

/-- The prefixes of the namespaces of linked documents. -/
def documentPrefixes (c : GenerationContext) (documents : List Document) : Keyed String :=
  assignPrefixes (preferredPrefixes c) (documentNamespaces (linkAll c documents))

/-- The documents after linking and consolidation, and those that were made for
namespaces with several files. -/
def linkedDocuments (c : GenerationContext) (documents : List Document) :
    List Document × List Document :=
  consolidateImports (documentPrefixes c documents) (linkAll c documents)

/-- Linked documents are what is written, with the schema of the common library if
one imports it. -/
theorem consolidate_eq (c : GenerationContext) (documents : List Document) :
    ∃ common, (common = [] ∨ common = [commonFile]) ∧
      consolidate c documents =
        ((linkedDocuments c documents).1 ++ (linkedDocuments c documents).2).map
          (Document.file (documentPrefixes c documents)) ++ common := by
  cases documents with
  | nil => exact ⟨[], Or.inl rfl, rfl⟩
  | cons d rest =>
    refine ⟨_, ?_, rfl⟩
    split
    · exact Or.inr rfl
    · exact Or.inl rfl

/-- A document with its links, after consolidation. -/
def relink (c : GenerationContext) (documents : List Document) (d : Document) : Document :=
  redirectAll (documentPrefixes c documents) (spreadLocations (linkAll c documents))
    (link c documents d)

theorem linkedDocuments_eq (c : GenerationContext) (documents : List Document) :
    linkedDocuments c documents =
      (documents.map (relink c documents),
        consolidations (documentPrefixes c documents) (linkAll c documents)) := by
  rw [linkedDocuments, consolidateImports_eq, linkAll, List.map_map]
  rfl

theorem relink_mem_linkedDocuments {c : GenerationContext} {documents : List Document}
    {d : Document} (hd : d ∈ documents) :
    relink c documents d ∈ (linkedDocuments c documents).1 := by
  rw [linkedDocuments_eq]
  exact List.mem_map_of_mem hd

/-- The first document that has a name of a namespace. -/
def firstDeclaring? (documents : List Document) (ns name : String) : Option Document :=
  documents.find? fun d => d.spaces.contains ns && d.schema.components.any fun k => k.name = name

theorem exists_firstDeclaring? {documents : List Document} {t : Document} (ht : t ∈ documents)
    {ns : String} (hns : ns ∈ t.spaces) {sort : ComponentSort} {name : String}
    (hdeclares : t.Declares sort name) :
    ∃ first, firstDeclaring? documents ns name = some first ∧ first ∈ documents ∧
      ns ∈ first.spaces := by
  obtain ⟨k, hk, -, hname⟩ := hdeclares
  have hsome : (firstDeclaring? documents ns name).isSome := by
    refine List.find?_isSome.mpr ⟨t, ht, ?_⟩
    rw [Bool.and_eq_true, List.contains_iff_mem, List.any_eq_true]
    exact ⟨hns, k, hk, decide_eq_true hname⟩
  obtain ⟨first, hfirst⟩ := Option.isSome_iff_exists.mp hsome
  have hspec := List.find?_some hfirst
  rw [Bool.and_eq_true, List.contains_iff_mem] at hspec
  exact ⟨first, hfirst, List.mem_of_find?_eq_some hfirst, hspec.1⟩

/-- A use in a document is covered: the document declares the name itself, or one
that it includes, or that it imports, directly or through a document that was made
for the namespace. -/
inductive Covered (linked made : List Document) (d : Document) (u : ComponentSort × QName) : Prop
  | here (hns : u.2.ns = d.schema.targetNamespace ∨ ∃ ns ∈ d.spaces, u.2.ns = some ns)
    (h : d.Declares u.1 u.2.name)
  | included {ns : String} {t : Document} (hns : u.2.ns = some ns) (ht : t ∈ linked)
    (hspace : ns ∈ t.spaces) (hdeclares : t.Declares u.1 u.2.name)
    (h : t.path ∈ d.schema.includes)
  | imported {ns : String} {t : Document} (hns : u.2.ns = some ns) (ht : t ∈ linked)
    (hspace : ns ∈ t.spaces) (hdeclares : t.Declares u.1 u.2.name)
    (h : ⟨ns, some t.path⟩ ∈ d.schema.imports)
  | consolidated {ns : String} {t k : Document} (hns : u.2.ns = some ns) (ht : t ∈ linked)
    (hspace : ns ∈ t.spaces) (hdeclares : t.Declares u.1 u.2.name) (hk : k ∈ made)
    (htarget : k.schema.targetNamespace = some ns) (hinclude : t.path ∈ k.schema.includes)
    (h : ⟨ns, some k.path⟩ ∈ d.schema.imports)

section

variable {c : GenerationContext} {documents : List Document}

theorem relink_frame (c : GenerationContext) (documents : List Document) (d : Document) :
    ∃ includes imports,
      relink c documents d = { d with schema := { d.schema with includes, imports } } := by
  obtain ⟨includes, imports, hlink⟩ := link_frame c documents d
  obtain ⟨imports', hredirect⟩ := redirectAll_frame (documentPrefixes c documents)
    (spreadLocations (linkAll c documents)) (link c documents d)
  rw [relink, hredirect, hlink]
  exact ⟨_, _, rfl⟩

@[simp] theorem path_relink (d : Document) : (relink c documents d).path = d.path := by
  obtain ⟨includes, imports, h⟩ := relink_frame c documents d
  rw [h]

@[simp] theorem library_relink (d : Document) : (relink c documents d).library = d.library := by
  obtain ⟨includes, imports, h⟩ := relink_frame c documents d
  rw [h]

@[simp] theorem service_relink (d : Document) : (relink c documents d).service = d.service := by
  obtain ⟨includes, imports, h⟩ := relink_frame c documents d
  rw [h]

@[simp] theorem targetNamespace_relink (d : Document) :
    (relink c documents d).schema.targetNamespace = d.schema.targetNamespace := by
  obtain ⟨includes, imports, h⟩ := relink_frame c documents d
  rw [h]

@[simp] theorem components_relink (d : Document) :
    (relink c documents d).schema.components = d.schema.components := by
  obtain ⟨includes, imports, h⟩ := relink_frame c documents d
  rw [h]

@[simp] theorem spaces_relink (d : Document) : (relink c documents d).spaces = d.spaces := by
  obtain ⟨includes, imports, h⟩ := relink_frame c documents d
  rw [h]
  rfl

@[simp] theorem declares_relink (d : Document) (sort : ComponentSort) (name : String) :
    (relink c documents d).Declares sort name ↔ d.Declares sort name := by
  rw [Document.Declares, components_relink, Document.Declares]

/-- A document that uses names without a namespace only, and primitive types, has no
links. -/
theorem relink_of_unqualified {d : Document} (hincludes : d.schema.includes = [])
    (himports : d.schema.imports = [])
    (h : ∀ q ∈ d.schema.references, q.ns = none ∨ q.ns = some primitiveNamespace) :
    (relink c documents d).schema.includes = [] ∧ (relink c documents d).schema.imports = [] := by
  obtain ⟨imports, hredirect⟩ := redirectAll_frame (documentPrefixes c documents)
    (spreadLocations (linkAll c documents)) (link c documents d)
  have hprimitive : ∀ q ∈ d.schema.references, ∀ ns, q.ns = some ns → ns = primitiveNamespace := by
    intro q hq ns hns
    rcases h q hq with hnone | hsome
    · rw [hnone] at hns
      cases hns
    · exact Option.some.inj (hns.symm.trans hsome)
  have hlinked : (link c documents d).schema.imports = [] := by
    refine List.eq_nil_iff_forall_not_mem.mpr fun i hi => ?_
    rcases mem_imports_link.mp hi with hi | ⟨q, hq, hns, hother, -⟩
    · rw [himports] at hi
      exact absurd hi List.not_mem_nil
    · exact hother (hprimitive q hq i.ns hns)
  constructor
  · refine List.eq_nil_iff_forall_not_mem.mpr fun l hl => ?_
    rw [relink, hredirect] at hl
    rcases mem_includes_link.mp hl with hl | ⟨q, hq, ns, hns, hother, -⟩
    · rw [hincludes] at hl
      exact absurd hl List.not_mem_nil
    · exact hother (hprimitive q hq ns hns)
  · -- where nothing is imported, nothing is redirected
    refine List.eq_nil_iff_forall_not_mem.mpr fun i hi => ?_
    have hown : (link c documents d).importsOf i.ns = [] := by
      rw [Document.importsOf, hlinked]
      rfl
    have hnone := importsOf_redirectAll_eq_nil (documentPrefixes c documents)
      (spreadLocations (linkAll c documents)) hown
    exact absurd (hnone ▸ Document.mem_importsOf.mpr ⟨hi, rfl⟩) List.not_mem_nil

/-- A name that a document declares is reached from every document that uses it, as
far as the first document with the name declares what is meant and has a file of its
own. -/
theorem covered_or_missed (hunlinked : Unlinked documents) {d : Document} (hd : d ∈ documents)
    {k : Component} (hk : k ∈ d.schema.components) {u : ComponentSort × QName} (hu : u ∈ k.uses)
    {ns : String} (hns : u.2.ns = some ns) (hprimitive : ns ≠ primitiveNamespace) {t : Document}
    (ht : t ∈ documents) (hspace : ns ∈ t.spaces) (hdeclares : t.Declares u.1 u.2.name) :
    Covered (linkedDocuments c documents).1 (linkedDocuments c documents).2 (relink c documents d)
        u ∨
      ∃ first, firstDeclaring? documents ns u.2.name = some first ∧
        (¬ first.Declares u.1 u.2.name ∨
          ns ∈ d.spaces ∧ first.path = d.path ∧ ¬ d.Declares u.1 u.2.name) := by
  obtain ⟨sort, q⟩ := u
  obtain ⟨qns, name⟩ := q
  dsimp only at hns hdeclares ⊢
  subst hns
  obtain ⟨first, hfirst, hmem, hfirstSpace⟩ := exists_firstDeclaring? ht hspace hdeclares
  by_cases hsort : first.Declares sort name
  · -- linking took the file of the first document, and that declares what is meant
    have hreference : ⟨some ns, name⟩ ∈ d.schema.references := by
      refine List.mem_flatMap.mpr ⟨k, hk, ?_⟩
      rw [← Component.map_snd_uses]
      exact List.mem_map_of_mem hu
    have hplace : location? c documents ns name = some first.path := by
      rw [location?, show declaringPath? documents ns name = some first.path from
        congrArg (Option.map Document.path) hfirst]
      rfl
    have hlinked := linkedAs_redirectAll (c := c) (documentPrefixes c documents) hunlinked hd
    have htarget := relink_mem_linkedDocuments (c := c) hmem
    by_cases hown : ns ∈ d.spaces
    · rcases hlinked.own ns name _ hreference hprimitive hplace hown with hself | hinclude
      · -- no include: the file is the document's own, though another document may have it too
        by_cases hhere : d.Declares sort name
        · exact Or.inl (.here (Or.inr ⟨ns, by rwa [spaces_relink], rfl⟩) (by rwa [declares_relink]))
        · exact Or.inr ⟨first, hfirst, Or.inr ⟨hown, hself, hhere⟩⟩
      · exact Or.inl (.included rfl htarget (by rwa [spaces_relink]) (by rwa [declares_relink])
          (by rwa [path_relink]))
    · rcases hlinked.other ns name _ hreference hprimitive hplace hown with
        himport | ⟨k', hk', htargetNamespace, hinclude, himport⟩
      · exact Or.inl (.imported rfl htarget (by rwa [spaces_relink]) (by rwa [declares_relink])
          (by rwa [path_relink]))
      · refine Or.inl (.consolidated rfl htarget (by rwa [spaces_relink])
          (by rwa [declares_relink]) ?_ htargetNamespace (by rwa [path_relink]) himport)
        rw [linkedDocuments_eq]
        exact hk'
  · exact Or.inr ⟨first, hfirst, Or.inl hsort⟩

end

end Xsd

namespace GenerationContext

open Xsd Model

variable {c : GenerationContext}

/-! ## The documents of a generation -/

/-- The documents of a format that have to be linked. -/
def formatDocuments (c : GenerationContext) : TargetFormat → List Document
  | .xmlSchema => c.schemaDocuments
  | .serviceSchema => c.serviceSchemas
  | .jsonSchema | .openApi | .swagger => []

/-- The finished files of a format. -/
def formatFiles (c : GenerationContext) : TargetFormat → List OutputFile
  | .jsonSchema => (c.libraryFiles .jsonSchema).map c.jsonFile
  | .openApi => c.apiResources.map (c.apiOutput .openApi)
  | .swagger => c.apiResources.map (c.apiOutput .swagger)
  | .xmlSchema | .serviceSchema => []

theorem emit_eq (hc : c.Closed) (made : Generator.Emitted) (format : TargetFormat) :
    Generator.emit c made format =
      .ok (made.1 ++ c.formatDocuments format, made.2 ++ c.formatFiles format) := by
  cases format with
  | xmlSchema =>
    rw [Generator.emit, libraryDocuments_eq hc, formatFiles, List.append_nil]
    rfl
  | serviceSchema =>
    rw [Generator.emit, serviceDocuments_eq hc, formatFiles, List.append_nil]
    rfl
  | jsonSchema =>
    rw [Generator.emit, jsonFiles_eq hc, formatDocuments, List.append_nil]
    rfl
  | openApi =>
    rw [Generator.emit, apiFiles_eq hc, formatDocuments, List.append_nil]
    rfl
  | swagger =>
    rw [Generator.emit, apiFiles_eq hc, formatDocuments, List.append_nil]
    rfl

theorem foldlM_emit (hc : c.Closed) (formats : List TargetFormat) (made : Generator.Emitted) :
    formats.foldlM (Generator.emit c) made =
      .ok (made.1 ++ formats.flatMap c.formatDocuments,
        made.2 ++ formats.flatMap c.formatFiles) := by
  induction formats generalizing made with
  | nil =>
    rw [List.foldlM_nil, List.flatMap_nil, List.flatMap_nil, List.append_nil, List.append_nil]
    rfl
  | cons format rest ih =>
    rw [List.foldlM_cons, emit_eq hc]
    show rest.foldlM (Generator.emit c) _ = _
    rw [ih, List.append_assoc, List.append_assoc, List.flatMap_cons, List.flatMap_cons]

/-- A generation makes the documents of its formats. -/
theorem exists_emitted (hc : c.Closed) (formats : List TargetFormat) :
    ∃ made, formats.foldlM (Generator.emit c) ([], []) = .ok made ∧
      made.1 = formats.flatMap c.formatDocuments :=
  ⟨_, foldlM_emit hc formats ([], []), List.nil_append _⟩

theorem mem_targets {s : FormatSelection} :
    TargetFormat.xmlSchema ∈ s.targets ↔ s.schemas = true := by
  obtain ⟨schemas, json, services, swagger, openApi, html⟩ := s
  cases schemas <;> simp [FormatSelection.targets]

theorem nodup_targets (s : FormatSelection) : s.targets.Nodup := by
  obtain ⟨schemas, json, services, swagger, openApi, html⟩ := s
  revert schemas json services swagger openApi html
  decide

theorem unlinked_formatDocuments (hc : c.Closed) (formats : List TargetFormat) :
    Unlinked (formats.flatMap c.formatDocuments) := by
  intro d hd
  obtain ⟨format, -, hd⟩ := List.mem_flatMap.mp hd
  cases format with
  | xmlSchema =>
    obtain ⟨l, path, -, -, -, rfl⟩ := (mem_schemaDocuments hc.settled.wellFormed).mp hd
    exact ⟨rfl, rfl⟩
  | serviceSchema => exact (located_of_serviceSchemas hc hd).2.1
  | _ => exact absurd hd List.not_mem_nil

/-- A document declares what it refers to, or the name is looked for among the
schemas of libraries. -/
theorem located_of_formatDocuments (hc : c.Closed) {formats : List TargetFormat} {d : Document}
    (hd : d ∈ formats.flatMap c.formatDocuments) {k : Component}
    (hk : k ∈ d.schema.components) {u : ComponentSort × QName} (hu : u ∈ k.uses) :
    (u.2.ns = d.schema.targetNamespace ∧ d.Declares u.1 u.2.name) ∨
      c.Located c.schemaDocuments d.library u := by
  obtain ⟨format, -, hd⟩ := List.mem_flatMap.mp hd
  cases format with
  | xmlSchema =>
    obtain ⟨sort, q⟩ := u
    rcases located_of_use hc hd hk hu with hstandard | ⟨hsort, hlocated⟩
    · exact Or.inr (Or.inl hstandard)
    · dsimp only at hsort
      subst hsort
      exact Or.inr hlocated
  | serviceSchema => exact (located_of_serviceSchemas hc hd).2.2 k hk u hu
  | _ => exact absurd hd List.not_mem_nil

/-! ## Names that are missed -/

/-- How a use in one of the documents of a generation can be missed. -/
inductive Missed (c : GenerationContext) (documents : List Document) (d : Document)
    (u : ComponentSort × QName) : Prop
  /-- The schemas of libraries are not selected, and one of them declares the name. -/
  | unselected (h : c.options.formats.schemas = false)
    (hfound : Found c.schemaDocuments d.library u)
  /-- The document is of a service of a library without a namespace, and the schema
  of the library declares the name. -/
  | unqualified (hns : u.2.ns = none) (h : d.service = true)
    (hfound : Found c.schemaDocuments d.library u)
  /-- The name is one of a hidden library. -/
  | stray (h : c.Stray c.schemaDocuments d.library u)
  /-- The first document with the name has a type for an element or an element for
  a type. -/
  | otherSort {ns : String} {first : Document} (hns : u.2.ns = some ns)
    (hfirst : firstDeclaring? documents ns u.2.name = some first)
    (h : ¬ first.Declares u.1 u.2.name)
  /-- The first document with the name has the file of the one that uses it. -/
  | sameFile {ns : String} {first : Document} (hns : u.2.ns = some ns)
    (hfirst : firstDeclaring? documents ns u.2.name = some first) (hpath : first.path = d.path)
    (h : ¬ d.Declares u.1 u.2.name)

/-- A use whose name is found among the schemas of libraries is covered or missed. -/
theorem covered_or_missed_of_found (hc : c.Closed) {d : Document}
    (hd : d ∈ c.options.formats.targets.flatMap c.formatDocuments) {k : Component}
    (hk : k ∈ d.schema.components) {u : ComponentSort × QName} (hu : u ∈ k.uses)
    (hstandard : ¬ u.2.Standard) (hfound : Found c.schemaDocuments d.library u) :
    let documents := c.options.formats.targets.flatMap c.formatDocuments
    let linked := linkedDocuments c documents
    Covered linked.1 linked.2 (relink c documents d) u ∨
      c.Missed documents (relink c documents d) u := by
  intro documents linked
  cases hschemas : c.options.formats.schemas with
  | false => exact Or.inr (.unselected hschemas (by rwa [library_relink]))
  | true =>
    have hsub : ∀ t ∈ c.schemaDocuments, t ∈ documents := fun t ht =>
      List.mem_flatMap.mpr ⟨.xmlSchema, mem_targets.mpr hschemas, ht⟩
    rcases hfound with ⟨ns, hns, t, ht, hspace, hdeclares⟩ | ⟨hnone, t, ht, hlibrary, htarget, hdeclares⟩
    · have hprimitive : ns ≠ primitiveNamespace := by
        rintro rfl
        exact hstandard (Or.inl hns)
      rcases covered_or_missed (c := c) (unlinked_formatDocuments hc _) hd hk hu hns hprimitive
        (hsub t ht) hspace hdeclares with h | ⟨first, hfirst, h | ⟨-, hpath, h⟩⟩
      · exact Or.inl h
      · exact Or.inr (.otherSort hns hfirst h)
      · exact Or.inr (.sameFile hns hfirst (by rwa [path_relink]) (by rwa [declares_relink]))
    · -- without a namespace, only the document of the library itself declares it
      obtain ⟨format, -, hd⟩ := List.mem_flatMap.mp hd
      cases format with
      | xmlSchema =>
        rw [eq_of_library hc.settled.wellFormed hd ht hlibrary] at htarget hdeclares
        refine Or.inl (.here (Or.inl ?_) (by rwa [declares_relink]))
        rw [targetNamespace_relink, htarget, hnone]
      | serviceSchema =>
        refine Or.inr (.unqualified hnone ?_ (Or.inr ⟨hnone, t, ht, ?_, htarget, hdeclares⟩))
        · rw [service_relink]
          exact (located_of_serviceSchemas hc hd).1
        · rw [library_relink, hlibrary]
      | _ => exact absurd hd List.not_mem_nil

/-- Linked schemas reach the declarations of the names they use. Let the scope be
that of some roots in a refreshed model, without a global scope. Then every name in
the schemas of libraries and of services is standard or of a library that comes with
the program, or it names a resource or a service, or the document itself declares it,
as the type or the element that is meant, or one that it includes or imports does.
Names are missed in five ways only. -/
theorem linked_schemas_cover (cs : List Change) (roots : List EntityId)
    (options : GenerationOptions) :
    let m := run (cs ++ [.refresh])
    let c := ({ model := m } : Generator).context options (Scope.build m roots none) false
    ∃ made, options.formats.targets.foldlM (Generator.emit c) ([], []) = .ok made ∧
      let linked := linkedDocuments c made.1
      (∃ common, (common = [] ∨ common = [commonFile]) ∧
        consolidate c made.1 =
          (linked.1 ++ linked.2).map (Document.file (documentPrefixes c made.1)) ++ common) ∧
      ∀ d ∈ linked.1 ++ linked.2, ∀ k ∈ d.schema.components, ∀ u ∈ k.uses,
        u.2.Standard ∨ c.NamesBuiltIn d.library u.2 ∨ c.NamesUntyped d.library u.2 ∨
          Covered linked.1 linked.2 d u ∨ c.Missed made.1 d u := by
  intro m c
  have hc : c.Closed := closed_context cs roots options
  obtain ⟨made, hemit, hmade⟩ := exists_emitted hc options.formats.targets
  refine ⟨made, hemit, consolidate_eq c made.1, ?_⟩
  rw [hmade]
  intro d hd k hk u hu
  rw [linkedDocuments_eq] at hd
  rcases List.mem_append.mp hd with hd | hd
  · obtain ⟨d', hd', rfl⟩ := List.mem_map.mp hd
    rw [components_relink] at hk
    rw [library_relink]
    by_cases hstandard : u.2.Standard
    · exact Or.inl hstandard
    · rcases located_of_formatDocuments hc hd' hk hu with ⟨hns, hdeclares⟩ | h | h | h | h | h
      · refine Or.inr (Or.inr (Or.inr (Or.inl (.here (Or.inl ?_) (by rwa [declares_relink])))))
        rw [targetNamespace_relink, hns]
      · exact absurd h hstandard
      · exact Or.inr (Or.inl h)
      · exact Or.inr (Or.inr (Or.inl h))
      · exact Or.inr (Or.inr (Or.inr (covered_or_missed_of_found hc hd' hk hu hstandard h)))
      · exact Or.inr (Or.inr (Or.inr (Or.inr (.stray (by rwa [library_relink])))))
  · -- the documents made for namespaces declare nothing
    obtain ⟨e, -, rfl⟩ := List.mem_map.mp hd
    exact absurd hk List.not_mem_nil

/-- A service of a library without a namespace, which another library includes. -/
def hostedServiceRun : List Change :=
  [.add (sampleLibrary "Host" (some "urn:host") ["Guest.otm"]) [],
    .add (sampleLibrary "Guest" none [])
      [sampleMember "Code" (.simpleType {}),
        sampleMember "Orders" (.service
          { operations :=
              [ { name := "Get", response := none, notification := none
                  request := some
                    { attributes := [⟨"code", .unbound "Code", false, none⟩] } } ] })]]

/-- The schema of the service refers to a type of its library. It does not declare the
type, and it neither includes nor imports a document, so that it reaches none that does. -/
theorem hostedServiceRun_uncovered :
    let m := run (hostedServiceRun ++ [.refresh])
    let options : GenerationOptions :=
      { outputDir := "out", formats := { schemas := true, services := true } }
    let c := ({ model := m } : Generator).context options (Scope.build m [⟨1⟩] none) false
    ∃ made, options.formats.targets.foldlM (Generator.emit c) ([], []) = .ok made ∧
      let linked := linkedDocuments c made.1
      ∃ d ∈ linked.1, ∃ k ∈ d.schema.components, (.type, ⟨none, "Code"⟩) ∈ k.uses ∧
        ¬ Covered linked.1 linked.2 d (.type, ⟨none, "Code"⟩) ∧
        ¬ d.Declares .type "Code" ∧ d.schema.includes = [] ∧ d.schema.imports = [] ∧
        (∃ t ∈ linked.1, t.Declares .type "Code") ∧
        ∀ e ∈ m.entities, HasNoTypes e → e.name ≠ "Code" := by
  intro m options c
  have hc : c.Closed := closed_context hostedServiceRun [⟨1⟩] options
  obtain ⟨made, hemit, hmade⟩ := exists_emitted hc options.formats.targets
  let l : Library := { sampleLibrary "Guest" none [] with id := ⟨1⟩, members := [⟨0⟩, ⟨1⟩] }
  have horder : l.id ∈ c.order :=
    (Scope.mem_order_iff hc.settled.wellFormed).mpr
      ⟨by decide +kernel, l, by decide +kernel, rfl⟩
  obtain ⟨e, he, d, hd, ⟨k, hk, hu⟩, hmissing, hincludes, himports, hnames⟩ :
      ∃ e ∈ c.emittedEntities l.id, ∃ d ∈ c.messageDocuments e,
        (∃ k ∈ d.schema.components, (.type, ⟨none, "Code"⟩) ∈ k.uses) ∧
        ¬ d.Declares .type "Code" ∧ d.schema.includes = [] ∧ d.schema.imports = [] ∧
        ∀ q ∈ d.schema.references, q.ns = none ∨ q.ns = some primitiveNamespace := by
    decide +kernel
  obtain ⟨hnoIncludes, hnoImports⟩ : (relink c made.1 d).schema.includes = [] ∧
      (relink c made.1 d).schema.imports = [] :=
    relink_of_unqualified hincludes himports hnames
  refine ⟨made, hemit, relink c made.1 d, relink_mem_linkedDocuments ?_, k, ?_, hu, ?_, ?_,
    hnoIncludes, hnoImports, ?_, by decide +kernel⟩
  · rw [hmade]
    refine List.mem_flatMap.mpr ⟨.serviceSchema, by decide, List.mem_flatMap.mpr ?_⟩
    exact ⟨l.id, horder, List.mem_flatMap.mpr ⟨e, he, List.mem_append_left _ hd⟩⟩
  · rw [components_relink]
    exact hk
  · -- includes and imports are made for names with a namespace only
    rintro (⟨-, h⟩ | ⟨hns, -⟩ | ⟨hns, -⟩ | ⟨hns, -⟩)
    · exact hmissing ((declares_relink d _ _).mp h)
    · cases hns
    · cases hns
    · cases hns
  · rwa [declares_relink]
  · -- the schema of the library itself declares the type
    obtain ⟨path, hschema⟩ := exists_schemaDocument hc horder (by decide +kernel)
    refine ⟨relink c made.1 (c.schemaDocument l path), relink_mem_linkedDocuments ?_, ?_⟩
    · rw [hmade]
      exact List.mem_flatMap.mpr ⟨.xmlSchema, by decide, hschema⟩
    · rw [declares_relink]
      show ∃ k ∈ (c.emittedEntities l.id).flatMap c.components, k.sort = .type ∧ k.name = "Code"
      decide +kernel

end GenerationContext

end TravelModel
