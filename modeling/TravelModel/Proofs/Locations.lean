import TravelModel.Proofs.LinkedSchemas

/-!
# TravelModel — files that links point to

A link holds the name of a file, and is of use if that file is written. Whatever the
model, the scope and the options, the files that are imported are, as is the schema
of the common library where one is imported. What a document includes is written too,
unless it is the schema of the common library itself.

Main results:

* `unlinked_foldlM_emit` — the documents of a generation have no links yet.
* `mem_includes_relink`, `imports_relink_cases`, `made_cases` — the links of documents
  after linking and consolidation.
* `mem_paths_consolidate` — the files that are written.
* `location_unwritten_iff` — the one file that is linked to and not written.
-/

namespace TravelModel

namespace Xsd

/-! ## Documents before linking -/

section

variable {c : GenerationContext} {documents : List Document}

theorem unlinked_nil : Unlinked [] := fun _ hd => absurd hd List.not_mem_nil

theorem unlinked_append {others : List Document} (h : Unlinked documents) (h' : Unlinked others) :
    Unlinked (documents ++ others) :=
  fun d hd => (List.mem_append.mp hd).elim (h d) (h' d)

theorem unlinked_flatten {parts : List (List Document)} (h : ∀ p ∈ parts, Unlinked p) :
    Unlinked parts.flatten := by
  intro d hd
  obtain ⟨p, hp, hd⟩ := List.mem_flatten.mp hd
  exact h p hp d hd

theorem unlinked_libraryDocument {l : Library} (h : libraryDocument c l = .ok documents) :
    Unlinked documents := by
  rw [libraryDocument] at h
  cases hpath : c.libraryFile? l .xmlSchema with
  | none =>
    rw [hpath] at h
    cases h
    exact unlinked_nil
  | some path =>
    rw [hpath] at h
    obtain ⟨parts, -, h⟩ := exists_of_bind_eq_ok h
    cases h
    intro d hd
    rw [List.mem_singleton.mp hd]
    exact ⟨rfl, rfl⟩

theorem unlinked_libraryDocuments (h : libraryDocuments c = .ok documents) :
    Unlinked documents := by
  obtain ⟨parts, hparts, h⟩ := exists_of_bind_eq_ok h
  cases h
  refine unlinked_flatten fun p hp => ?_
  obtain ⟨id, -, hstep⟩ := exists_of_mem_mapM hparts hp
  obtain ⟨-, -, hstep⟩ := exists_of_bind_eq_ok hstep
  cases hl : c.model.library? id with
  | none =>
    rw [hl] at hstep
    cases hstep
    exact unlinked_nil
  | some l =>
    rw [hl] at hstep
    exact unlinked_libraryDocument hstep

theorem unlinked_serviceDocument? {e : NamedEntity} {path : String} {documentation : Option String}
    {components : List Component} :
    Unlinked (c.serviceDocument? e path documentation components).toList := by
  intro d hd
  obtain ⟨l, -, rfl⟩ := Option.map_eq_some_iff.mp (Option.mem_toList.mp hd)
  exact ⟨rfl, rfl⟩

theorem unlinked_registeredServices {e : NamedEntity} (h : c.registeredServices e = .ok documents) :
    Unlinked documents := by
  rw [GenerationContext.registeredServices] at h
  split at h
  · obtain ⟨transformer, -, h⟩ := exists_of_bind_eq_ok h
    cases transformer with
    | messages =>
      cases h
      rw [GenerationContext.messageDocuments]
      split
      · exact unlinked_serviceDocument?
      · exact unlinked_nil
    | requestResponse =>
      cases h
      rw [GenerationContext.requestResponseDocuments]
      split
      · exact unlinked_serviceDocument?
      · exact unlinked_nil
    | _ =>
      cases h
      exact unlinked_nil
  · cases h
    exact unlinked_nil

theorem unlinked_serviceDocuments (h : c.serviceDocuments = .ok documents) :
    Unlinked documents := by
  obtain ⟨parts, hparts, h⟩ := exists_of_bind_eq_ok h
  cases h
  refine unlinked_flatten fun p hp => ?_
  obtain ⟨byLibrary, hlibrary, hp⟩ := List.mem_flatten.mp hp
  obtain ⟨id, -, hstep⟩ := exists_of_mem_mapM hparts hlibrary
  obtain ⟨-, -, hstep⟩ := exists_of_bind_eq_ok hstep
  obtain ⟨e, -, hservices⟩ := exists_of_mem_mapM hstep hp
  exact unlinked_registeredServices hservices

/-- A format adds documents without links. -/
theorem unlinked_emit {made made' : Generator.Emitted} (hmade : Unlinked made.1)
    {format : TargetFormat} (h : Generator.emit c made format = .ok made') : Unlinked made'.1 := by
  cases format with
  | xmlSchema =>
    obtain ⟨documents, hdocuments, h⟩ := exists_of_bind_eq_ok h
    cases h
    exact unlinked_append hmade (unlinked_libraryDocuments hdocuments)
  | serviceSchema =>
    obtain ⟨documents, hdocuments, h⟩ := exists_of_bind_eq_ok h
    cases h
    exact unlinked_append hmade (unlinked_serviceDocuments hdocuments)
  | jsonSchema =>
    obtain ⟨files, -, h⟩ := exists_of_bind_eq_ok h
    cases h
    exact hmade
  | openApi =>
    obtain ⟨files, -, h⟩ := exists_of_bind_eq_ok h
    cases h
    exact hmade
  | swagger =>
    obtain ⟨files, -, h⟩ := exists_of_bind_eq_ok h
    cases h
    exact hmade

/-- The documents of a generation have no links yet. -/
theorem unlinked_foldlM_emit {formats : List TargetFormat} {made made' : Generator.Emitted}
    (hmade : Unlinked made.1) (h : formats.foldlM (Generator.emit c) made = .ok made') :
    Unlinked made'.1 := by
  induction formats generalizing made with
  | nil =>
    cases h
    exact hmade
  | cons format rest ih =>
    rw [List.foldlM_cons] at h
    obtain ⟨next, hnext, h⟩ := exists_of_bind_eq_ok h
    exact ih (unlinked_emit hmade hnext) h

end

/-! ## Links after consolidation -/

section

variable {c : GenerationContext} {documents : List Document}

@[simp] theorem hosts_relink (d : Document) : (relink c documents d).hosts = d.hosts := by
  obtain ⟨includes, imports, h⟩ := relink_frame c documents d
  rw [h]

@[simp] theorem references_relink (d : Document) :
    (relink c documents d).schema.references = d.schema.references := by
  obtain ⟨includes, imports, h⟩ := relink_frame c documents d
  rw [h]
  rfl

/-- What a document includes is what its references ask for. -/
theorem mem_includes_relink (h : Unlinked documents) {d : Document} (hd : d ∈ documents)
    {l : String} :
    l ∈ (relink c documents d).schema.includes ↔
      ∃ q ∈ d.schema.references, AsksInclude c documents d l q := by
  obtain ⟨imports, hredirect⟩ := redirectAll_frame (documentPrefixes c documents)
    (spreadLocations (linkAll c documents)) (link c documents d)
  rw [relink, hredirect]
  dsimp only
  rw [mem_includes_link, (h d hd).1]
  simp

/-- An import of a namespace with several files is one of the document that was made
for it; any other is one that a reference asks for. -/
theorem imports_relink_cases (h : Unlinked documents) {d : Document} (hd : d ∈ documents)
    {i : Import} (hi : i ∈ (relink c documents d).schema.imports) :
    (∃ k ∈ (linkedDocuments c documents).2, k.schema.targetNamespace = some i.ns ∧
      i.location = some k.path) ∨
      ¬ Spread (linkAll c documents) i.ns ∧
        ∃ q ∈ d.schema.references, AsksImport c documents d i q := by
  have hlinked := linkedAs_redirectAll (c := c) (documentPrefixes c documents) h hd
  by_cases hspread : Spread (linkAll c documents) i.ns
  · have hmem : i ∈ (relink c documents d).importsOf i.ns := Document.mem_importsOf.mpr ⟨hi, rfl⟩
    obtain ⟨k, hk, htarget, hone⟩ := hlinked.once i.ns hspread (List.ne_nil_of_mem hmem)
    rw [relink, hone, List.mem_singleton] at hmem
    refine Or.inl ⟨k, ?_, htarget, ?_⟩
    · rw [linkedDocuments_eq]
      exact hk
    · rw [hmem]
  · refine Or.inr ⟨hspread, ?_⟩
    have hkept := (hlinked.kept i hspread).mp hi
    rw [mem_imports_link, (h d hd).2] at hkept
    simpa using hkept

/-- Consolidation takes no namespace away from the imports of a document. -/
theorem exists_import_relink (h : Unlinked documents) {d : Document} (hd : d ∈ documents)
    {i : Import} (hi : i ∈ (link c documents d).schema.imports) :
    ∃ i' ∈ (relink c documents d).schema.imports, i'.ns = i.ns := by
  have hlinked := linkedAs_redirectAll (c := c) (documentPrefixes c documents) h hd
  by_cases hspread : Spread (linkAll c documents) i.ns
  · have hone := importsOf_redirectAll_of_mem (documentPrefixes c documents)
      (nodup_spreadLocations (linkAll c documents)) (mem_spaces_iff.mpr hspread)
      (List.ne_nil_of_mem (Document.mem_importsOf.mpr ⟨hi, rfl⟩))
    have hmem : (⟨i.ns, some (consolidationPath (documentPrefixes c documents) i.ns)⟩ : Import) ∈
        (relink c documents d).importsOf i.ns := by
      rw [relink, hone]
      exact List.mem_singleton_self _
    exact ⟨_, (Document.mem_importsOf.mp hmem).1, rfl⟩
  · exact ⟨i, (hlinked.kept i hspread).mpr hi, rfl⟩

/-- The only file that comes with the program is that of the common library. -/
theorem eq_common_of_builtinPath? {ns l : String} (h : builtinPath? c ns = some l) :
    ns = Builtin.commonNamespace ∧ l = commonFile.path := by
  obtain ⟨k, hk, hfile⟩ := List.exists_of_findSome?_eq_some h
  obtain ⟨-, hbuiltIn⟩ := List.mem_filter.mp hk
  rw [Bool.and_eq_true, decide_eq_true_iff] at hbuiltIn
  rw [GenerationContext.libraryFile?, if_pos hbuiltIn.1] at hfile
  split at hfile
  · next hcommon =>
    rw [Bool.and_eq_true, decide_eq_true_iff, hbuiltIn.2, Option.some.injEq] at hcommon
    exact ⟨hcommon.2, (Option.some.inj hfile).symm⟩
  · cases hfile

/-- A name is found in the first document that declares it, or in the file of the
common library if it is of that namespace. -/
theorem location?_cases {ns name l : String} (h : location? c documents ns name = some l) :
    (∃ t ∈ documents, firstDeclaring? documents ns name = some t ∧ ns ∈ t.spaces ∧ t.path = l) ∨
      ns = Builtin.commonNamespace ∧ l = commonFile.path := by
  rw [location?, Option.or_eq_some_iff] at h
  rcases h with hdeclared | ⟨-, hbuiltIn⟩
  · obtain ⟨t, hfirst, hpath⟩ := Option.map_eq_some_iff.mp hdeclared
    have hspec := List.find?_some hfirst
    rw [Bool.and_eq_true, List.contains_iff_mem] at hspec
    exact Or.inl ⟨t, List.mem_of_find?_eq_some hfirst, hfirst, hspec.1, hpath⟩
  · exact Or.inr (eq_common_of_builtinPath? hbuiltIn)

theorem location?_of_firstDeclaring? {ns name : String} {t : Document}
    (h : firstDeclaring? documents ns name = some t) :
    location? c documents ns name = some t.path := by
  rw [location?, show declaringPath? documents ns name = some t.path from
    congrArg (Option.map Document.path) h]
  rfl

/-- A namespace is imported from the files that references ask for. -/
theorem importedFrom_linkAll (h : Unlinked documents) {ns l : String} :
    ImportedFrom (linkAll c documents) ns l ↔
      ∃ d ∈ documents, ∃ q ∈ d.schema.references, AsksImport c documents d ⟨ns, some l⟩ q := by
  have himports : ∀ d ∈ documents, ((⟨ns, some l⟩ : Import) ∈ (link c documents d).schema.imports ↔
      ∃ q ∈ d.schema.references, AsksImport c documents d ⟨ns, some l⟩ q) := by
    intro d hd
    rw [mem_imports_link, (h d hd).2]
    simp
  constructor
  · rintro ⟨d', hd', hi⟩
    obtain ⟨d, hd, rfl⟩ := List.mem_map.mp hd'
    exact ⟨d, hd, (himports d hd).mp hi⟩
  · rintro ⟨d, hd, hasks⟩
    exact ⟨_, List.mem_map_of_mem hd, (himports d hd).mpr hasks⟩

/-- A made document is for a namespace with several files and includes these. -/
theorem made_cases (h : Unlinked documents) {k : Document}
    (hk : k ∈ (linkedDocuments c documents).2) :
    ∃ ns, k.schema.targetNamespace = some ns ∧ Spread (linkAll c documents) ns ∧
      k.schema.imports = [] ∧
      ∀ l, l ∈ k.schema.includes ↔ ∃ d ∈ documents,
        ∃ q ∈ d.schema.references, AsksImport c documents d ⟨ns, some l⟩ q := by
  rw [linkedDocuments_eq] at hk
  obtain ⟨⟨ns, files⟩, he, rfl⟩ := List.mem_map.mp hk
  obtain ⟨-, hfiles, hspread⟩ := mem_spreadLocations he
  exact ⟨ns, rfl, hspread, rfl, fun l => (hfiles l).trans (importedFrom_linkAll h)⟩

/-! ## Files that are not written -/

/-- A document has a link to a file. -/
def Document.PointsTo (d : Document) (l : String) : Prop :=
  l ∈ d.schema.includes ∨ ∃ ns, ⟨ns, some l⟩ ∈ d.schema.imports

/-- One of some documents imports the common library. -/
def ImportsCommon (documents : List Document) : Prop :=
  ∃ d ∈ documents, ∃ i ∈ d.schema.imports, i.ns = Builtin.commonNamespace

instance (documents : List Document) : Decidable (ImportsCommon documents) :=
  inferInstanceAs (Decidable (∃ d ∈ documents, ∃ i ∈ d.schema.imports, i.ns = _))

/-- The files that are written are those of linked documents, and that of the common
library if one imports it. -/
theorem paths_consolidate (c : GenerationContext) (documents : List Document) :
    (consolidate c documents).map OutputFile.path =
      ((linkedDocuments c documents).1 ++ (linkedDocuments c documents).2).map Document.path ++
        if ImportsCommon (linkedDocuments c documents).1 then [commonFile.path] else [] := by
  cases documents with
  | nil =>
    -- without documents nothing is written
    rw [linkedDocuments_eq]
    simp [consolidate, consolidations, spreadLocations, importLocations, linkAll, ImportsCommon]
  | cons first rest =>
    have hwritten : consolidate c (first :: rest) =
        ((linkedDocuments c (first :: rest)).1 ++ (linkedDocuments c (first :: rest)).2).map
            (Document.file (documentPrefixes c (first :: rest))) ++
          if (linkedDocuments c (first :: rest)).1.any fun d =>
            d.schema.imports.any fun i => i.ns = Builtin.commonNamespace then [commonFile]
          else [] := rfl
    have hcommon : ((linkedDocuments c (first :: rest)).1.any fun d =>
        d.schema.imports.any fun i => i.ns = Builtin.commonNamespace) = true ↔
          ImportsCommon (linkedDocuments c (first :: rest)).1 := by
      simp [ImportsCommon]
    rw [hwritten, List.map_append, List.map_map]
    refine congrArg₂ (· ++ ·) rfl ?_
    split
    · next himports => rw [if_pos (hcommon.mp himports), List.map_singleton]
    · next himports => rw [if_neg (mt hcommon.mpr himports), List.map_nil]

theorem mem_paths_consolidate {l : String} :
    l ∈ (consolidate c documents).map OutputFile.path ↔
      (∃ t ∈ (linkedDocuments c documents).1 ++ (linkedDocuments c documents).2, t.path = l) ∨
        l = commonFile.path ∧ ImportsCommon (linkedDocuments c documents).1 := by
  rw [paths_consolidate, List.mem_append, List.mem_map]
  split
  · next himports => simp [himports]
  · next himports => simp [himports]

/-- A file that a document includes and that is not written: that of the common
library, which no document imports, for one that is in the namespace of that library
itself. -/
structure Uncopied (c : GenerationContext) (documents : List Document) (d : Document)
    (l : String) : Prop where
  file : l = commonFile.path
  included : l ∈ d.schema.includes
  space : Builtin.commonNamespace ∈ d.spaces
  unimported : ¬ ImportsCommon (linkedDocuments c documents).1
  free : ∀ t ∈ (linkedDocuments c documents).1 ++ (linkedDocuments c documents).2, t.path ≠ l

theorem uncopied_of_include (h : Unlinked documents) {d : Document} (hd : d ∈ documents)
    {l : String} (hl : l ∈ (relink c documents d).schema.includes)
    (hmissing : l ∉ (consolidate c documents).map OutputFile.path) :
    Uncopied c documents (relink c documents d) l := by
  rw [mem_paths_consolidate, not_or] at hmissing
  obtain ⟨q, -, ns, -, -, hown, hplace, -⟩ := (mem_includes_relink h hd).mp hl
  rcases location?_cases hplace with ⟨t, ht, -, -, rfl⟩ | ⟨rfl, rfl⟩
  · -- the file of a document is written
    refine absurd ⟨relink c documents t, ?_, path_relink t⟩ hmissing.1
    exact List.mem_append_left _ (relink_mem_linkedDocuments ht)
  · exact ⟨rfl, hl, by rwa [spaces_relink], fun himports => hmissing.2 ⟨rfl, himports⟩,
      fun t ht hpath => hmissing.1 ⟨t, ht, hpath⟩⟩

/-- What a reference imports is written: the common library is copied for it. -/
theorem written_of_asksImport (h : Unlinked documents) {d : Document} (hd : d ∈ documents)
    {ns l : String} {q : QName} (hq : q ∈ d.schema.references)
    (hasks : AsksImport c documents d ⟨ns, some l⟩ q) :
    l ∈ (consolidate c documents).map OutputFile.path := by
  rw [mem_paths_consolidate]
  rcases location?_cases hasks.2.2.2 with ⟨t, ht, -, -, hpath⟩ | ⟨hns, hl⟩
  · refine Or.inl ⟨relink c documents t, ?_, by rw [path_relink, hpath]⟩
    exact List.mem_append_left _ (relink_mem_linkedDocuments ht)
  · have himport : ⟨ns, some l⟩ ∈ (link c documents d).schema.imports :=
      mem_imports_link.mpr (Or.inr ⟨q, hq, hasks⟩)
    obtain ⟨i, hi, hsame⟩ := exists_import_relink h hd himport
    exact Or.inr ⟨hl, relink c documents d, relink_mem_linkedDocuments hd, i, hi,
      hsame.trans hns⟩

/-- Where no name asks for an import, no document is made and none imports the common
library. -/
theorem linkedDocuments_of_no_import (h : Unlinked documents)
    (hnone : ∀ d ∈ documents, ∀ i, ∀ q ∈ d.schema.references, ¬ AsksImport c documents d i q) :
    (linkedDocuments c documents).2 = [] ∧ ¬ ImportsCommon (linkedDocuments c documents).1 := by
  have hnomade : (linkedDocuments c documents).2 = [] := by
    refine List.eq_nil_iff_forall_not_mem.mpr fun k hk => ?_
    obtain ⟨ns, -, ⟨l, -, -, himported, -⟩, -⟩ := made_cases h hk
    obtain ⟨d, hd, q, hq, hasks⟩ := (importedFrom_linkAll h).mp himported
    exact hnone d hd _ q hq hasks
  refine ⟨hnomade, ?_⟩
  rintro ⟨t, ht, i, hi, -⟩
  rw [linkedDocuments_eq] at ht
  obtain ⟨t, hmem, rfl⟩ := List.mem_map.mp ht
  rcases imports_relink_cases h hmem hi with ⟨k, hk, -⟩ | ⟨-, q, hq, hasks⟩
  · rw [hnomade] at hk
    exact absurd hk List.not_mem_nil
  · exact hnone t hmem i q hq hasks

theorem unwritten_of_uncopied {d : Document} {l : String} (h : Uncopied c documents d l) :
    l ∉ (consolidate c documents).map OutputFile.path := by
  intro hwritten
  rcases mem_paths_consolidate.mp hwritten with ⟨t, ht, hpath⟩ | ⟨-, himports⟩
  · exact h.free t ht hpath
  · exact h.unimported himports

end

end Xsd

namespace GenerationContext

open Xsd Model

section

variable {c : GenerationContext}

/-- The schemas of all user libraries, in the order of the model. -/
def librarySchemas (c : GenerationContext) : List Document :=
  (c.model.libraries.filter fun l => !l.builtIn).flatMap fun l =>
    (c.libraryFile? l .xmlSchema).toList.map (c.schemaDocument l)

theorem mem_librarySchemas (hc : c.Closed)
    (hall : ∀ l ∈ c.model.libraries, l.builtIn = false → l.id ∈ c.order) {d : Document} :
    d ∈ c.schemaDocuments ↔ d ∈ c.librarySchemas := by
  have hm := hc.settled.wellFormed
  rw [mem_schemaDocuments hm, librarySchemas]
  simp only [List.mem_flatMap, List.mem_filter, Bool.not_eq_true', List.mem_map, Option.mem_toList]
  constructor
  · rintro ⟨l, path, hid, hl, hpath, rfl⟩
    obtain ⟨l', hl', huser⟩ := hc.user hid
    rw [hl, Option.some.injEq] at hl'
    exact ⟨l, ⟨mem_libraries.mpr ⟨_, hl⟩, hl' ▸ huser⟩, path, hpath, rfl⟩
  · rintro ⟨l, ⟨hmem, huser⟩, path, hpath, rfl⟩
    obtain ⟨id, hl⟩ := mem_libraries.mp hmem
    exact ⟨l, path, hall l hmem huser, by rw [hm.library_id hl, hl], hpath, rfl⟩

/-- Asks for the schemas of libraries only. -/
def schemaOptions : GenerationOptions :=
  { outputDir := "out", formats := { schemas := true } }

/-- The context of some roots in a model, with the schemas of libraries only. -/
def schemaContext (m : Model) (roots : List EntityId) : GenerationContext :=
  ({ model := m } : Generator).context schemaOptions (Scope.build m roots none) false

/-- With all user libraries in scope, a generation makes their schemas. -/
theorem exists_librarySchemas (cs : List Change) (roots : List EntityId)
    (hall : let m := run (cs ++ [.refresh])
      ∀ l ∈ m.libraries, l.builtIn = false → l.id ∈ (Scope.build m roots none).libraries) :
    let c := schemaContext (run (cs ++ [.refresh])) roots
    ∃ made, c.options.formats.targets.foldlM (Generator.emit c) ([], []) = .ok made ∧
      Unlinked made.1 ∧ ∀ d, d ∈ made.1 ↔ d ∈ c.librarySchemas := by
  intro c
  have hc : c.Closed := closed_context cs roots _
  obtain ⟨made, hemit, hmade⟩ := exists_emitted hc c.options.formats.targets
  refine ⟨made, hemit, unlinked_foldlM_emit unlinked_nil hemit, fun d => ?_⟩
  rw [hmade, ← mem_librarySchemas hc fun l hl huser => ?_]
  · show d ∈ [TargetFormat.xmlSchema].flatMap c.formatDocuments ↔ _
    rw [List.flatMap_singleton]
    rfl
  · obtain ⟨id, hid⟩ := mem_libraries.mp hl
    exact (Scope.mem_order_iff hc.settled.wellFormed).mpr
      ⟨hall l hl huser, l, by rw [hc.settled.wellFormed.library_id hid, hid], huser⟩

end

/-- A library in the namespace of the common one. -/
def commonRun : List Change :=
  [.add { sampleLibrary "OTM_Common" (some Builtin.commonNamespace) [] with builtIn := true } [],
    .add (sampleLibrary "More" (some Builtin.commonNamespace) [])
      [sampleMember "Mark" (.valueWithAttributes default)]]

/-- The schema of the library includes that of the common library, which none
imports. -/
theorem commonRun_links :
    let c := schemaContext (run (commonRun ++ [.refresh])) [⟨0⟩]
    ∃ made, c.options.formats.targets.foldlM (Generator.emit c) ([], []) = .ok made ∧
      ∃ d ∈ (linkedDocuments c made.1).1, Uncopied c made.1 d commonFile.path := by
  intro c
  obtain ⟨made, hemit, hunlinked, hmade⟩ :=
    exists_librarySchemas commonRun [⟨0⟩] (by decide +kernel)
  -- all documents are in the namespace of the common library, and refer to nothing else
  have hspaces : ∀ d ∈ c.librarySchemas, d.spaces = [Builtin.commonNamespace] := by decide +kernel
  have hpaths : ∀ d ∈ c.librarySchemas, d.path ≠ commonFile.path := by decide +kernel
  have hreferences : ∀ d ∈ c.librarySchemas, ∀ q ∈ d.schema.references,
      q = commonQName "Empty" := by decide +kernel
  have hnames : ∀ d ∈ c.librarySchemas, ∀ k ∈ d.schema.components, k.name ≠ "Empty" := by
    decide +kernel
  have hnone : ∀ d ∈ made.1, ∀ i, ∀ q ∈ d.schema.references, ¬ AsksImport c made.1 d i q := by
    rintro d hd i q hq ⟨hns, -, hother, -⟩
    rw [hreferences d ((hmade d).mp hd) q hq, commonQName, Option.some.injEq] at hns
    rw [hspaces d ((hmade d).mp hd), ← hns] at hother
    exact hother (List.mem_singleton_self _)
  obtain ⟨hnomade, hunimported⟩ := linkedDocuments_of_no_import hunlinked hnone
  have hplace : location? c made.1 Builtin.commonNamespace "Empty" = some commonFile.path := by
    have hundeclared : declaringPath? made.1 Builtin.commonNamespace "Empty" = none := by
      rw [declaringPath?, Option.map_eq_none_iff, List.find?_eq_none]
      intro t ht hspec
      rw [Bool.and_eq_true, List.any_eq_true] at hspec
      obtain ⟨-, k, hk, hname⟩ := hspec
      exact hnames t ((hmade t).mp ht) k hk (of_decide_eq_true hname)
    rw [location?, hundeclared]
    decide +kernel
  obtain ⟨d, hd, hq⟩ : ∃ d ∈ c.librarySchemas, commonQName "Empty" ∈ d.schema.references := by
    decide +kernel
  have hmem := (hmade d).mpr hd
  refine ⟨made, hemit, relink c made.1 d, relink_mem_linkedDocuments hmem, rfl, ?_, ?_, ?_, ?_⟩
  · refine (mem_includes_relink hunlinked hmem).mpr ⟨_, hq, Builtin.commonNamespace, rfl,
      by decide +kernel, ?_, hplace, (hpaths d hd).symm⟩
    rw [hspaces d hd]
    exact List.mem_singleton_self _
  · rw [spaces_relink, hspaces d hd]
    exact List.mem_singleton_self _
  · exact hunimported
  · rw [hnomade, List.append_nil, linkedDocuments_eq]
    intro t ht
    obtain ⟨t, hmem, rfl⟩ := List.mem_map.mp ht
    rw [path_relink]
    exact hpaths t ((hmade t).mp hmem)

end GenerationContext

namespace Xsd

open GenerationContext Model

/-- The locations in schemas are files of the same generation, but for one. Whatever
the model, the scope and the options: the file of each linked document is written, and
a location that one of them includes or imports is not written in one case only, where
it is the file of the common library, a document in the namespace of that library
includes it, and none imports it. -/
theorem location_unwritten_iff (c : GenerationContext) (formats : List TargetFormat)
    (made : Generator.Emitted) (h : formats.foldlM (Generator.emit c) ([], []) = .ok made) :
    let linked := linkedDocuments c made.1
    let paths := (consolidate c made.1).map OutputFile.path
    (∃ common, (common = [] ∨ common = [commonFile]) ∧
      consolidate c made.1 =
        (linked.1 ++ linked.2).map (Document.file (documentPrefixes c made.1)) ++ common) ∧
      ∀ d ∈ linked.1 ++ linked.2, d.path ∈ paths ∧
        ∀ l, d.PointsTo l → (l ∉ paths ↔ Uncopied c made.1 d l) := by
  intro linked paths
  have hunlinked : Unlinked made.1 := unlinked_foldlM_emit unlinked_nil h
  refine ⟨consolidate_eq c made.1, fun d hd => ⟨?_, fun l hl => ⟨fun hmissing => ?_, ?_⟩⟩⟩
  · exact mem_paths_consolidate.mpr (Or.inl ⟨d, hd, rfl⟩)
  · rcases List.mem_append.mp hd with hlinked | hmade
    · dsimp only [linked] at hlinked
      rw [linkedDocuments_eq] at hlinked
      obtain ⟨d, hmem, rfl⟩ := List.mem_map.mp hlinked
      rcases hl with hinclude | ⟨ns, himport⟩
      · exact uncopied_of_include hunlinked hmem hinclude hmissing
      · refine absurd ?_ hmissing
        rcases imports_relink_cases hunlinked hmem himport with
          ⟨k, hk, -, hplace⟩ | ⟨-, q, hq, hasks⟩
        · rw [Option.some.inj hplace]
          exact mem_paths_consolidate.mpr (Or.inl ⟨k, List.mem_append_right _ hk, rfl⟩)
        · exact written_of_asksImport hunlinked hmem hq hasks
    · -- a made document includes what others import
      obtain ⟨ns, -, -, himports, hincludes⟩ := made_cases hunlinked hmade
      rcases hl with hinclude | ⟨ns', himport⟩
      · obtain ⟨d, hd, q, hq, hasks⟩ := (hincludes l).mp hinclude
        exact absurd (written_of_asksImport hunlinked hd hq hasks) hmissing
      · rw [himports] at himport
        exact absurd himport List.not_mem_nil
  · exact unwritten_of_uncopied

theorem commonRun_uncopied :
    let c := schemaContext (run (commonRun ++ [.refresh])) [⟨0⟩]
    ∃ made, c.options.formats.targets.foldlM (Generator.emit c) ([], []) = .ok made ∧
      ∃ d ∈ (linkedDocuments c made.1).1, Uncopied c made.1 d commonFile.path ∧
        d.path ∈ (consolidate c made.1).map OutputFile.path ∧
        commonFile.path ∉ (consolidate c made.1).map OutputFile.path := by
  intro c
  obtain ⟨made, hemit, d, hd, huncopied⟩ := commonRun_links
  obtain ⟨hwritten, hlinks⟩ :=
    (location_unwritten_iff c _ made hemit).2 d (List.mem_append_left _ hd)
  exact ⟨made, hemit, d, hd, huncopied, hwritten,
    (hlinks _ (Or.inl huncopied.included)).mpr huncopied⟩

/-- A schema with a location that is not written. -/
theorem commonRun_unwritten :
    let c := schemaContext (run (commonRun ++ [.refresh])) [⟨0⟩]
    ∃ made, c.options.formats.targets.foldlM (Generator.emit c) ([], []) = .ok made ∧
      ∃ d ∈ (linkedDocuments c made.1).1, ∃ l ∈ d.schema.includes,
        l ∉ (consolidate c made.1).map OutputFile.path := by
  intro c
  obtain ⟨made, hemit, d, hd, huncopied⟩ := commonRun_links
  exact ⟨made, hemit, d, hd, _, huncopied.included, unwritten_of_uncopied huncopied⟩

end Xsd

end TravelModel
