import TravelModel.Proofs.Locations

/-!
# TravelModel — namespaces that links lead to

An include is for documents of one namespace, and an import for those of another. A
library without a namespace stands between: its document has none, and its names are
those of its hosts. So a link that is made for a name may lead to a document of
another namespace than the link is for.

Main results:

* `holds_of_location?` — what is in the file a name is found in.
* `include_fits`, `import_fits`, `made_include_fits` — where the links of a document
  lead.
* `links_fit_namespaces` — a link leads to a document of its namespace, unless it is
  one from a hosted library to its host, or one to a hosted library from elsewhere, or
  two documents have one file.
-/

namespace TravelModel

namespace Xsd

open GenerationContext Model

/-! ## Namespaces of linked documents -/

section

variable {c : GenerationContext} {documents : List Document}

/-- A file is for a document with a target namespace: one of the linked documents, or
the schema of the common library. -/
def Holds (c : GenerationContext) (documents : List Document) (l : String)
    (target : Option String) : Prop :=
  (∃ t ∈ (linkedDocuments c documents).1 ++ (linkedDocuments c documents).2,
    t.path = l ∧ t.schema.targetNamespace = target) ∨
    l = commonFile.path ∧ target = some Builtin.commonNamespace

/-- A file is for two documents whose target namespaces differ. -/
def Shared (c : GenerationContext) (documents : List Document) (l : String) : Prop :=
  ∃ target target', target ≠ target' ∧ Holds c documents l target ∧ Holds c documents l target'

theorem holds_unique {l : String} (h : ¬ Shared c documents l) {target target' : Option String}
    (ht : Holds c documents l target) (ht' : Holds c documents l target') : target = target' := by
  by_contra hne
  exact h ⟨target, target', hne, ht, ht'⟩

/-- A document without a namespace refers to a name of one of its hosts, and the name
is found in a file that is for a document of the host. -/
structure IncludesHost (c : GenerationContext) (documents : List Document) (d : Document)
    (l : String) (target : Option String) : Prop where
  hosted : d.schema.targetNamespace = none
  host : ∃ ns ∈ d.hosts, target = some ns ∧ ns ≠ primitiveNamespace ∧
    ∃ name, ⟨some ns, name⟩ ∈ d.schema.references ∧ location? c documents ns name = some l
  other : l ≠ d.path
  holds : Holds c documents l target

/-- A document refers to a name of another namespace that a hosted library declares
first, in a document without a namespace, and no second file of the namespace is in
use. -/
structure ImportsHosted (c : GenerationContext) (documents : List Document) (d : Document)
    (ns l : String) : Prop where
  other : ns ∉ d.spaces
  standard : ns ≠ primitiveNamespace
  first : ∃ name t, ⟨some ns, name⟩ ∈ d.schema.references ∧
    firstDeclaring? documents ns name = some t ∧ t ∈ documents ∧ t.path = l ∧
      t.schema.targetNamespace = none ∧ ns ∈ t.hosts
  only : ¬ Spread (linkAll c documents) ns

/-- The file a name is found in is for a document of its namespace, or for one without
a namespace that is hosted there. -/
theorem holds_of_location? {ns name l : String} (h : location? c documents ns name = some l) :
    Holds c documents l (some ns) ∨
      Holds c documents l none ∧ ∃ t, firstDeclaring? documents ns name = some t ∧
        t ∈ documents ∧ t.path = l ∧ t.schema.targetNamespace = none ∧ ns ∈ t.hosts := by
  rcases location?_cases h with ⟨t, ht, hfirst, hspace, hpath⟩ | ⟨rfl, rfl⟩
  · have hmem : relink c documents t ∈
        (linkedDocuments c documents).1 ++ (linkedDocuments c documents).2 :=
      List.mem_append_left _ (relink_mem_linkedDocuments ht)
    cases htarget : t.schema.targetNamespace with
    | some target =>
      rw [Document.spaces, htarget, List.mem_singleton] at hspace
      subst hspace
      exact Or.inl (Or.inl ⟨_, hmem, by rw [path_relink, hpath],
        by rw [targetNamespace_relink, htarget]⟩)
    | none =>
      rw [Document.spaces, htarget] at hspace
      exact Or.inr ⟨Or.inl ⟨_, hmem, by rw [path_relink, hpath], by
        rw [targetNamespace_relink, htarget]⟩, t, hfirst, ht, hpath, htarget, hspace⟩
  · exact Or.inl (Or.inr ⟨rfl, rfl⟩)

theorem include_fits (h : Unlinked documents) {d : Document} (hd : d ∈ documents) {l : String}
    (hl : l ∈ (relink c documents d).schema.includes) {target : Option String}
    (htarget : Holds c documents l target) :
    target = none ∨ target = d.schema.targetNamespace ∨
      IncludesHost c documents (relink c documents d) l target ∨ Shared c documents l := by
  by_cases hshared : Shared c documents l
  · exact Or.inr (Or.inr (Or.inr hshared))
  · obtain ⟨⟨_, name⟩, hq, ns, rfl, hprimitive, hown, hplace, hother⟩ :=
      (mem_includes_relink h hd).mp hl
    rcases holds_of_location? hplace with hfound | ⟨hfound, -⟩
    · have hsame := holds_unique hshared htarget hfound
      cases hnamespace : d.schema.targetNamespace with
      | some own =>
        rw [Document.spaces, hnamespace, List.mem_singleton] at hown
        exact Or.inr (Or.inl (hsame.trans (congrArg some hown)))
      | none =>
        rw [Document.spaces, hnamespace] at hown
        refine Or.inr (Or.inr (Or.inl ⟨by rw [targetNamespace_relink, hnamespace],
          ⟨ns, by rwa [hosts_relink], hsame, hprimitive, name, by rwa [references_relink], hplace⟩,
          by rwa [path_relink], htarget⟩))
    · exact Or.inl (holds_unique hshared htarget hfound)

/-- A reference to another namespace leads to a document of it, or to one that is
hosted there. -/
theorem asksImport_fits {d : Document} {ns l : String} {q : QName}
    (hasks : AsksImport c documents d ⟨ns, some l⟩ q) {target : Option String}
    (htarget : Holds c documents l target) (hshared : ¬ Shared c documents l) :
    target = some ns ∨ target = none ∧ ∃ t, firstDeclaring? documents ns q.name = some t ∧
      t ∈ documents ∧ t.path = l ∧ t.schema.targetNamespace = none ∧ ns ∈ t.hosts :=
  (holds_of_location? hasks.2.2.2).imp (holds_unique hshared htarget)
    (And.imp_left (holds_unique hshared htarget))

theorem import_fits (h : Unlinked documents) {d : Document} (hd : d ∈ documents) {ns l : String}
    (hl : ⟨ns, some l⟩ ∈ (relink c documents d).schema.imports) {target : Option String}
    (htarget : Holds c documents l target) :
    target = some ns ∨ target = none ∧ ImportsHosted c documents (relink c documents d) ns l ∨
      Shared c documents l := by
  by_cases hshared : Shared c documents l
  · exact Or.inr (Or.inr hshared)
  · rcases imports_relink_cases h hd hl with ⟨k, hk, hnamespace, hplace⟩ | ⟨honly, q, hq, hasks⟩
    · -- the document that was made for the namespace has it as its target
      have hmade : Holds c documents l (some ns) :=
        Or.inl ⟨k, List.mem_append_right _ hk, (Option.some.inj hplace).symm, hnamespace⟩
      exact Or.inl (holds_unique hshared htarget hmade)
    · rcases asksImport_fits hasks htarget hshared with hfits | ⟨hnone, t, hfirst⟩
      · exact Or.inl hfits
      · obtain ⟨hns, hprimitive, hother, -⟩ := hasks
        refine Or.inr (Or.inl ⟨hnone, by rwa [spaces_relink], hprimitive,
          ⟨q.name, t, ?_, hfirst⟩, honly⟩)
        rw [references_relink, ← hns]
        exact hq

/-- A made document includes documents of its namespace and hosted ones. -/
theorem made_include_fits (h : Unlinked documents) {k : Document}
    (hk : k ∈ (linkedDocuments c documents).2) {l : String} (hl : l ∈ k.schema.includes)
    {target : Option String} (htarget : Holds c documents l target) :
    target = none ∨ target = k.schema.targetNamespace ∨ Shared c documents l := by
  by_cases hshared : Shared c documents l
  · exact Or.inr (Or.inr hshared)
  · obtain ⟨ns, hnamespace, -, -, hincludes⟩ := made_cases h hk
    obtain ⟨d, -, q, -, hasks⟩ := (hincludes l).mp hl
    rcases asksImport_fits hasks htarget hshared with hfits | ⟨hnone, -⟩
    · exact Or.inr (Or.inl (hfits.trans hnamespace.symm))
    · exact Or.inl hnone

theorem includes_of_includesHost (h : Unlinked documents) {d : Document} (hd : d ∈ documents)
    {l : String} {target : Option String}
    (hhost : IncludesHost c documents (relink c documents d) l target) :
    l ∈ (relink c documents d).schema.includes ∧ target ≠ none ∧
      target ≠ (relink c documents d).schema.targetNamespace := by
  obtain ⟨hhosted, ⟨ns, hns, rfl, hprimitive, name, hq, hplace⟩, hother, -⟩ := hhost
  have hnone : d.schema.targetNamespace = none := by rwa [targetNamespace_relink] at hhosted
  have hown : ns ∈ d.spaces := by
    rw [Document.spaces, hnone]
    rwa [hosts_relink] at hns
  rw [references_relink] at hq
  rw [path_relink] at hother
  refine ⟨(mem_includes_relink h hd).mpr ⟨_, hq, ns, rfl, hprimitive, hown, hplace, hother⟩,
    Option.some_ne_none ns, ?_⟩
  rw [hhosted]
  exact Option.some_ne_none ns

theorem imports_of_importsHosted (h : Unlinked documents) {d : Document} (hd : d ∈ documents)
    {ns l : String} (hhosted : ImportsHosted c documents (relink c documents d) ns l) :
    ⟨ns, some l⟩ ∈ (relink c documents d).schema.imports ∧ Holds c documents l none := by
  obtain ⟨hother, hprimitive, ⟨name, t, hq, hfirst, ht, rfl, htarget, -⟩, honly⟩ := hhosted
  rw [spaces_relink] at hother
  rw [references_relink] at hq
  have hplace := location?_of_firstDeclaring? (c := c) hfirst
  have hlinked := linkedAs_redirectAll (c := c) (documentPrefixes c documents) h hd
  refine ⟨(hlinked.kept ⟨ns, some t.path⟩ honly).mpr
    (mem_imports_link.mpr (Or.inr ⟨_, hq, rfl, hprimitive, hother, hplace⟩)), Or.inl ?_⟩
  exact ⟨_, List.mem_append_left _ (relink_mem_linkedDocuments ht), path_relink t, by
    rw [targetNamespace_relink, htarget]⟩

end

/-! ## A hosted library and its host -/

/-- A library without a namespace that refers to its host, and a third library that
refers to the hosted one. -/
def guestRun : List Change :=
  [.add (sampleLibrary "Host" (some "urn:host") ["Guest.otm"])
      [sampleMember "Name" (.simpleType {})],
    .add (sampleLibrary "Guest" none [])
      [sampleMember "Code" (.simpleType { base := some (.unbound "Name") })],
    .add { sampleLibrary "User" (some "urn:user") [] with
        imports := [{ ns := some "urn:host", nsPrefix := some "h", fileHints := ["Host.otm"] }] }
      [sampleMember "Short" (.simpleType { base := some (.unbound "h:Code") })]]

/-- The run has no namespace with several files: `Code` is the only name that a document
refers to in another namespace. -/
theorem guestRun_not_spread {documents : List Document} (hunlinked : Unlinked documents) :
    let c := schemaContext (run (guestRun ++ [.refresh])) [⟨2⟩]
    (∀ d ∈ documents, d ∈ c.librarySchemas) → ∀ ns, ¬ Spread (linkAll c documents) ns := by
  intro c hmade
  have hreferences : ∀ d ∈ c.librarySchemas, ∀ q ∈ d.schema.references,
      q.ns = some primitiveNamespace ∨ (∃ ns ∈ d.spaces, q.ns = some ns) ∨
        q = ⟨some "urn:host", "Code"⟩ := by
    decide +kernel
  have hcode : ∀ ns l, ImportedFrom (linkAll c documents) ns l →
      location? c documents "urn:host" "Code" = some l := by
    intro ns l himported
    obtain ⟨d, hd, q, hq, hns, hprimitive, hother, hplace⟩ :=
      (importedFrom_linkAll hunlinked).mp himported
    rcases hreferences d (hmade d hd) q hq with h | ⟨own, hown, h⟩ | rfl
    · exact absurd (Option.some.inj (hns.symm.trans h)) hprimitive
    · rw [Option.some.inj (hns.symm.trans h)] at hother
      exact absurd hown hother
    · rw [← Option.some.inj hns] at hplace
      exact hplace
  rintro ns ⟨l, l', hne, hl, hl'⟩
  exact hne (Option.some.inj ((hcode ns l hl).symm.trans (hcode ns l' hl')))

/-- What the documents of the run refer to in one another. -/
theorem guestRun_references :
    let c := schemaContext (run (guestRun ++ [.refresh])) [⟨2⟩]
    ∃ made, c.options.formats.targets.foldlM (Generator.emit c) ([], []) = .ok made ∧
      Unlinked made.1 ∧ (∀ d, d ∈ made.1 ↔ d ∈ c.librarySchemas) ∧
      (linkedDocuments c made.1).2 = [] ∧
      (∃ d ∈ made.1, ImportsHosted c made.1 (relink c made.1 d) "urn:host" "Guest_1_0_0.xsd") ∧
      ∃ d ∈ made.1,
        IncludesHost c made.1 (relink c made.1 d) "Host_1_0_0.xsd" (some "urn:host") := by
  intro c
  obtain ⟨made, hemit, hunlinked, hmade⟩ :=
    exists_librarySchemas guestRun [⟨2⟩] (by decide +kernel)
  have honly : ∀ ns, ¬ Spread (linkAll c made.1) ns :=
    guestRun_not_spread hunlinked fun d hd => (hmade d).mp hd
  have hfirst : ∀ name, (∃ t ∈ c.librarySchemas, "urn:host" ∈ t.spaces ∧
      t.Declares .type name) → ∃ t ∈ c.librarySchemas,
        firstDeclaring? made.1 "urn:host" name = some t ∧ "urn:host" ∈ t.spaces ∧
          t.schema.components.any fun k => k.name = name := by
    rintro name ⟨t, ht, hspace, hdeclares⟩
    obtain ⟨first, hfirst, hmem, hspace⟩ :=
      exists_firstDeclaring? ((hmade t).mpr ht) hspace hdeclares
    have hspec := List.find?_some hfirst
    rw [Bool.and_eq_true] at hspec
    exact ⟨first, (hmade first).mp hmem, hfirst, hspace, hspec.2⟩
  refine ⟨made, hemit, hunlinked, hmade, ?_, ?_, ?_⟩
  · refine List.eq_nil_iff_forall_not_mem.mpr fun k hk => ?_
    obtain ⟨ns, -, hspread, -⟩ := made_cases hunlinked hk
    exact honly ns hspread
  · obtain ⟨t, ht, hfirst, hspace, hname⟩ := hfirst "Code" (by decide +kernel)
    have hguest : ∀ d ∈ c.librarySchemas, "urn:host" ∈ d.spaces →
        (d.schema.components.any fun k => k.name = "Code") → d.path = "Guest_1_0_0.xsd" ∧
          d.schema.targetNamespace = none ∧ "urn:host" ∈ d.hosts := by
      decide +kernel
    obtain ⟨hpath, htarget, hhost⟩ := hguest t ht hspace hname
    obtain ⟨d, hd, hother, hq⟩ : ∃ d ∈ c.librarySchemas, "urn:host" ∉ d.spaces ∧
        ⟨some "urn:host", "Code"⟩ ∈ d.schema.references := by
      decide +kernel
    exact ⟨d, (hmade d).mpr hd, by rwa [spaces_relink], by decide,
      ⟨"Code", t, by rwa [references_relink], hfirst, (hmade t).mpr ht, hpath, htarget, hhost⟩,
      honly _⟩
  · obtain ⟨t, ht, hfirst, hspace, hname⟩ := hfirst "Name" (by decide +kernel)
    have hhost : ∀ d ∈ c.librarySchemas, "urn:host" ∈ d.spaces →
        (d.schema.components.any fun k => k.name = "Name") → d.path = "Host_1_0_0.xsd" ∧
          d.schema.targetNamespace = some "urn:host" := by
      decide +kernel
    obtain ⟨hpath, htarget⟩ := hhost t ht hspace hname
    obtain ⟨d, hd, hnone, hhosts, hother, hq⟩ : ∃ d ∈ c.librarySchemas,
        d.schema.targetNamespace = none ∧ "urn:host" ∈ d.hosts ∧ d.path ≠ "Host_1_0_0.xsd" ∧
          ⟨some "urn:host", "Name"⟩ ∈ d.schema.references := by
      decide +kernel
    refine ⟨d, (hmade d).mpr hd, by rwa [targetNamespace_relink], ⟨"urn:host",
      by rwa [hosts_relink], rfl, by decide, "Name", by rwa [references_relink], ?_⟩,
      by rw [path_relink]; exact hother.symm, Or.inl ⟨relink c made.1 t, ?_, ?_, ?_⟩⟩
    · rw [location?_of_firstDeclaring? hfirst, hpath]
    · exact List.mem_append_left _ (relink_mem_linkedDocuments ((hmade t).mpr ht))
    · rw [path_relink, hpath]
    · rw [targetNamespace_relink, htarget]

/-- Links lead to documents of the right namespace. Whatever the model, the scope and
the options, and for every file that is the location of a link: an include leads to a
document with the same target namespace or with none, and an import to one with the
namespace it is for. This fails in three cases only: a document without a namespace
includes one of its hosts, a document imports a namespace from a document that is
hosted there and has none of its own, or two documents have one file. A reference as
in the first two cases always makes such a link. -/
theorem links_fit_namespaces (c : GenerationContext) (formats : List TargetFormat)
    (made : Generator.Emitted) (h : formats.foldlM (Generator.emit c) ([], []) = .ok made) :
    let linked := linkedDocuments c made.1
    (∃ common, (common = [] ∨ common = [commonFile]) ∧
      consolidate c made.1 =
        (linked.1 ++ linked.2).map (Document.file (documentPrefixes c made.1)) ++ common) ∧
      (∀ d ∈ linked.1 ++ linked.2, ∀ l ∈ d.schema.includes, ∀ target, Holds c made.1 l target →
        target = none ∨ target = d.schema.targetNamespace ∨ IncludesHost c made.1 d l target ∨
          Shared c made.1 l) ∧
      (∀ d ∈ linked.1 ++ linked.2, ∀ ns l, ⟨ns, some l⟩ ∈ d.schema.imports →
        ∀ target, Holds c made.1 l target →
          target = some ns ∨ target = none ∧ ImportsHosted c made.1 d ns l ∨ Shared c made.1 l) ∧
      (∀ d ∈ linked.1, ∀ l target, IncludesHost c made.1 d l target →
        l ∈ d.schema.includes ∧ target ≠ none ∧ target ≠ d.schema.targetNamespace) ∧
      ∀ d ∈ linked.1, ∀ ns l, ImportsHosted c made.1 d ns l →
        ⟨ns, some l⟩ ∈ d.schema.imports ∧ Holds c made.1 l none := by
  intro linked
  have hunlinked : Unlinked made.1 := unlinked_foldlM_emit unlinked_nil h
  have hlinked : linked.1 = made.1.map (relink c made.1) := by
    dsimp only [linked]
    rw [linkedDocuments_eq]
  refine ⟨consolidate_eq c made.1, ?_, ?_, ?_, ?_⟩
  · intro d hd l hl target htarget
    rcases List.mem_append.mp hd with hd | hd
    · rw [hlinked] at hd
      obtain ⟨d, hmem, rfl⟩ := List.mem_map.mp hd
      rw [targetNamespace_relink]
      exact include_fits hunlinked hmem hl htarget
    · exact (made_include_fits hunlinked hd hl htarget).imp_right (Or.imp_right Or.inr)
  · intro d hd ns l hl target htarget
    rcases List.mem_append.mp hd with hd | hd
    · rw [hlinked] at hd
      obtain ⟨d, hmem, rfl⟩ := List.mem_map.mp hd
      exact import_fits hunlinked hmem hl htarget
    · -- what is made for a namespace imports nothing
      obtain ⟨-, -, -, himports, -⟩ := made_cases hunlinked hd
      rw [himports] at hl
      exact absurd hl List.not_mem_nil
  · intro d hd l target hhost
    rw [hlinked] at hd
    obtain ⟨d, hmem, rfl⟩ := List.mem_map.mp hd
    exact includes_of_includesHost hunlinked hmem hhost
  · intro d hd ns l hhosted
    rw [hlinked] at hd
    obtain ⟨d, hmem, rfl⟩ := List.mem_map.mp hd
    exact imports_of_importsHosted hunlinked hmem hhosted

/-- The second of the links is one that a hosted document has to its host. -/
theorem guestRun_includes_host :
    let c := schemaContext (run (guestRun ++ [.refresh])) [⟨2⟩]
    ∃ made, c.options.formats.targets.foldlM (Generator.emit c) ([], []) = .ok made ∧
      ∃ d ∈ (linkedDocuments c made.1).1,
        IncludesHost c made.1 d "Host_1_0_0.xsd" (some "urn:host") ∧
        "Host_1_0_0.xsd" ∈ d.schema.includes ∧ some "urn:host" ≠ d.schema.targetNamespace := by
  intro c
  obtain ⟨made, hemit, -, -, -, -, guest, hguest, hinclude⟩ := guestRun_references
  have hmem := relink_mem_linkedDocuments (c := c) hguest
  obtain ⟨hincluded, -, hdiffer⟩ :=
    (links_fit_namespaces c _ made hemit).2.2.2.1 _ hmem _ _ hinclude
  exact ⟨made, hemit, _, hmem, hinclude, hincluded, hdiffer⟩

/-- A model without findings whose schemas have two links of the wrong namespace: one
document imports a namespace from a file whose document has none, and that document
includes one of a namespace. -/
theorem guestRun_unfit :
    let m := run (guestRun ++ [.refresh])
    let c := schemaContext m [⟨2⟩]
    (run guestRun).refresh.2 = [] ∧
      ∃ made, c.options.formats.targets.foldlM (Generator.emit c) ([], []) = .ok made ∧
        let linked := linkedDocuments c made.1
        (∃ d ∈ linked.1, ⟨"urn:host", some "Guest_1_0_0.xsd"⟩ ∈ d.schema.imports) ∧
        (∃ d ∈ linked.1, d.schema.targetNamespace = none ∧
          "Host_1_0_0.xsd" ∈ d.schema.includes) ∧
        (∃ t ∈ linked.1, t.path = "Guest_1_0_0.xsd") ∧ (∃ t ∈ linked.1, t.path = "Host_1_0_0.xsd") ∧
        ∀ t ∈ linked.1 ++ linked.2,
          (t.path = "Guest_1_0_0.xsd" → t.schema.targetNamespace = none) ∧
          (t.path = "Host_1_0_0.xsd" → t.schema.targetNamespace = some "urn:host") := by
  intro m c
  obtain ⟨made, hemit, hunlinked, hmade, hnomade, ⟨user, huser, himport⟩, guest, hguest,
    hinclude⟩ := guestRun_references
  have hpaths : (∃ t ∈ c.librarySchemas, t.path = "Guest_1_0_0.xsd") ∧
      (∃ t ∈ c.librarySchemas, t.path = "Host_1_0_0.xsd") := by
    decide +kernel
  have htargets : ∀ t ∈ c.librarySchemas,
      (t.path = "Guest_1_0_0.xsd" → t.schema.targetNamespace = none) ∧
        (t.path = "Host_1_0_0.xsd" → t.schema.targetNamespace = some "urn:host") := by
    decide +kernel
  have hlinked : ∀ path, (∃ t ∈ c.librarySchemas, t.path = path) →
      ∃ t ∈ (linkedDocuments c made.1).1, t.path = path := by
    rintro path ⟨t, ht, rfl⟩
    exact ⟨_, relink_mem_linkedDocuments ((hmade t).mpr ht), path_relink t⟩
  refine ⟨by decide +kernel, made, hemit, ?_, ?_, hlinked _ hpaths.1, hlinked _ hpaths.2, ?_⟩
  · exact ⟨_, relink_mem_linkedDocuments huser,
      (imports_of_importsHosted hunlinked huser himport).1⟩
  · exact ⟨_, relink_mem_linkedDocuments hguest, hinclude.hosted,
      (includes_of_includesHost hunlinked hguest hinclude).1⟩
  · rw [hnomade, List.append_nil, linkedDocuments_eq]
    intro t ht
    obtain ⟨t, hmem, rfl⟩ := List.mem_map.mp ht
    rw [path_relink, targetNamespace_relink]
    exact htargets t ((hmade t).mp hmem)

end Xsd

end TravelModel
