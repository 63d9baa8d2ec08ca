import Mathlib.Logic.Relation
import TravelModel.Proofs.LinkTargets

/-!
# TravelModel — hosts and the includes of hosted libraries

A library without a namespace is in scope with its hosts, and its document is for them
to include. But an include is made for a name that is referred to, and for nothing
else: a hosted document whose names no document of a host needs is written, and no
document of that host leads to it.

Main results:

* `includes_iff_hasUseFor` — what a linked document includes is what it has use for.
* `exists_hosted_document` — the document of a library without a namespace.
* `host_reaches_iff` — a host leads to a document it hosts if a chain of uses does.
-/

namespace TravelModel

namespace Xsd

open GenerationContext Model

section

variable {c : GenerationContext} {documents : List Document}

/-! ## Documents of hosted libraries -/

/-- Formats add documents and take none away. -/
theorem subset_foldlM_emit {formats : List TargetFormat} {made made' : Generator.Emitted}
    (h : formats.foldlM (Generator.emit c) made = .ok made') : made.1 ⊆ made'.1 := by
  induction formats generalizing made with
  | nil =>
    cases h
    exact List.Subset.refl _
  | cons format rest ih =>
    rw [List.foldlM_cons] at h
    obtain ⟨next, hnext, h⟩ := exists_of_bind_eq_ok h
    refine List.Subset.trans ?_ (ih h)
    cases format with
    | xmlSchema | serviceSchema =>
      obtain ⟨documents, -, hnext⟩ := exists_of_bind_eq_ok hnext
      cases hnext
      exact List.subset_append_left _ _
    | jsonSchema | openApi | swagger =>
      obtain ⟨files, -, hnext⟩ := exists_of_bind_eq_ok hnext
      cases hnext
      exact List.Subset.refl _

/-- With schemas among the formats, the schemas of all libraries are made. -/
theorem libraryDocuments_of_foldlM_emit {formats : List TargetFormat}
    {made made' : Generator.Emitted} (hformat : .xmlSchema ∈ formats)
    (h : formats.foldlM (Generator.emit c) made = .ok made') :
    ∃ documents, libraryDocuments c = .ok documents ∧ documents ⊆ made'.1 := by
  induction formats generalizing made with
  | nil => exact absurd hformat List.not_mem_nil
  | cons format rest ih =>
    rw [List.foldlM_cons] at h
    obtain ⟨next, hnext, h⟩ := exists_of_bind_eq_ok h
    rcases List.mem_cons.mp hformat with rfl | hformat
    · obtain ⟨documents, hdocuments, hnext⟩ := exists_of_bind_eq_ok hnext
      cases hnext
      exact ⟨documents, hdocuments,
        List.Subset.trans (List.subset_append_right _ _) (subset_foldlM_emit h)⟩
    · exact ih hformat h

/-- A user library without a namespace has a document that is for its hosts. -/
theorem exists_hosted_document (h : libraryDocuments c = .ok documents) {l : Library}
    (hid : l.id ∈ c.order) (hl : c.model.library? l.id = some l) (huser : l.builtIn = false)
    (hchameleon : l.isChameleon) :
    ∃ t ∈ documents, t.library = some l.id ∧ t.schema.targetNamespace = none ∧
      t.hosts = c.libraryHosts l := by
  obtain ⟨parts, hparts, h⟩ := exists_of_bind_eq_ok h
  cases h
  obtain ⟨part, hpart, hstep⟩ := exists_mem_of_mapM hparts hid
  obtain ⟨-, -, hstep⟩ := exists_of_bind_eq_ok hstep
  obtain ⟨path, hpath⟩ := c.exists_libraryFile? huser (Or.inl rfl)
  rw [hl] at hstep
  dsimp only at hstep
  rw [libraryDocument, hpath] at hstep
  obtain ⟨components, -, hstep⟩ := exists_of_bind_eq_ok hstep
  cases hstep
  have hnone : c.libraryNamespace? l = none := by
    rw [libraryNamespace?, Option.isNone_iff_eq_none.mp hchameleon, Option.map_none]
  exact ⟨_, List.mem_flatten.mpr ⟨_, hpart, List.mem_singleton_self _⟩, rfl, hnone, rfl⟩

/-! ## Uses and includes -/

/-- A linked document has use for a file. Either it refers to a name of a namespace it
is in, and the name is found there; or it was made for a namespace, and a document of
another one refers to a name that is found there. -/
inductive HasUseFor (c : GenerationContext) (documents : List Document) :
    Document → String → Prop
  | refers {d : Document} {ns name l : String} (hd : d ∈ documents)
    (hreference : ⟨some ns, name⟩ ∈ d.schema.references) (hstandard : ns ≠ primitiveNamespace)
    (hown : ns ∈ d.spaces) (hplace : location? c documents ns name = some l)
    (hother : l ≠ d.path) : HasUseFor c documents (relink c documents d) l
  | gathers {k d : Document} {ns name l : String} (hk : k ∈ (linkedDocuments c documents).2)
    (htarget : k.schema.targetNamespace = some ns) (hd : d ∈ documents)
    (hreference : ⟨some ns, name⟩ ∈ d.schema.references) (hstandard : ns ≠ primitiveNamespace)
    (hforeign : ns ∉ d.spaces) (hplace : location? c documents ns name = some l) :
    HasUseFor c documents k l

/-- A document includes what it has use for, and nothing else. -/
theorem includes_iff_hasUseFor (h : Unlinked documents) {d : Document}
    (hd : d ∈ (linkedDocuments c documents).1 ++ (linkedDocuments c documents).2) {l : String} :
    l ∈ d.schema.includes ↔ HasUseFor c documents d l := by
  constructor
  · intro hl
    rcases List.mem_append.mp hd with hlinked | hmade
    · rw [linkedDocuments_eq] at hlinked
      obtain ⟨d, hmem, rfl⟩ := List.mem_map.mp hlinked
      obtain ⟨⟨_, name⟩, hq, ns, rfl, hstandard, hown, hplace, hother⟩ :=
        (mem_includes_relink h hmem).mp hl
      exact .refers hmem hq hstandard hown hplace hother
    · obtain ⟨ns, htarget, -, -, hincludes⟩ := made_cases h hmade
      obtain ⟨d, hd, ⟨_, name⟩, hq, rfl, hstandard, hforeign, hplace⟩ := (hincludes l).mp hl
      exact .gathers hmade htarget hd hq hstandard hforeign hplace
  · rintro (⟨hmem, hq, hstandard, hown, hplace, hother⟩ |
      ⟨hk, htarget, hmem, hq, hstandard, hforeign, hplace⟩)
    · exact (mem_includes_relink h hmem).mpr ⟨_, hq, _, rfl, hstandard, hown, hplace, hother⟩
    · obtain ⟨ns, htarget', -, -, hincludes⟩ := made_cases h hk
      rw [htarget, Option.some.injEq] at htarget'
      subst htarget'
      exact (hincludes l).mpr ⟨_, hmem, _, hq, rfl, hstandard, hforeign, hplace⟩

/-- One of some documents includes the file of another. -/
def Includes (all : List Document) (d t : Document) : Prop :=
  d ∈ all ∧ t ∈ all ∧ t.path ∈ d.schema.includes

/-- One of the linked documents has use for the file of another. -/
def Uses (c : GenerationContext) (documents : List Document) (d t : Document) : Prop :=
  let all := (linkedDocuments c documents).1 ++ (linkedDocuments c documents).2
  d ∈ all ∧ t ∈ all ∧ HasUseFor c documents d t.path

theorem includes_eq_uses (h : Unlinked documents) :
    Includes ((linkedDocuments c documents).1 ++ (linkedDocuments c documents).2) =
      Uses c documents := by
  funext d t
  exact propext (and_congr_right fun hd => and_congr_right fun _ => includes_iff_hasUseFor h hd)

/-- Includes lead to a document for which there is no use from itself only. -/
theorem eq_of_reaches (h : Unlinked documents) {d t : Document}
    (hunused : ∀ d, ¬ Uses c documents d t)
    (hreach : Relation.ReflTransGen
      (Includes ((linkedDocuments c documents).1 ++ (linkedDocuments c documents).2)) d t) :
    d = t := by
  rw [includes_eq_uses h] at hreach
  rcases Relation.ReflTransGen.cases_tail hreach with heq | ⟨last, -, hlast⟩
  · exact heq.symm
  · exact absurd hlast (hunused last)

end

/-! ## Hosts -/

/-- A host and a library that it hosts; the type of the host has a given base. -/
def hostRun (base : Option Reference) : List Change :=
  [.add (sampleLibrary "Host" (some "urn:host") ["Guest.otm"])
      [sampleMember "Name" (.simpleType { base })],
    .add (sampleLibrary "Guest" none []) [sampleMember "Code" (.simpleType {})]]

/-- Hosts lead to what they host as far as they use it. Whatever the model, the scope
and the options, for a generation that makes schemas: each user library without a
namespace has a document, which is for its hosts. A host namespace leads to that
document through includes, from one of the documents with that namespace, exactly if a
chain of uses leads from one of them to it: each document of the chain refers to a name
found in the next one, or was made for its namespace and gathers what others refer to.
So nothing leads to a hosted document that no document refers to. -/
theorem host_reaches_iff (c : GenerationContext) (formats : List TargetFormat)
    (made : Generator.Emitted) (h : formats.foldlM (Generator.emit c) ([], []) = .ok made) :
    let linked := linkedDocuments c made.1
    let all := linked.1 ++ linked.2
    (∃ common, (common = [] ∨ common = [commonFile]) ∧
      consolidate c made.1 =
        all.map (Document.file (documentPrefixes c made.1)) ++ common) ∧
      (.xmlSchema ∈ formats → ∀ l, l.id ∈ c.order → c.model.library? l.id = some l →
        l.builtIn = false → l.isChameleon → ∃ t ∈ linked.1, t.library = some l.id ∧
          t.schema.targetNamespace = none ∧ t.hosts = c.libraryHosts l) ∧
      ∀ t ∈ linked.1, t.schema.targetNamespace = none →
        (∀ ns ∈ t.hosts,
          (∃ d ∈ all, d.schema.targetNamespace = some ns ∧
            Relation.ReflTransGen (Includes all) d t) ↔
          ∃ d ∈ all, d.schema.targetNamespace = some ns ∧
            Relation.TransGen (Uses c made.1) d t) ∧
        ((∀ d, ¬ Uses c made.1 d t) →
          ∀ d ∈ all, Relation.ReflTransGen (Includes all) d t → d = t) := by
  intro linked all
  have hunlinked : Unlinked made.1 := unlinked_foldlM_emit unlinked_nil h
  refine ⟨consolidate_eq c made.1, ?_, ?_⟩
  · intro hformat l hid hl huser hchameleon
    obtain ⟨documents, hdocuments, hsubset⟩ := libraryDocuments_of_foldlM_emit hformat h
    obtain ⟨t, ht, hlibrary, htarget, hhosts⟩ :=
      exists_hosted_document hdocuments hid hl huser hchameleon
    exact ⟨relink c made.1 t, relink_mem_linkedDocuments (hsubset ht), by rwa [library_relink],
      by rwa [targetNamespace_relink], by rwa [hosts_relink]⟩
  · intro t _ htarget
    refine ⟨fun ns _ => ?_, fun hunused d _ => eq_of_reaches hunlinked hunused⟩
    have hedges : Includes all = Uses c made.1 := includes_eq_uses hunlinked
    rw [hedges]
    refine exists_congr fun d => and_congr_right fun _ => and_congr_right fun hspace => ?_
    rw [Relation.reflTransGen_iff_eq_or_transGen]
    -- a document of a host is not the hosted one
    refine or_iff_right fun heq => ?_
    rw [← heq, htarget] at hspace
    cases hspace

/-- A host whose type is based on one of the hosted library leads to its document. -/
theorem hostRun_reaches :
    let c := schemaContext (run (hostRun (some (.unbound "Code")) ++ [.refresh])) [⟨0⟩]
    ∃ made, c.options.formats.targets.foldlM (Generator.emit c) ([], []) = .ok made ∧
      let linked := linkedDocuments c made.1
      ∃ t ∈ linked.1, t.schema.targetNamespace = none ∧ t.hosts = ["urn:host"] ∧
        ∃ d ∈ linked.1 ++ linked.2, d.schema.targetNamespace = some "urn:host" ∧
          Relation.ReflTransGen (Includes (linked.1 ++ linked.2)) d t := by
  intro c
  obtain ⟨made, hemit, hunlinked, hmade⟩ :=
    exists_librarySchemas (hostRun (some (.unbound "Code"))) [⟨0⟩] (by decide +kernel)
  have hguests : ∀ d ∈ c.librarySchemas, "urn:host" ∈ d.spaces →
      (d.schema.components.any fun k => k.name = "Code") →
        d.schema.targetNamespace = none ∧ d.hosts = ["urn:host"] := by
    decide +kernel
  obtain ⟨guest, hguest, hspace, hdeclares⟩ : ∃ d ∈ c.librarySchemas, "urn:host" ∈ d.spaces ∧
      d.Declares .type "Code" := by
    decide +kernel
  obtain ⟨t, hfirst, ht, hspace⟩ :=
    exists_firstDeclaring? ((hmade guest).mpr hguest) hspace hdeclares
  have hspec := List.find?_some hfirst
  rw [Bool.and_eq_true] at hspec
  obtain ⟨htarget, hhosts⟩ := hguests t ((hmade t).mp ht) hspace hspec.2
  obtain ⟨d, hd, hnamespace, hq⟩ : ∃ d ∈ c.librarySchemas,
      d.schema.targetNamespace = some "urn:host" ∧
        ⟨some "urn:host", "Code"⟩ ∈ d.schema.references := by
    decide +kernel
  have hpaths : ∀ d ∈ c.librarySchemas, ∀ t ∈ c.librarySchemas,
      d.schema.targetNamespace = some "urn:host" → t.schema.targetNamespace = none →
        t.path ≠ d.path := by
    decide +kernel
  have huses : Uses c made.1 (relink c made.1 d) (relink c made.1 t) := by
    refine ⟨List.mem_append_left _ (relink_mem_linkedDocuments ((hmade d).mpr hd)),
      List.mem_append_left _ (relink_mem_linkedDocuments ht), ?_⟩
    rw [path_relink]
    refine .refers ((hmade d).mpr hd) hq (by decide) ?_ (location?_of_firstDeclaring? hfirst)
      (hpaths d hd t ((hmade t).mp ht) hnamespace htarget)
    rw [Document.spaces, hnamespace]
    exact List.mem_singleton_self _
  have hhosted : (relink c made.1 t).schema.targetNamespace = none := by
    rwa [targetNamespace_relink]
  have hlinked := relink_mem_linkedDocuments (c := c) ht
  refine ⟨made, hemit, _, hlinked, hhosted, by rwa [hosts_relink], ?_⟩
  refine (((host_reaches_iff c _ made hemit).2.2 _ hlinked hhosted).1 "urn:host" ?_).mpr
    ⟨_, huses.1, by rwa [targetNamespace_relink], .single huses⟩
  rw [hosts_relink, hhosts]
  exact List.mem_singleton_self _

/-- A model without findings whose host does not lead to the library it hosts: both
documents are written, and no document of the host namespace reaches the hosted one. -/
theorem hostRun_unreached :
    let m := run (hostRun none ++ [.refresh])
    let c := schemaContext m [⟨0⟩]
    (run (hostRun none)).refresh.2 = [] ∧
      ∃ made, c.options.formats.targets.foldlM (Generator.emit c) ([], []) = .ok made ∧
        let linked := linkedDocuments c made.1
        (∃ d ∈ linked.1, d.schema.targetNamespace = some "urn:host") ∧
        ∃ t ∈ linked.1, t.library = some ⟨1⟩ ∧ t.schema.targetNamespace = none ∧
          t.hosts = ["urn:host"] ∧ ¬ ∃ d ∈ linked.1 ++ linked.2,
            d.schema.targetNamespace = some "urn:host" ∧
              Relation.ReflTransGen (Includes (linked.1 ++ linked.2)) d t := by
  intro m c
  obtain ⟨made, hemit, hunlinked, hmade⟩ :=
    exists_librarySchemas (hostRun none) [⟨0⟩] (by decide +kernel)
  have hreferences : ∀ d ∈ c.librarySchemas, ∀ q ∈ d.schema.references,
      q.ns = some primitiveNamespace := by
    decide +kernel
  have hunused : ∀ d l, ¬ HasUseFor c made.1 d l := by
    intro d l huse
    cases huse with
    | refers hd hq hstandard =>
      exact hstandard (Option.some.inj (hreferences _ ((hmade _).mp hd) _ hq))
    | gathers _ _ hd hq hstandard =>
      exact hstandard (Option.some.inj (hreferences _ ((hmade _).mp hd) _ hq))
  obtain ⟨d, hd, hnamespace⟩ : ∃ d ∈ c.librarySchemas,
      d.schema.targetNamespace = some "urn:host" := by
    decide +kernel
  obtain ⟨t, ht, hlibrary, htarget, hhosts⟩ : ∃ t ∈ c.librarySchemas, t.library = some ⟨1⟩ ∧
      t.schema.targetNamespace = none ∧ t.hosts = ["urn:host"] := by
    decide +kernel
  refine ⟨by decide +kernel, made, hemit, ?_, ?_⟩
  · exact ⟨_, relink_mem_linkedDocuments ((hmade d).mpr hd), by rwa [targetNamespace_relink]⟩
  · refine ⟨_, relink_mem_linkedDocuments ((hmade t).mpr ht), by rwa [library_relink],
      by rwa [targetNamespace_relink], by rwa [hosts_relink], ?_⟩
    rintro ⟨d, -, hspace, hreach⟩
    rw [eq_of_reaches hunlinked (fun d huses => hunused d _ huses.2.2) hreach,
      targetNamespace_relink, htarget] at hspace
    cases hspace

end Xsd

end TravelModel
