import TravelModel.Proofs.LinkedSchemas
import TravelModel.Proofs.SchemaMarkup

/-!
# TravelModel — prefixes of a run

All schemas of a run share one table of prefixes, made from the namespaces of the linked
documents before imports are consolidated. A namespace keeps the prefix that its library
wants unless an earlier one has it; then a number is put behind it, and the number goes up
until nobody has the result, also not a namespace that wanted just that. Consolidation
brings in no namespace, so that the table has a prefix for every name that is written.

Main results:

* `sound_assignOne`, `sound_assignPrefixes` — what giving one more namespace a prefix keeps,
  and what holds of the whole table.
* `find?_assignPrefixes_of_free` — a wanted prefix that is free is kept.
* `mentions_of_mem_linkedDocuments` — consolidation brings in no namespace.
* `run_prefixes_sound` — every written prefix is declared and stands for the namespace of
  the name.
-/

namespace TravelModel

namespace Xsd

/-! ## The table -/

/-- What holds of a table of prefixes: each namespace is there once, no two have one prefix,
`xsd` belongs to the primitive types and `xml` to nobody. -/
structure Sound (assigned : Keyed String) : Prop where
  ordered : assigned.Ordered
  separate : Separate assigned
  primitive : assigned.find? primitiveNamespace = some "xsd"
  unreserved : ∀ ns, assigned.find? ns ≠ some "xml"

section

variable {preferred assigned : Keyed String} {ns new p : String}

theorem find?_assignOne_of_some (h : assigned.find? ns = some p) :
    (assignOne preferred assigned new).find? ns = some p := by
  unfold assignOne
  split
  · exact h
  · next hnew =>
    rw [Keyed.find?_insert, if_neg, h]
    rintro rfl
    rw [Keyed.contains, h] at hnew
    exact hnew rfl

theorem sound_assignOne (h : Sound assigned) (new : String) :
    Sound (assignOne preferred assigned new) := by
  refine ⟨?_, separate_assignOne h.separate new, find?_assignOne_of_some h.primitive, ?_⟩
  · unfold assignOne
    split
    · exact h.ordered
    · exact Keyed.ordered_insert h.ordered _ _
  · intro ns
    unfold assignOne
    split
    · exact h.unreserved ns
    · rw [Keyed.find?_insert]
      split
      · intro heq
        refine SymbolTable.freshPrefix_not_mem ((preferred.find? new).getD "ns")
          ("xsd" :: "xml" :: assigned.map Prod.snd) ?_
        rw [Option.some.inj heq]
        exact List.mem_cons_of_mem _ List.mem_cons_self
      · exact h.unreserved ns

theorem sound_start : Sound [(primitiveNamespace, "xsd")] := by
  refine ⟨List.pairwise_singleton _ _, separate_assignPrefixes [] [], rfl, fun ns => ?_⟩
  rw [Keyed.find?_cons]
  split
  · decide
  · exact nofun

theorem sound_assigned (preferred : Keyed String) (namespaces : List String)
    (h : Sound assigned) : Sound (namespaces.foldl (assignOne preferred) assigned) :=
  List.foldlRecOn namespaces (assignOne preferred) h fun _ h ns _ => sound_assignOne h ns

theorem sound_assignPrefixes (preferred : Keyed String) (namespaces : List String) :
    Sound (assignPrefixes preferred namespaces) :=
  sound_assigned preferred namespaces sound_start

theorem find?_assigned_of_some (preferred : Keyed String) (namespaces : List String)
    (h : assigned.find? ns = some p) :
    (namespaces.foldl (assignOne preferred) assigned).find? ns = some p :=
  List.foldlRecOn namespaces (assignOne preferred) (motive := fun a => a.find? ns = some p) h
    fun _ h _ _ => find?_assignOne_of_some h

/-- A wanted prefix that is not reserved and that no earlier namespace has is kept. -/
theorem find?_assignPrefixes_of_free {before after : List String}
    (hpreferred : (preferred.find? ns).getD "ns" = p) (hxsd : p ≠ "xsd") (hxml : p ≠ "xml")
    (hns : ns ≠ primitiveNamespace) (hnew : ns ∉ before)
    (hfree : ∀ o ∈ before, (assignPrefixes preferred (before ++ ns :: after)).find? o ≠ some p) :
    (assignPrefixes preferred (before ++ ns :: after)).find? ns = some p := by
  rw [assignPrefixes_eq, List.foldl_append, List.foldl_cons] at hfree ⊢
  -- the table when the turn of the namespace comes
  generalize hassigned : before.foldl (assignOne preferred) [(primitiveNamespace, "xsd")] =
    assigned at hfree ⊢
  have hsound : Sound assigned := hassigned ▸ sound_assigned preferred before sound_start
  have hkeys : ∀ o, (assigned.find? o).isSome → o = primitiveNamespace ∨ o ∈ before := by
    intro o ho
    rw [← hassigned, foldl_iff (P := fun assigned => (Keyed.find? o assigned).isSome)
      (A := (· = o)) (fun _ _ => isSome_assignOne), Keyed.find?_cons] at ho
    rcases ho with ho | ⟨b, hb, rfl⟩
    · split at ho
      · exact Or.inl ‹_›
      · exact absurd ho nofun
    · exact Or.inr hb
  have hunused : p ∉ "xsd" :: "xml" :: assigned.map Prod.snd := by
    simp only [List.mem_cons, hxsd, hxml, false_or, List.mem_map, not_exists, not_and]
    rintro ⟨o, q⟩ ho rfl
    have hfound := Keyed.find?_of_mem hsound.ordered ho
    rcases hkeys o (Option.isSome_of_eq_some hfound) with rfl | hbefore
    · exact hxsd (Option.some.inj (hfound.symm.trans hsound.primitive))
    · exact hfree o hbefore
        (find?_assigned_of_some preferred after (find?_assignOne_of_some hfound))
  have hturn : ¬assigned.contains ns := fun hthere => (hkeys ns hthere).elim hns hnew
  refine find?_assigned_of_some preferred after ?_
  unfold assignOne
  rw [if_neg hturn, Keyed.find?_insert, if_pos rfl, hpreferred,
    SymbolTable.freshPrefix_eq_self hunused]

end

/-! ## The namespaces of a run -/

/-- Where a document can mention a namespace. -/
inductive Document.Mentions (d : Document) (ns : String) : Prop where
  | target (h : d.schema.targetNamespace = some ns)
  | host (h : ns ∈ d.hosts)
  | imported {i : Import} (h : i ∈ d.schema.imports) (hns : i.ns = ns)
  | reference {q : QName} (h : q ∈ d.schema.references) (hns : q.ns = some ns)

theorem mentions_iff {d : Document} {ns : String} :
    d.Mentions ns ↔ ns ∈ d.schema.namespaces ∨ ns ∈ d.hosts := by
  rw [mem_namespaces]
  constructor
  · rintro (h | h | ⟨h, hns⟩ | ⟨h, hns⟩)
    · exact Or.inl (Or.inl h)
    · exact Or.inr h
    · exact Or.inl (Or.inr (Or.inl ⟨_, h, hns⟩))
    · exact Or.inl (Or.inr (Or.inr ⟨_, h, hns⟩))
  · rintro ((h | ⟨i, h, hns⟩ | ⟨q, h, hns⟩) | h)
    · exact .target h
    · exact .imported h hns
    · exact .reference h hns
    · exact .host h

theorem mem_documentNamespaces {documents : List Document} {ns : String} :
    ns ∈ documentNamespaces documents ↔ ∃ d ∈ documents, d.Mentions ns := by
  simp only [documentNamespaces, mem_sortedDistinct, List.mem_flatMap, List.mem_append,
    mentions_iff]

theorem exists_import_of_redirectImport {ns path : String} {d : Document} {i : Import}
    (h : i ∈ (redirectImport ns path d).schema.imports) :
    ∃ j ∈ d.schema.imports, j.ns = i.ns := by
  unfold redirectImport at h
  split at h
  · next hany =>
    rw [List.mem_mergeSort, mem_imports_addImport] at h
    rcases h with h | rfl
    · exact ⟨i, List.mem_of_mem_filter h, rfl⟩
    · simpa using hany
  · exact ⟨i, h, rfl⟩

theorem mentions_of_redirectAll (prefixes : Keyed String) {es : List (String × List String)}
    {d : Document} {ns : String} (h : (redirectAll prefixes es d).Mentions ns) : d.Mentions ns := by
  refine List.foldlRecOn es _ (motive := fun (r : Document) => r.Mentions ns → d.Mentions ns)
    id ?_ h
  intro r ih e _ h
  obtain ⟨imports, hframe⟩ := redirectImport_frame e.1 (consolidationPath prefixes e.1) r
  refine ih ?_
  cases h with
  | imported h hns =>
    obtain ⟨j, hj, hsame⟩ := exists_import_of_redirectImport h
    exact .imported hj (hsame.trans hns)
  | target h => exact .target (by rw [hframe] at h; exact h)
  | host h => exact .host (by rw [hframe] at h; exact h)
  | reference h hns => exact .reference (by rw [hframe] at h; exact h) hns

section

variable {c : GenerationContext} {documents : List Document}

theorem mentions_link {d : Document} {ns : String} :
    (link c documents d).Mentions ns ↔ d.Mentions ns := by
  obtain ⟨includes, imports, hlink⟩ := link_frame c documents d
  have hhosts : (link c documents d).hosts = d.hosts := by rw [hlink]
  rw [mentions_iff, mentions_iff, mem_namespaces_link, hhosts]

/-- Consolidation brings in no namespace. -/
theorem mentions_of_mem_linkedDocuments {d : Document} {ns : String}
    (hd : d ∈ (linkedDocuments c documents).1 ++ (linkedDocuments c documents).2)
    (h : d.Mentions ns) : ∃ o ∈ documents, o.Mentions ns := by
  rw [linkedDocuments_eq, List.mem_append] at hd
  rcases hd with hd | hd
  · obtain ⟨o, ho, rfl⟩ := List.mem_map.mp hd
    exact ⟨o, ho, mentions_link.mp (mentions_of_redirectAll _ h)⟩
  · -- a made document has a target that some linked document imports, and nothing else
    obtain ⟨⟨target, files⟩, he, rfl⟩ := List.mem_map.mp hd
    obtain ⟨l, -, -, ⟨r, hr, hi⟩, -⟩ := (mem_spreadLocations he).2.2
    obtain ⟨o, ho, rfl⟩ := List.mem_map.mp hr
    cases h with
    | target h =>
      obtain rfl := Option.some.inj h
      exact ⟨o, ho, mentions_link.mp (.imported hi rfl)⟩
    | host h => exact absurd h List.not_mem_nil
    | imported h => exact absurd h List.not_mem_nil
    | reference h => exact absurd h List.not_mem_nil

theorem documentPrefixes_eq : documentPrefixes c documents =
    assignPrefixes (preferredPrefixes c) (documentNamespaces documents) := by
  rw [documentPrefixes, documentNamespaces_linkAll]

/-- What a schema file is written from: a linked document or a made one. -/
def writtenDocuments (c : GenerationContext) (documents : List Document) : List Document :=
  (linkedDocuments c documents).1 ++ (linkedDocuments c documents).2

/-- The prefixes of a run are sound, whatever the model and the documents. Every namespace
that a document mentions, as it is given or as it is written, has one prefix; no two have
the same, the primitive types alone have `xsd`, and none has `xml`. A namespace other than
that of the primitive types keeps the prefix its library wants (`ns` if no library wants
one) unless that is one of these two or an earlier namespace has it. All files but the
schema of the common library are written from linked or made documents with these prefixes.
The names of types and elements that are written there are the references of the schema, in
order: without a namespace a name stands alone, otherwise behind a prefix that the root
declares for its namespace and for no other. -/
theorem run_prefixes_sound (c : GenerationContext) (documents : List Document) :
    let prefixes := documentPrefixes c documents
    (∀ d ∈ documents ++ writtenDocuments c documents, ∀ ns, d.Mentions ns →
      ∃! p, (ns, p) ∈ prefixes) ∧
    (∀ ns ns' p, (ns, p) ∈ prefixes → (ns', p) ∈ prefixes → ns = ns') ∧
    (∀ ns, (ns, "xsd") ∈ prefixes ↔ ns = primitiveNamespace) ∧
    (∀ ns, (ns, "xml") ∉ prefixes) ∧
    (∀ d ∈ documents, ∀ ns p, d.Mentions ns → ns ≠ primitiveNamespace →
      ((preferredPrefixes c).find? ns).getD "ns" = p → p ≠ "xsd" → p ≠ "xml" →
      (∀ o < ns, (o, p) ∉ prefixes) → (ns, p) ∈ prefixes) ∧
    (∀ f ∈ consolidate c documents, f = commonFile ∨
      ∃ d ∈ writtenDocuments c documents, f = d.file prefixes) ∧
    ∀ d ∈ writtenDocuments c documents,
      namesIn (d.schema.markup prefixes).elements =
        d.schema.references.map (QName.text prefixes) ∧
      ∀ q ∈ d.schema.references,
        (q.ns = none → q.text prefixes = q.name) ∧
        ∀ ns, q.ns = some ns → ∃ p, (ns, p) ∈ prefixes ∧
          q.text prefixes = p ++ ":" ++ q.name ∧ Declares (d.schema.markup prefixes) p ns := by
  intro prefixes
  have hprefixes : prefixes =
      assignPrefixes (preferredPrefixes c) (documentNamespaces documents) := documentPrefixes_eq
  have hsound : Sound prefixes := hprefixes ▸ sound_assignPrefixes _ _
  have hmem : ∀ ns p, (ns, p) ∈ prefixes ↔ prefixes.find? ns = some p := fun ns p =>
    ⟨Keyed.find?_of_mem hsound.ordered, Keyed.mem_of_find?⟩
  have hsome : ∀ d ∈ documents ++ writtenDocuments c documents, ∀ ns, d.Mentions ns →
      (prefixes.find? ns).isSome := by
    intro d hd ns hns
    rw [hprefixes]
    refine isSome_assignPrefixes _ (mem_documentNamespaces.mpr ?_)
    rcases List.mem_append.mp hd with hd | hd
    · exact ⟨d, hd, hns⟩
    · exact mentions_of_mem_linkedDocuments hd hns
  simp only [hmem]
  refine ⟨?_, hsound.separate, ?_, hsound.unreserved, ?_, ?_, ?_⟩
  · intro d hd ns hns
    obtain ⟨p, hp⟩ := Option.isSome_iff_exists.mp (hsome d hd ns hns)
    exact ⟨p, hp, fun p' hp' => Option.some.inj (hp'.symm.trans hp)⟩
  · refine fun ns => ⟨fun h => hsound.separate _ _ _ h hsound.primitive, ?_⟩
    rintro rfl
    exact hsound.primitive
  · intro d hd ns p hns hprimitive hp hxsd hxml hfree
    -- namespaces get their prefixes in order, so those before are the smaller ones
    have hthere : ns ∈ documentNamespaces documents := mem_documentNamespaces.mpr ⟨d, hd, hns⟩
    obtain ⟨before, after, hsplit⟩ := List.append_of_mem hthere
    have hless : ∀ o ∈ before, o < ns := by
      have hsorted := pairwise_sortedDistinct (documents.flatMap fun d =>
        d.schema.namespaces ++ d.hosts)
      rw [← documentNamespaces, hsplit, List.pairwise_append] at hsorted
      exact fun o ho => hsorted.2.2 o ho ns List.mem_cons_self
    rw [hprefixes, hsplit] at hfree ⊢
    exact find?_assignPrefixes_of_free hp hxsd hxml hprimitive
      (fun hmem => String.lt_irrefl ns (hless ns hmem)) fun o ho => hfree o (hless o ho)
  · intro f hf
    obtain ⟨common, hcommon, hconsolidate⟩ := consolidate_eq c documents
    rw [hconsolidate, List.mem_append] at hf
    rcases hf with hf | hf
    · obtain ⟨d, hd, rfl⟩ := List.mem_map.mp hf
      exact Or.inr ⟨d, hd, rfl⟩
    · rcases hcommon with rfl | rfl
      · exact absurd hf List.not_mem_nil
      · exact Or.inl (List.mem_singleton.mp hf)
  · intro d hd
    refine ⟨namesIn_markup d.schema, fun q hq => ⟨fun hnone => ?_, fun ns hns => ?_⟩⟩
    · rw [QName.text, hnone]
    · have hp := hsome d (List.mem_append_right _ hd) ns (.reference hq hns)
      obtain ⟨p, hcase, htext, hdeclares⟩ := declared_text hsound.separate
        (fun o _ hne ho => hne (hsound.separate o _ _ ho hsound.primitive)) hq hns fun _ => hp
      refine ⟨p, ?_, htext, hdeclares⟩
      rcases hcase with ⟨rfl, rfl⟩ | ⟨-, hfound⟩
      · exact hsound.primitive
      · exact hfound

end

/-- Three libraries, of which the last wants the prefix of the first. -/
def rivalContext : GenerationContext :=
  let add (name ns p : String) : Change :=
    .add { Model.sampleLibrary name (some ns) [] with nsPrefix := some p } []
  { sampleContext with
    model := Model.run
      [add "First" "urn:a" "t", add "Second" "urn:b" "t1", add "Third" "urn:c" "t"] }

/-- A file of each of the three libraries; the first uses the others. -/
def rivalFiles : List Document :=
  [ sampleFile "a.xsd" "urn:a"
      [("Rows", ⟨some "urn:b", "Codes"⟩), ("Cells", ⟨some "urn:c", "Codes"⟩)],
    sampleFile "b.xsd" "urn:b" [("Codes", .primitive "string")],
    sampleFile "c.xsd" "urn:c" [("Codes", .primitive "string")] ]

/-- The third library gets a number that runs into no prefix the second one wants, and the
first file says which namespace it stands for. -/
theorem rivalFiles_prefixes :
    let prefixes := documentPrefixes rivalContext rivalFiles
    ("urn:a", "t") ∈ prefixes ∧ ("urn:b", "t1") ∈ prefixes ∧ ("urn:c", "t2") ∈ prefixes ∧
      ∃ d ∈ writtenDocuments rivalContext rivalFiles, ∃ q ∈ d.schema.references,
        q.text prefixes = "t2:Codes" ∧ Declares (d.schema.markup prefixes) "t2" "urn:c" := by
  intro prefixes
  obtain ⟨-, -, -, -, hkept, -, hwritten⟩ := run_prefixes_sound rivalContext rivalFiles
  have hprefixes : prefixes =
      [ (primitiveNamespace, "xsd"), ("urn:a", "t"), ("urn:b", "t1"), ("urn:c", "t2") ] := by
    dsimp only [prefixes]
    rw [documentPrefixes_eq]
    decide +kernel
  have hsecond : ("urn:b", "t1") ∈ prefixes := by
    refine hkept (rivalFiles.get ⟨1, by decide⟩) (List.get_mem _ _) "urn:b" "t1" (.target rfl)
      (by decide) (by decide +kernel) (by decide) (by decide) fun o ho hmem => ?_
    rw [← show prefixes = documentPrefixes rivalContext rivalFiles from rfl, hprefixes] at hmem
    obtain rfl : o = "urn:b" := by simpa using hmem
    exact String.lt_irrefl _ ho
  let d := relink rivalContext rivalFiles (rivalFiles.get ⟨0, by decide⟩)
  have hd : d ∈ writtenDocuments rivalContext rivalFiles :=
    List.mem_append_left _ (relink_mem_linkedDocuments (List.get_mem _ _))
  have hq : ⟨some "urn:c", "Codes"⟩ ∈ d.schema.references := by
    rw [Schema.references, components_relink]
    decide
  obtain ⟨p, hp, htext, hdeclares⟩ := ((hwritten d hd).2 _ hq).2 "urn:c" rfl
  obtain rfl : p = "t2" := by
    rw [← show prefixes = documentPrefixes rivalContext rivalFiles from rfl, hprefixes] at hp
    simpa [primitiveNamespace] using hp
  exact ⟨by rw [hprefixes]; decide, hsecond, hp, d, hd, _, hq, htext, hdeclares⟩

end Xsd

end TravelModel
