import Mathlib.Data.List.Forall2
import Mathlib.Data.List.Sort
import Mathlib.Data.String.Basic
import TravelModel.Proofs.Lists
import TravelModel.Proofs.SymbolTable
import TravelModel.Xsd.Linking

/-!
# TravelModel — links lose no file

Linking turns the names a schema refers to into includes and imports, one file
for each name; consolidation then lets every schema import a namespace from one
file only. Here both are read as sets of files: what a fold of links adds is what
its references ask for, and what consolidation takes away from one document a
made-up document includes.

Main results:

* `mem_includes_link`, `mem_imports_link` — what a linked document includes and
  imports is what its references ask for.
* `mem_importLocations`, `mem_spreadLocations` — the files of a namespace, in
  order, and which namespaces have several.
* `separate_assignPrefixes` — no two namespaces share a prefix, so that the
  made-up documents have files of different names.
* `consolidateImports_linkAll` — no location is lost.
-/

namespace TravelModel

namespace Xsd

/-! ## Sorted texts -/

theorem mem_sortedDistinct {items : List String} {x : String} :
    x ∈ Schema.sortedDistinct items ↔ x ∈ items := by
  rw [Schema.sortedDistinct, Keyed.ofList, Keyed.mem_keys_insertAll, List.map_map]
  simp [Keyed.keys]

theorem pairwise_sortedDistinct (items : List String) :
    (Schema.sortedDistinct items).Pairwise (· < ·) :=
  Keyed.pairwise_keys (Keyed.ordered_insertAll Keyed.ordered_nil _)

theorem sortedDistinct_congr {items items' : List String} (h : ∀ x, x ∈ items ↔ x ∈ items') :
    Schema.sortedDistinct items = Schema.sortedDistinct items' := by
  refine List.Pairwise.eq_of_mem_iff (pairwise_sortedDistinct items)
    (pairwise_sortedDistinct items') fun x => ?_
  rw [mem_sortedDistinct, mem_sortedDistinct, h]

/-! ## Links of one document -/

theorem mem_includes_addInclude {s : Schema} {l l' : String} :
    l ∈ (s.addInclude l').includes ↔ l ∈ s.includes ∨ l = l' := by
  rw [Schema.addInclude]
  split
  · next h =>
    rw [List.contains_iff_mem] at h
    constructor
    · exact Or.inl
    · rintro (hl | rfl)
      · exact hl
      · exact h
  · exact List.mem_append.trans (or_congr_right List.mem_singleton)

theorem mem_imports_addImport {s : Schema} {i : Import} {ns : String} {l : Option String} :
    i ∈ (s.addImport ns l).imports ↔ i ∈ s.imports ∨ i = ⟨ns, l⟩ := by
  rw [Schema.addImport]
  split
  · next h =>
    rw [List.contains_iff_mem] at h
    constructor
    · exact Or.inl
    · rintro (hi | rfl)
      · exact hi
      · exact h
  · exact List.mem_append.trans (or_congr_right List.mem_singleton)

@[simp] theorem imports_addInclude (s : Schema) (l : String) :
    (s.addInclude l).imports = s.imports := by
  rw [Schema.addInclude]
  split <;> rfl

@[simp] theorem includes_addImport (s : Schema) (ns : String) (l : Option String) :
    (s.addImport ns l).includes = s.includes := by
  rw [Schema.addImport]
  split <;> rfl

/-- A reference asks for the include of a file: it is one to the document's own
namespace, found elsewhere. -/
def AsksInclude (c : GenerationContext) (documents : List Document) (d : Document) (l : String)
    (q : QName) : Prop :=
  ∃ ns, q.ns = some ns ∧ ns ≠ primitiveNamespace ∧ ns ∈ d.spaces ∧
    location? c documents ns q.name = some l ∧ l ≠ d.path

/-- A reference asks for an import: it is one to another namespace. -/
def AsksImport (c : GenerationContext) (documents : List Document) (d : Document) (i : Import)
    (q : QName) : Prop :=
  q.ns = some i.ns ∧ i.ns ≠ primitiveNamespace ∧ i.ns ∉ d.spaces ∧
    location? c documents i.ns q.name = i.location

section

variable {c : GenerationContext} {documents : List Document} {d : Document}

theorem mem_includes_linkReference {s : Schema} {q : QName} {l : String} :
    l ∈ (linkReference c documents d s q).includes ↔
      l ∈ s.includes ∨ AsksInclude c documents d l q := by
  unfold linkReference AsksInclude
  cases hq : q.ns with
  | none => simp
  | some ns =>
    by_cases hprim : ns = primitiveNamespace
    · simp [hprim]
    · by_cases hown : ns ∈ d.spaces
      · -- an own name is included from where it is found, unless that is here
        have hcontains : d.spaces.contains ns = true := List.contains_iff_mem.mpr hown
        cases hplace : location? c documents ns q.name with
        | none => grind
        | some place => grind [mem_includes_addInclude]
      · grind [includes_addImport]

theorem mem_imports_linkReference {s : Schema} {q : QName} {i : Import} :
    i ∈ (linkReference c documents d s q).imports ↔
      i ∈ s.imports ∨ AsksImport c documents d i q := by
  obtain ⟨ins, il⟩ := i
  unfold linkReference AsksImport
  cases hq : q.ns with
  | none => simp
  | some ns =>
    by_cases hprim : ns = primitiveNamespace
    · grind
    · by_cases hown : ns ∈ d.spaces
      · have hcontains : d.spaces.contains ns = true := List.contains_iff_mem.mpr hown
        grind [imports_addInclude]
      · -- another namespace is imported from where the name is found, or from nowhere
        have hcontains : d.spaces.contains ns = false := by simpa using hown
        grind [mem_imports_addImport]

theorem linkReference_frame (c : GenerationContext) (documents : List Document) (d : Document)
    (s : Schema) (q : QName) :
    ∃ includes imports, linkReference c documents d s q = { s with includes, imports } := by
  unfold linkReference Schema.addInclude Schema.addImport
  dsimp only
  repeat' split
  all_goals exact ⟨_, _, rfl⟩

/-- Links change includes and imports only. -/
theorem link_frame (c : GenerationContext) (documents : List Document) (d : Document) :
    ∃ includes imports,
      link c documents d = { d with schema := { d.schema with includes, imports } } := by
  -- a step changes nothing else, whatever the steps before it added
  have hfold : ∀ (qs : List QName) (s : Schema), ∃ includes imports,
      qs.foldl (linkReference c documents d) s = { s with includes, imports } := by
    intro qs
    induction qs with
    | nil => exact fun s => ⟨s.includes, s.imports, rfl⟩
    | cons q rest ih =>
      intro s
      obtain ⟨includes, imports, hstep⟩ := linkReference_frame c documents d s q
      obtain ⟨includes', imports', hrest⟩ := ih (linkReference c documents d s q)
      rw [hstep] at hrest
      exact ⟨includes', imports', by rw [List.foldl_cons, hstep, hrest]⟩
  obtain ⟨includes, imports, hlinked⟩ := hfold d.schema.references d.schema
  rw [link, hlinked]
  exact ⟨_, _, rfl⟩

theorem mem_includes_link {l : String} :
    l ∈ (link c documents d).schema.includes ↔
      l ∈ d.schema.includes ∨ ∃ q ∈ d.schema.references, AsksInclude c documents d l q := by
  rw [link]
  dsimp only
  rw [List.mem_mergeSort]
  exact foldl_iff (P := fun s : Schema => l ∈ s.includes)
    (A := AsksInclude c documents d l) (fun _ _ => mem_includes_linkReference) _ _

theorem mem_imports_link {i : Import} :
    i ∈ (link c documents d).schema.imports ↔
      i ∈ d.schema.imports ∨ ∃ q ∈ d.schema.references, AsksImport c documents d i q := by
  rw [link]
  dsimp only
  rw [List.mem_mergeSort]
  exact foldl_iff (P := fun s : Schema => i ∈ s.imports)
    (A := AsksImport c documents d i) (fun _ _ => mem_imports_linkReference) _ _

end

/-! ## Where namespaces are imported from -/

/-- One of some documents imports a namespace from a file. -/
def ImportedFrom (documents : List Document) (ns l : String) : Prop :=
  ∃ d ∈ documents, ⟨ns, some l⟩ ∈ d.schema.imports

/-- Some documents import a namespace from two files or more. -/
def Spread (documents : List Document) (ns : String) : Prop :=
  ∃ l l', l ≠ l' ∧ ImportedFrom documents ns l ∧ ImportedFrom documents ns l'

/-- Enters the file of an import. -/
def enterLocation (acc : Keyed (List String)) (i : Import) : Keyed (List String) :=
  match i.location with
  | some l => acc.insert i.ns (Schema.sortedDistinct (l :: (acc.find? i.ns).getD []))
  | none => acc

theorem importLocations_eq (documents : List Document) :
    importLocations documents =
      (documents.flatMap fun d => d.schema.imports).foldl enterLocation [] :=
  rfl

theorem mem_find?_enterLocation {acc : Keyed (List String)} {i : Import} {ns l : String} :
    l ∈ ((enterLocation acc i).find? ns).getD [] ↔
      l ∈ (acc.find? ns).getD [] ∨ i = ⟨ns, some l⟩ := by
  obtain ⟨ins, il⟩ := i
  unfold enterLocation
  cases il with
  | none => simp
  | some place =>
    dsimp only
    rw [Keyed.find?_insert]
    by_cases hns : ns = ins
    · subst hns
      simp [mem_sortedDistinct, eq_comm, or_comm]
    · simp [hns, Ne.symm hns]

theorem mem_importLocations {documents : List Document} {ns l : String} :
    l ∈ ((importLocations documents).find? ns).getD [] ↔ ImportedFrom documents ns l := by
  rw [importLocations_eq, foldl_iff (P := fun acc => l ∈ (Keyed.find? ns acc).getD [])
    (A := fun i => i = ⟨ns, some l⟩) (fun _ _ => mem_find?_enterLocation)]
  simp [Keyed.find?, ImportedFrom]

/-- Namespaces are in order, and so are the files of each. -/
def Tidy (acc : Keyed (List String)) : Prop :=
  acc.Ordered ∧ ∀ ns files, (ns, files) ∈ acc → files.Pairwise (· < ·)

theorem tidy_enterLocation {acc : Keyed (List String)} (h : Tidy acc) (i : Import) :
    Tidy (enterLocation acc i) := by
  unfold enterLocation
  split
  · next l hl =>
    refine ⟨Keyed.ordered_insert h.1 _ _, fun ns files hmem => ?_⟩
    rcases Keyed.mem_insert hmem with heq | hmem
    · rw [(Prod.mk.inj heq).2]
      exact pairwise_sortedDistinct _
    · exact h.2 ns files hmem
  · exact h

theorem tidy_importLocations (documents : List Document) : Tidy (importLocations documents) := by
  rw [importLocations_eq]
  refine List.foldlRecOn _ enterLocation (motive := Tidy) ?_ fun acc h i _ => tidy_enterLocation h i
  exact ⟨Keyed.ordered_nil, fun ns files hmem => absurd hmem List.not_mem_nil⟩

/-- The namespaces that have several files, with these. -/
def spreadLocations (documents : List Document) : List (String × List String) :=
  (importLocations documents).filter fun e => e.2.length > 1

theorem mem_spreadLocations {documents : List Document} {ns : String} {files : List String}
    (h : (ns, files) ∈ spreadLocations documents) :
    files.Pairwise (· < ·) ∧ (∀ l, l ∈ files ↔ ImportedFrom documents ns l) ∧
      Spread documents ns := by
  obtain ⟨hmem, hlength⟩ := List.mem_filter.mp h
  obtain ⟨hordered, hsorted⟩ := tidy_importLocations documents
  have hfiles : ∀ l, l ∈ files ↔ ImportedFrom documents ns l := by
    intro l
    rw [← mem_importLocations, Keyed.find?_of_mem hordered hmem]
    rfl
  refine ⟨hsorted ns files hmem, hfiles, ?_⟩
  -- a sorted list of two or more starts with two different files
  have hpairwise := hsorted ns files hmem
  rcases files with _ | ⟨l, _ | ⟨l', rest⟩⟩
  · simp at hlength
  · simp at hlength
  · have hlt : l < l' := (List.pairwise_cons.mp hpairwise).1 l' List.mem_cons_self
    exact ⟨l, l', String.ne_of_lt hlt, (hfiles l).mp List.mem_cons_self,
      (hfiles l').mp (List.mem_cons_of_mem _ List.mem_cons_self)⟩

theorem exists_mem_spreadLocations {documents : List Document} {ns : String}
    (h : Spread documents ns) : ∃ files, (ns, files) ∈ spreadLocations documents := by
  obtain ⟨l, l', hne, hl, hl'⟩ := h
  rw [← mem_importLocations] at hl hl'
  cases hfind : (importLocations documents).find? ns with
  | none => simp [hfind] at hl
  | some files =>
    rw [hfind] at hl hl'
    refine ⟨files, List.mem_filter.mpr ⟨Keyed.mem_of_find? hfind, ?_⟩⟩
    -- two different files are among them
    have hsub : [l, l'] ⊆ files := by
      simpa using ⟨hl, hl'⟩
    have hlength := (show [l, l'].Nodup by simpa using hne).length_le_of_subset hsub
    simpa [Nat.lt_iff_add_one_le] using hlength

/-- No namespace is listed twice. -/
theorem nodup_spreadLocations (documents : List Document) :
    ((spreadLocations documents).map Prod.fst).Nodup := by
  have hordered := Keyed.ordered_filter (tidy_importLocations documents).1 fun e => e.2.length > 1
  exact List.pairwise_map.mpr (hordered.imp String.ne_of_lt)

/-! ## Redirected imports -/

/-- The file of the document that includes all files of a namespace. -/
def consolidationPath (prefixes : Keyed String) (ns : String) : String :=
  Naming.consolidationFile ((prefixes.find? ns).getD "ns")

/-- Lets a document import each of some namespaces from one file only. -/
def redirectAll (prefixes : Keyed String) (es : List (String × List String)) (d : Document) :
    Document :=
  es.foldl (fun d e => redirectImport e.1 (consolidationPath prefixes e.1) d) d

theorem consolidateImports_eq (prefixes : Keyed String) (documents : List Document) :
    consolidateImports prefixes documents =
      (documents.map (redirectAll prefixes (spreadLocations documents)),
        (spreadLocations documents).map fun e =>
          consolidationDocument e.1 (consolidationPath prefixes e.1) e.2) := by
  -- the loop runs over namespaces; what it does to one document does not depend on the others
  have hfold : ∀ (es : List (String × List String)) (ds made : List Document),
      es.foldl (fun p e =>
          (p.1.map (redirectImport e.1 (consolidationPath prefixes e.1)),
            p.2 ++ [consolidationDocument e.1 (consolidationPath prefixes e.1) e.2])) (ds, made) =
        (ds.map (redirectAll prefixes es),
          made ++ es.map fun e =>
            consolidationDocument e.1 (consolidationPath prefixes e.1) e.2) := by
    intro es
    induction es with
    | nil =>
      intro ds made
      rw [List.map_nil, List.append_nil, show redirectAll prefixes [] = id from rfl, List.map_id]
      rfl
    | cons e rest ih =>
      intro ds made
      rw [List.foldl_cons, ih, List.map_map, List.map_cons, List.append_assoc,
        List.singleton_append]
      rfl
  have h := hfold (spreadLocations documents) documents []
  rw [List.nil_append] at h
  rw [← h]
  rfl

theorem redirectImport_frame (ns path : String) (d : Document) :
    ∃ imports, redirectImport ns path d = { d with schema := { d.schema with imports } } := by
  unfold redirectImport Schema.addImport
  dsimp only
  repeat' split
  all_goals exact ⟨_, rfl⟩

theorem redirectAll_frame (prefixes : Keyed String) (es : List (String × List String))
    (d : Document) :
    ∃ imports, redirectAll prefixes es d = { d with schema := { d.schema with imports } } := by
  induction es generalizing d with
  | nil => exact ⟨d.schema.imports, rfl⟩
  | cons e rest ih =>
    obtain ⟨imports, hstep⟩ := redirectImport_frame e.1 (consolidationPath prefixes e.1) d
    obtain ⟨imports', hrest⟩ := ih { d with schema := { d.schema with imports } }
    refine ⟨imports', ?_⟩
    rw [redirectAll, List.foldl_cons, hstep]
    exact hrest

/-- The imports of one namespace. -/
def Document.importsOf (d : Document) (ns : String) : List Import :=
  d.schema.imports.filter fun i => i.ns = ns

theorem Document.mem_importsOf {d : Document} {ns : String} {i : Import} :
    i ∈ d.importsOf ns ↔ i ∈ d.schema.imports ∧ i.ns = ns := by
  rw [importsOf, List.mem_filter, decide_eq_true_iff]

theorem perm_importsOf_redirectImport {ns o : String} (h : o ≠ ns) (path : String) (d : Document) :
    ((redirectImport ns path d).importsOf o).Perm (d.importsOf o) := by
  unfold redirectImport
  split
  · -- the new import is of another namespace, and so are those that were dropped
    dsimp only [Document.importsOf]
    refine ((List.mergeSort_perm _ _).filter _).trans ?_
    have hkept : ∀ i : Import, (decide (i.ns = o) && !decide (i.ns = ns)) = decide (i.ns = o) := by
      intro i
      by_cases hi : i.ns = o
      · simp [hi, h]
      · simp [hi]
    unfold Schema.addImport
    split
    · simp [List.filter_filter, hkept]
    · simp [List.filter_append, List.filter_filter, hkept, Ne.symm h]
  · exact List.Perm.refl _

theorem importsOf_redirectImport_self {ns path : String} {d : Document}
    (h : d.importsOf ns ≠ []) : (redirectImport ns path d).importsOf ns = [⟨ns, some path⟩] := by
  obtain ⟨i, hi⟩ := List.exists_mem_of_ne_nil _ h
  rw [Document.mem_importsOf] at hi
  have hany : (d.schema.imports.any fun i => i.ns = ns) = true :=
    List.any_eq_true.mpr ⟨i, hi.1, decide_eq_true hi.2⟩
  rw [redirectImport, if_pos hany, Document.importsOf, ← List.perm_singleton]
  refine ((List.mergeSort_perm _ _).filter _).trans ?_
  unfold Schema.addImport
  split
  · next hmem => simp at hmem
  · simp [List.filter_append, List.filter_filter]

theorem perm_importsOf_redirectAll (prefixes : Keyed String) {es : List (String × List String)}
    {o : String} (h : o ∉ es.map Prod.fst) (d : Document) :
    ((redirectAll prefixes es d).importsOf o).Perm (d.importsOf o) := by
  induction es generalizing d with
  | nil => exact List.Perm.refl _
  | cons e rest ih =>
    rw [List.map_cons, List.mem_cons, not_or] at h
    exact (ih h.2 _).trans (perm_importsOf_redirectImport h.1 _ d)

theorem importsOf_redirectAll_of_mem (prefixes : Keyed String)
    {es : List (String × List String)} (hnodup : (es.map Prod.fst).Nodup) {o : String}
    (ho : o ∈ es.map Prod.fst) {d : Document} (hd : d.importsOf o ≠ []) :
    (redirectAll prefixes es d).importsOf o = [⟨o, some (consolidationPath prefixes o)⟩] := by
  induction es generalizing d with
  | nil => simp at ho
  | cons e rest ih =>
    rw [List.map_cons, List.nodup_cons] at hnodup
    by_cases heq : o = e.1
    · -- redirected now; the other namespaces leave it alone
      subst heq
      rw [← List.perm_singleton, ← importsOf_redirectImport_self hd]
      exact perm_importsOf_redirectAll prefixes hnodup.1 _
    · have hrest := (List.mem_cons.mp ho).resolve_left heq
      refine ih hnodup.2 hrest fun hnil => hd ?_
      have hperm := perm_importsOf_redirectImport heq (consolidationPath prefixes e.1) d
      rw [hnil] at hperm
      exact hperm.nil_eq.symm

theorem importsOf_redirectAll_eq_nil (prefixes : Keyed String)
    (es : List (String × List String)) {o : String} {d : Document} (hd : d.importsOf o = []) :
    (redirectAll prefixes es d).importsOf o = [] := by
  induction es generalizing d with
  | nil => exact hd
  | cons e rest ih =>
    refine ih ?_
    by_cases heq : o = e.1
    · -- nothing to redirect
      subst heq
      have hnone : ¬ (d.schema.imports.any fun i => i.ns = e.1) = true := by
        intro hany
        obtain ⟨i, hi, hns⟩ := List.any_eq_true.mp hany
        have hmem := Document.mem_importsOf.mpr ⟨hi, of_decide_eq_true hns⟩
        rw [hd] at hmem
        exact absurd hmem List.not_mem_nil
      dsimp only [redirectImport]
      rw [if_neg hnone]
      exact hd
    · have hperm := perm_importsOf_redirectImport heq (consolidationPath prefixes e.1) d
      rw [hd] at hperm
      exact hperm.eq_nil

/-! ## Prefixes -/

/-- Gives one more namespace a prefix. -/
def assignOne (preferred : Keyed String) (assigned : Keyed String) (ns : String) :
    Keyed String :=
  if assigned.contains ns then assigned
  else
    assigned.insert ns
      (SymbolTable.freshPrefix ((preferred.find? ns).getD "ns")
        ("xsd" :: "xml" :: assigned.map Prod.snd))

theorem assignPrefixes_eq (preferred : Keyed String) (namespaces : List String) :
    assignPrefixes preferred namespaces =
      namespaces.foldl (assignOne preferred) [(primitiveNamespace, "xsd")] :=
  rfl

theorem isSome_assignOne {preferred assigned : Keyed String} {ns ns' : String} :
    ((assignOne preferred assigned ns').find? ns).isSome ↔
      (assigned.find? ns).isSome ∨ ns' = ns := by
  unfold assignOne
  split
  · next h =>
    constructor
    · exact Or.inl
    · rintro (h' | rfl)
      · exact h'
      · exact h
  · rw [Keyed.find?_insert]
    by_cases hns : ns = ns'
    · simp [hns]
    · simp [hns, Ne.symm hns]

theorem isSome_assignPrefixes (preferred : Keyed String) {namespaces : List String} {ns : String}
    (h : ns ∈ namespaces) : ((assignPrefixes preferred namespaces).find? ns).isSome := by
  rw [assignPrefixes_eq, foldl_iff (P := fun assigned => (Keyed.find? ns assigned).isSome)
    (A := (· = ns)) (fun _ _ => isSome_assignOne)]
  exact Or.inr ⟨ns, h, rfl⟩

/-- No two namespaces have one prefix. -/
def Separate (assigned : Keyed String) : Prop :=
  ∀ ns ns' p, assigned.find? ns = some p → assigned.find? ns' = some p → ns = ns'

theorem separate_assignOne {preferred assigned : Keyed String} (h : Separate assigned)
    (new : String) : Separate (assignOne preferred assigned new) := by
  unfold assignOne
  split
  · exact h
  · -- the prefix of the new namespace is nobody else's
    have hfresh : ∀ ns p, assigned.find? ns = some p →
        p ≠ SymbolTable.freshPrefix ((preferred.find? new).getD "ns")
          ("xsd" :: "xml" :: assigned.map Prod.snd) := by
      rintro ns p hp rfl
      have hused := List.mem_map_of_mem (f := Prod.snd) (Keyed.mem_of_find? hp)
      exact SymbolTable.freshPrefix_not_mem ((preferred.find? new).getD "ns") _
        (List.mem_cons_of_mem _ (List.mem_cons_of_mem _ hused))
    intro ns ns' p hns hns'
    rw [Keyed.find?_insert] at hns hns'
    split at hns <;> split at hns'
    · next h₁ h₂ => rw [h₁, h₂]
    · exact absurd (Option.some.inj hns).symm (hfresh ns' p hns')
    · exact absurd (Option.some.inj hns').symm (hfresh ns p hns)
    · exact h ns ns' p hns hns'

theorem separate_assignPrefixes (preferred : Keyed String) (namespaces : List String) :
    Separate (assignPrefixes preferred namespaces) := by
  rw [assignPrefixes_eq]
  refine List.foldlRecOn _ (assignOne preferred) (motive := Separate) ?_
    fun assigned h ns _ => separate_assignOne h ns
  intro ns ns' p hns hns'
  rw [Keyed.find?_cons] at hns hns'
  split at hns <;> split at hns' <;> simp_all [Keyed.find?]

/-- The files of consolidation documents differ. -/
theorem consolidationPath_inj {preferred : Keyed String} {namespaces : List String}
    {ns ns' : String} (h : ns ∈ namespaces) (h' : ns' ∈ namespaces)
    (heq : consolidationPath (assignPrefixes preferred namespaces) ns =
      consolidationPath (assignPrefixes preferred namespaces) ns') : ns = ns' := by
  obtain ⟨p, hp⟩ := Option.isSome_iff_exists.mp (isSome_assignPrefixes preferred h)
  obtain ⟨p', hp'⟩ := Option.isSome_iff_exists.mp (isSome_assignPrefixes preferred h')
  rw [consolidationPath, consolidationPath, hp, hp', Naming.consolidationFile,
    Naming.consolidationFile] at heq
  have hprefixes : p = p' := (String.append_left_inj _).mp heq
  exact separate_assignPrefixes preferred namespaces ns ns' p hp (hprefixes ▸ hp')

/-! ## No location is lost -/

/-- Documents with their links. -/
def linkAll (c : GenerationContext) (documents : List Document) : List Document :=
  documents.map (link c documents)

/-- A file is that of a document or of a library that comes with the program. -/
def Taken (c : GenerationContext) (documents : List Document) (l : String) : Prop :=
  (∃ d ∈ documents, d.path = l) ∨ ∃ ns, builtinPath? c ns = some l

theorem taken_of_location? {c : GenerationContext} {documents : List Document} {ns name l : String}
    (h : location? c documents ns name = some l) : Taken c documents l := by
  rw [location?, Option.or_eq_some_iff] at h
  rcases h with hdeclared | ⟨-, hbuiltin⟩
  · rw [declaringPath?, Option.map_eq_some_iff] at hdeclared
    obtain ⟨d, hd, hpath⟩ := hdeclared
    exact Or.inl ⟨d, List.mem_of_find?_eq_some hd, hpath⟩
  · exact Or.inr ⟨ns, hbuiltin⟩

/-- Documents that are not linked yet. -/
def Unlinked (documents : List Document) : Prop :=
  ∀ d ∈ documents, d.schema.includes = [] ∧ d.schema.imports = []

instance (documents : List Document) : Decidable (Unlinked documents) :=
  inferInstanceAs (Decidable (∀ d ∈ documents, _))

theorem taken_of_importedFrom {c : GenerationContext} {documents : List Document}
    (h : Unlinked documents) {ns l : String} (hl : ImportedFrom (linkAll c documents) ns l) :
    Taken c documents l := by
  obtain ⟨k, hk, hmem⟩ := hl
  obtain ⟨d, hd, rfl⟩ := List.mem_map.mp hk
  rw [mem_imports_link, (h d hd).2] at hmem
  rcases hmem with hmem | ⟨q, -, -, -, -, hplace⟩
  · exact absurd hmem List.not_mem_nil
  · exact taken_of_location? hplace

/-- What becomes of a document `d`: `r` after its links were made and the imports
of namespaces with several files were redirected to the documents `made`. -/
structure LinkedAs (c : GenerationContext) (documents made : List Document) (d r : Document) :
    Prop where
  frame : ∃ includes imports, r = { d with schema := { d.schema with includes, imports } }
  own : ∀ ns name l, ⟨some ns, name⟩ ∈ d.schema.references → ns ≠ primitiveNamespace →
    location? c documents ns name = some l → ns ∈ d.spaces → l = d.path ∨ l ∈ r.schema.includes
  other : ∀ ns name l, ⟨some ns, name⟩ ∈ d.schema.references → ns ≠ primitiveNamespace →
    location? c documents ns name = some l → ns ∉ d.spaces →
      ⟨ns, some l⟩ ∈ r.schema.imports ∨
        ∃ k ∈ made, k.schema.targetNamespace = some ns ∧ l ∈ k.schema.includes ∧
          ⟨ns, some k.path⟩ ∈ r.schema.imports
  once : ∀ ns, Spread (linkAll c documents) ns → r.importsOf ns ≠ [] →
    ∃ k ∈ made, k.schema.targetNamespace = some ns ∧ r.importsOf ns = [⟨ns, some k.path⟩]
  kept : ∀ i : Import, ¬ Spread (linkAll c documents) i.ns →
    (i ∈ r.schema.imports ↔ i ∈ (link c documents d).schema.imports)
  notSelf : d.path ∉ r.schema.includes

section

variable {c : GenerationContext} {documents : List Document} (prefixes : Keyed String)

/-- The documents that include all files of a namespace. -/
def consolidations (prefixes : Keyed String) (documents : List Document) : List Document :=
  (spreadLocations documents).map fun e =>
    consolidationDocument e.1 (consolidationPath prefixes e.1) e.2

theorem mem_spaces_iff {ns : String} :
    ns ∈ (spreadLocations documents).map Prod.fst ↔ Spread documents ns := by
  constructor
  · intro h
    obtain ⟨⟨o, files⟩, he, rfl⟩ := List.mem_map.mp h
    exact (mem_spreadLocations he).2.2
  · intro h
    obtain ⟨files, he⟩ := exists_mem_spreadLocations h
    exact List.mem_map_of_mem he

theorem exists_consolidation {ns : String} (h : Spread documents ns) :
    ∃ k ∈ consolidations prefixes documents, k.schema.targetNamespace = some ns ∧
      k.path = consolidationPath prefixes ns ∧
      ∀ l, l ∈ k.schema.includes ↔ ImportedFrom documents ns l := by
  obtain ⟨files, he⟩ := exists_mem_spreadLocations h
  exact ⟨_, List.mem_map_of_mem he, rfl, rfl, (mem_spreadLocations he).2.1⟩

theorem linkedAs_redirectAll (h : Unlinked documents) {d : Document} (hd : d ∈ documents) :
    LinkedAs c documents (consolidations prefixes (linkAll c documents)) d
      (redirectAll prefixes (spreadLocations (linkAll c documents)) (link c documents d)) := by
  obtain ⟨includes, imports, hlink⟩ := link_frame c documents d
  obtain ⟨imports', hredirect⟩ :=
    redirectAll_frame prefixes (spreadLocations (linkAll c documents)) (link c documents d)
  -- includes stay, and so do the imports of namespaces with one file
  have hincludes : (redirectAll prefixes (spreadLocations (linkAll c documents))
      (link c documents d)).schema.includes = (link c documents d).schema.includes := by
    rw [hredirect]
  have hsame : ∀ i : Import, ¬ Spread (linkAll c documents) i.ns →
      (i ∈ (redirectAll prefixes (spreadLocations (linkAll c documents))
          (link c documents d)).schema.imports ↔
        i ∈ (link c documents d).schema.imports) := by
    intro i hi
    have hperm := perm_importsOf_redirectAll prefixes (mt mem_spaces_iff.mp hi)
      (link c documents d)
    have hmem := hperm.mem_iff (a := i)
    simpa [Document.mem_importsOf] using hmem
  -- the imports of a namespace with several files become one
  have hone : ∀ ns, Spread (linkAll c documents) ns →
      (link c documents d).importsOf ns ≠ [] →
      (redirectAll prefixes (spreadLocations (linkAll c documents))
        (link c documents d)).importsOf ns = [⟨ns, some (consolidationPath prefixes ns)⟩] :=
    fun ns hns hne => importsOf_redirectAll_of_mem prefixes (nodup_spreadLocations _)
      (mem_spaces_iff.mpr hns) hne
  refine ⟨?_, ?_, ?_, ?_, hsame, ?_⟩
  · rw [hredirect, hlink]
    exact ⟨_, _, rfl⟩
  · intro ns name l hq hprim hl hown
    rw [hincludes, mem_includes_link]
    by_cases hself : l = d.path
    · exact Or.inl hself
    · exact Or.inr (Or.inr ⟨_, hq, ns, rfl, hprim, hown, hl, hself⟩)
  · intro ns name l hq hprim hl hother
    have hasked : ⟨ns, some l⟩ ∈ (link c documents d).schema.imports :=
      mem_imports_link.mpr (Or.inr ⟨_, hq, rfl, hprim, hother, hl⟩)
    by_cases hns : Spread (linkAll c documents) ns
    · -- the import was redirected to a document that includes the file
      obtain ⟨k, hk, htarget, hpath, hfiles⟩ := exists_consolidation prefixes hns
      have hne := List.ne_nil_of_mem (Document.mem_importsOf.mpr ⟨hasked, rfl⟩)
      have himport : ⟨ns, some k.path⟩ ∈ (redirectAll prefixes
          (spreadLocations (linkAll c documents)) (link c documents d)).importsOf ns := by
        rw [hone ns hns hne, hpath]
        exact List.mem_singleton_self _
      exact Or.inr ⟨k, hk, htarget,
        (hfiles l).mpr ⟨_, List.mem_map_of_mem hd, hasked⟩,
        (Document.mem_importsOf.mp himport).1⟩
    · exact Or.inl ((hsame _ hns).mpr hasked)
  · intro ns hns hne
    have hne' : (link c documents d).importsOf ns ≠ [] := by
      intro hnil
      exact hne (importsOf_redirectAll_eq_nil prefixes _ hnil)
    obtain ⟨k, hk, htarget, hpath, -⟩ := exists_consolidation prefixes hns
    exact ⟨k, hk, htarget, by rw [hone ns hns hne', hpath]⟩
  · rw [hincludes, mem_includes_link, (h d hd).1]
    rintro (hmem | ⟨q, -, ns, -, -, -, -, hne⟩)
    · exact absurd hmem List.not_mem_nil
    · exact hne rfl

end

theorem mem_documentNamespaces_of_spread {documents : List Document} {ns : String}
    (h : Spread documents ns) : ns ∈ documentNamespaces documents := by
  obtain ⟨l, -, -, ⟨d, hd, hi⟩, -⟩ := h
  rw [documentNamespaces, mem_sortedDistinct, List.mem_flatMap]
  refine ⟨d, hd, List.mem_append_left _ ?_⟩
  rw [Schema.namespaces, mem_sortedDistinct]
  exact List.mem_append_left _ (List.mem_append_right _ (List.mem_map_of_mem hi))

theorem mem_namespaces_link {c : GenerationContext} {documents : List Document} {d : Document}
    {ns : String} :
    ns ∈ (link c documents d).schema.namespaces ↔ ns ∈ d.schema.namespaces := by
  obtain ⟨includes, imports, hlink⟩ := link_frame c documents d
  have himports : ∀ i, i ∈ imports ↔
      i ∈ d.schema.imports ∨ ∃ q ∈ d.schema.references, AsksImport c documents d i q := by
    intro i
    rw [← mem_imports_link, hlink]
  rw [hlink]
  simp only [Schema.namespaces, mem_sortedDistinct, List.mem_append, List.mem_map,
    List.mem_filterMap]
  constructor
  · rintro ((htarget | ⟨i, hi, rfl⟩) | hreference)
    · exact Or.inl (Or.inl htarget)
    · -- a new import has the namespace of a reference
      rcases (himports i).mp hi with hold | ⟨q, hq, hns, -⟩
      · exact Or.inl (Or.inr ⟨i, hold, rfl⟩)
      · exact Or.inr ⟨q, hq, hns⟩
    · exact Or.inr hreference
  · rintro ((htarget | ⟨i, hi, rfl⟩) | hreference)
    · exact Or.inl (Or.inl htarget)
    · exact Or.inl (Or.inr ⟨i, (himports i).mpr (Or.inl hi), rfl⟩)
    · exact Or.inr hreference

/-- Links bring in no namespace that was not there. -/
theorem documentNamespaces_linkAll (c : GenerationContext) (documents : List Document) :
    documentNamespaces (linkAll c documents) = documentNamespaces documents := by
  refine sortedDistinct_congr fun ns => ?_
  have hhosts : ∀ d, (link c documents d).hosts = d.hosts := by
    intro d
    obtain ⟨includes, imports, hlink⟩ := link_frame c documents d
    rw [hlink]
  simp only [linkAll, List.flatMap_map, List.mem_flatMap, List.mem_append, mem_namespaces_link,
    hhosts]

/-- Linking documents and redirecting their imports loses no location. Every
document still reaches each file one of its names was found in. A namespace that
is imported from several files, and no other, has one more document, with a file
of its own name, that includes just these files. Such a document includes itself
only if the name of its file was taken already. -/
theorem consolidateImports_linkAll (c : GenerationContext) (documents : List Document)
    (preferred : Keyed String) (h : Unlinked documents) :
    let linked := linkAll c documents
    let prefixes := assignPrefixes preferred (documentNamespaces linked)
    let result := consolidateImports prefixes linked
    List.Forall₂ (LinkedAs c documents result.2) documents result.1 ∧
      (∀ ns, Spread linked ns → ∃ k ∈ result.2, k.schema.targetNamespace = some ns) ∧
      (∀ k ∈ result.2, ∃ ns, k.schema.targetNamespace = some ns ∧ Spread linked ns ∧
        k.schema.includes.Pairwise (· < ·) ∧
        ∀ l, l ∈ k.schema.includes ↔ ImportedFrom linked ns l) ∧
      (result.2.map fun k => k.schema.targetNamespace).Nodup ∧
      (result.2.map Document.path).Nodup ∧
      ∀ k ∈ result.2, k.path ∈ k.schema.includes → Taken c documents k.path := by
  intro linked prefixes result
  have hresult : result = (linked.map (redirectAll prefixes (spreadLocations linked)),
      consolidations prefixes linked) := consolidateImports_eq prefixes linked
  have hmade : ∀ k ∈ result.2, ∃ ns, k.schema.targetNamespace = some ns ∧ Spread linked ns ∧
      k.schema.includes.Pairwise (· < ·) ∧
      ∀ l, l ∈ k.schema.includes ↔ ImportedFrom linked ns l := by
    rw [hresult]
    intro k hk
    obtain ⟨⟨ns, files⟩, he, rfl⟩ := List.mem_map.mp hk
    obtain ⟨hsorted, hfiles, hspread⟩ := mem_spreadLocations he
    exact ⟨ns, rfl, hspread, hsorted, hfiles⟩
  refine ⟨?_, ?_, hmade, ?_, ?_, ?_⟩
  · rw [hresult]
    show List.Forall₂ _ documents ((documents.map (link c documents)).map _)
    rw [List.map_map, List.forall₂_map_right_iff, List.forall₂_same]
    exact fun d hd => linkedAs_redirectAll prefixes h hd
  · rw [hresult]
    intro ns hns
    obtain ⟨k, hk, htarget, -⟩ := exists_consolidation prefixes hns
    exact ⟨k, hk, htarget⟩
  · rw [hresult]
    show ((consolidations prefixes linked).map _).Nodup
    rw [consolidations, List.map_map]
    have hnodup := (nodup_spreadLocations linked).map (f := some) fun _ _ => Option.some.inj
    rwa [List.map_map] at hnodup
  · rw [hresult]
    show ((consolidations prefixes linked).map _).Nodup
    rw [consolidations, List.map_map]
    -- a path is made from the prefix of a namespace, and no two share one
    have hnodup := (nodup_spreadLocations linked).map_on (f := consolidationPath prefixes)
      fun ns hns ns' hns' heq =>
        consolidationPath_inj (mem_documentNamespaces_of_spread (mem_spaces_iff.mp hns))
          (mem_documentNamespaces_of_spread (mem_spaces_iff.mp hns')) heq
    rwa [List.map_map] at hnodup
  · intro k hk hself
    obtain ⟨ns, -, -, -, hfiles⟩ := hmade k hk
    exact taken_of_importedFrom h ((hfiles k.path).mp hself)

/-- A schema file of a namespace, with types of lists of given items. -/
def sampleFile (path ns : String) (types : List (String × QName)) : Document :=
  { path, library := none, hosts := [], service := false
    schema :=
      { targetNamespace := some ns
        components := types.map fun t => .simpleType ⟨t.1, none, .list t.2⟩ } }

def sampleUser : Document :=
  sampleFile "m.xsd" "urn:m"
    [("Rows", ⟨some "urn:n", "Codes"⟩), ("Lists", ⟨some "urn:n", "Names"⟩)]

/-- Two files of one namespace, and a file that uses both. -/
def sampleFiles (first : String) : List Document :=
  [ sampleFile first "urn:n" [("Codes", .primitive "string")],
    sampleFile "n.xsd" "urn:n" [("Names", .primitive "string")],
    sampleUser ]

def sampleContext : GenerationContext :=
  { model := default, scope := default, options := default }

theorem importedFrom_sampleFiles (first : String) :
    ImportedFrom (linkAll sampleContext (sampleFiles first)) "urn:n" first ∧
      ImportedFrom (linkAll sampleContext (sampleFiles first)) "urn:n" "n.xsd" := by
  have huser : sampleUser ∈ sampleFiles first := by simp [sampleFiles]
  have hother : "urn:n" ∉ sampleUser.spaces := by decide
  have hprim : "urn:n" ≠ primitiveNamespace := by decide
  have hcodes : ⟨some "urn:n", "Codes"⟩ ∈ sampleUser.schema.references := by decide
  have hnames : ⟨some "urn:n", "Names"⟩ ∈ sampleUser.schema.references := by decide
  exact ⟨⟨_, List.mem_map_of_mem huser,
      mem_imports_link.mpr (Or.inr ⟨_, hcodes, rfl, hprim, hother, rfl⟩)⟩,
    ⟨_, List.mem_map_of_mem huser,
      mem_imports_link.mpr (Or.inr ⟨_, hnames, rfl, hprim, hother, rfl⟩)⟩⟩

theorem consolidateImports_sampleFiles :
    let linked := linkAll sampleContext (sampleFiles "o.xsd")
    let made := (consolidateImports (assignPrefixes [] (documentNamespaces linked)) linked).2
    Unlinked (sampleFiles "o.xsd") ∧
      ∃ k ∈ made, k.schema.targetNamespace = some "urn:n" ∧ "o.xsd" ∈ k.schema.includes ∧
        "n.xsd" ∈ k.schema.includes := by
  intro linked made
  have hunlinked : Unlinked (sampleFiles "o.xsd") := by decide
  obtain ⟨-, hspread, hmade, -⟩ :=
    consolidateImports_linkAll sampleContext (sampleFiles "o.xsd") [] hunlinked
  obtain ⟨hfirst, hsecond⟩ := importedFrom_sampleFiles "o.xsd"
  obtain ⟨k, hk, htarget⟩ := hspread "urn:n" ⟨_, _, by decide, hfirst, hsecond⟩
  obtain ⟨ns, hns, -, -, hfiles⟩ := hmade k hk
  rw [htarget, Option.some.injEq] at hns
  subst hns
  exact ⟨hunlinked, k, hk, htarget, (hfiles _).mpr hfirst, (hfiles _).mpr hsecond⟩

/-- A consolidation document that includes itself: a file of the namespace has the
name that is made up for it. -/
theorem consolidation_includes_itself :
    let linked := linkAll sampleContext (sampleFiles "n_ImportConsolidation.xsd")
    let prefixes := assignPrefixes [("urn:n", "n")] (documentNamespaces linked)
    ∃ k ∈ (consolidateImports prefixes linked).2, k.path ∈ k.schema.includes := by
  intro linked prefixes
  obtain ⟨hfirst, hsecond⟩ := importedFrom_sampleFiles "n_ImportConsolidation.xsd"
  obtain ⟨k, hk, -, hpath, hfiles⟩ :=
    exists_consolidation prefixes ⟨_, _, by decide, hfirst, hsecond⟩
  have hname : consolidationPath prefixes "urn:n" = "n_ImportConsolidation.xsd" := by
    dsimp only [prefixes, linked]
    rw [documentNamespaces_linkAll]
    decide +kernel
  refine ⟨k, ?_, ?_⟩
  · rw [consolidateImports_eq]
    exact hk
  · rw [hpath, hname]
    exact (hfiles _).mpr hfirst

end Xsd

end TravelModel
