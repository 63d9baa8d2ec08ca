import Mathlib.Data.List.Infix
import Mathlib.Data.String.Basic
import TravelModel.Files.Tree
import TravelModel.Proofs.Keyed

/-!
# TravelModel — places in a file tree

A path is followed component by component, and fails where a directory is missing.
Where it does not fail, the place it leads to depends on the text of the path and the
working directory alone, so that it stays the same while files are written. Two paths
that are written differently may lead to one place.

Main results:

* `Files.rawParts_join`, `Files.rawParts_slashed` — the parts of a joined path, and of
  one that was brought into the form that manifests have.
* `FileTree.locate_eq_ok` — when a path leads to a place, and to which.
* `FileTree.write_eq_ok` — when a file can be written, and what that changes.
* `FileTree.addsDirectories_createDirAll` — making directories makes nothing else, and changes
  nothing that is there.
* `FileTree.read?_slashed` — a file is read under the form of its path in manifests.
-/

namespace TravelModel

/-! ## Paths -/

namespace Files

theorem rawParts_append_slash (a b : String) :
    rawParts (a ++ "/" ++ b) = rawParts a ++ rawParts b := by
  have hlist : (a ++ "/" ++ b).toList = a.toList ++ '/' :: b.toList := by
    simp [String.toList_append]
  rw [rawParts, hlist, Text.splitChars_append_sep, List.filter_append, List.map_append]
  rfl

@[simp] theorem rawParts_empty : rawParts "" = [] := rfl

/-- A part of a path is a text without slashes. -/
theorem part_of_mem_rawParts {path part : String} (h : part ∈ rawParts path) :
    part ≠ "" ∧ '/' ∉ part.toList := by
  obtain ⟨cs, hcs, rfl⟩ := List.mem_map.mp h
  obtain ⟨hmem, hne⟩ := List.mem_filter.mp hcs
  rw [String.toList_ofList]
  refine ⟨fun hempty => ?_, Text.notMem_of_mem_splitChars hmem⟩
  have hnil : cs = [] := by simpa using congrArg String.toList hempty
  rw [hnil] at hne
  cases hne

theorem rawParts_part {part : String} (hne : part ≠ "") (hslash : '/' ∉ part.toList) :
    rawParts part = [part] := by
  have hlist : part.toList ≠ [] := by
    intro hnil
    exact hne (String.toList_injective hnil)
  rw [rawParts, Text.splitChars_of_notMem hslash]
  simp [hlist]

theorem rawParts_intercalate (parts : List String) :
    rawParts ("/".intercalate parts) = parts.flatMap rawParts := by
  induction parts with
  | nil => rfl
  | cons part rest ih =>
    cases rest with
    | nil =>
      rw [String.intercalate_singleton, List.flatMap_cons, List.flatMap_nil, List.append_nil]
    | cons next more =>
      rw [String.intercalate_cons_cons, rawParts_append_slash, ih]
      rfl

theorem flatMap_rawParts_of_parts (path : String) {parts : List String}
    (h : ∀ p ∈ parts, p ∈ rawParts path) : parts.flatMap rawParts = parts := by
  induction parts with
  | nil => rfl
  | cons p rest ih =>
    obtain ⟨hne, hslash⟩ := part_of_mem_rawParts (h p List.mem_cons_self)
    rw [List.flatMap_cons, rawParts_part hne hslash,
      ih fun q hq => h q (List.mem_cons_of_mem _ hq)]
    rfl

/-- Some of the `.` are left out. -/
inductive Undotted : List String → List String → Prop
  | nil : Undotted [] []
  | keep {part : String} {parts kept : List String} (h : Undotted parts kept) :
    Undotted (part :: parts) (part :: kept)
  | drop {parts kept : List String} (h : Undotted parts kept) : Undotted ("." :: parts) kept

theorem undotted_filter (parts : List String) : Undotted parts (parts.filter (· ≠ ".")) := by
  induction parts with
  | nil => exact .nil
  | cons part rest ih =>
    by_cases hdot : part = "."
    · subst hdot
      exact .drop (by simpa using ih)
    · rw [List.filter_cons_of_pos (by simpa using hdot)]
      exact .keep ih

theorem Undotted.append {parts kept : List String} (h : Undotted parts kept)
    (before : List String) : Undotted (before ++ parts) (before ++ kept) := by
  induction before with
  | nil => exact h
  | cons part rest ih => exact .keep ih

/-- In the form that manifests have, a path has the parts it had, with some of the `.`
left out. -/
theorem rawParts_slashed (path : String) : Undotted (rawParts path) (rawParts (slashed path)) := by
  have hfilter : ((rawParts path).filter (· ≠ ".")).flatMap rawParts =
      (rawParts path).filter (· ≠ ".") :=
    flatMap_rawParts_of_parts path fun p hp => List.mem_of_mem_filter hp
  rw [slashed, rawParts_intercalate, components]
  split
  · -- the root has no parts
    rw [List.flatMap_cons, hfilter]
    exact undotted_filter _
  · split
    · next rest hparts =>
      have hkept : ("." :: rest.filter (· ≠ ".")).flatMap rawParts =
          "." :: rest.filter (· ≠ ".") := by
        refine flatMap_rawParts_of_parts path fun p hp => ?_
        rw [hparts]
        exact List.mem_cons.mpr ((List.mem_cons.mp hp).imp_right List.mem_of_mem_filter)
      rw [hparts, hkept]
      exact .keep (undotted_filter rest)
    · rw [hfilter]
      exact undotted_filter _

/-- The parts of a path below another. -/
theorem rawParts_join (dir path : String) :
    rawParts (join dir path) =
      if isAbsolute path then rawParts path else rawParts dir ++ rawParts path := by
  rw [join]
  by_cases habsolute : isAbsolute path = true
  · simp [habsolute]
  · by_cases hempty : dir = ""
    · simp [habsolute, hempty]
    · simp only [habsolute, hempty]
      simp only [Bool.false_eq_true, decide_false, Bool.or_false, if_false]
      split
      · -- the slash is there already
        next hslash =>
        obtain ⟨before, hbefore⟩ := List.getLast?_eq_some_iff.mp hslash
        have hdir : dir = String.ofList before ++ "/" ++ "" := by
          apply String.toList_injective
          simp [hbefore]
        have hjoined : dir ++ path = String.ofList before ++ "/" ++ path := by
          apply String.toList_injective
          simp [hbefore]
        rw [hjoined, rawParts_append_slash, hdir, rawParts_append_slash, rawParts_empty,
          List.append_nil]
      · rw [rawParts_append_slash]

/-- A path without parts is empty or starts at the root. -/
theorem eq_empty_of_rawParts {path : String} (hparts : rawParts path = [])
    (h : isAbsolute path = false) : path = "" := by
  apply String.toList_injective
  cases hlist : path.toList with
  | nil => rfl
  | cons c rest =>
    have hc : c ≠ '/' := by
      rintro rfl
      simp [isAbsolute, hlist] at h
    rw [rawParts, hlist, Text.splitChars] at hparts
    split at hparts
    · simp at hparts
    · simp [hc] at hparts

theorem isAbsolute_join (dir path : String) :
    isAbsolute (join dir path) = (isAbsolute dir || isAbsolute path) := by
  rw [join]
  by_cases habsolute : isAbsolute path = true
  · simp [habsolute]
  · by_cases hempty : dir = ""
    · subst hempty
      simp [isAbsolute]
    · -- the first character is that of the directory
      have hne : dir.toList ≠ [] := fun hnil => hempty (String.toList_injective hnil)
      obtain ⟨c, rest, hdir⟩ := List.exists_cons_of_ne_nil hne
      simp only [habsolute, hempty]
      simp only [Bool.false_eq_true, decide_false, Bool.or_false, if_false]
      split <;> simp [isAbsolute, hdir]

theorem isAbsolute_slashed (path : String) : isAbsolute (slashed path) = isAbsolute path := by
  rw [slashed, components]
  split
  · next h =>
    rw [h]
    cases hparts : (rawParts path).filter (· ≠ ".") with
    | nil => simp [isAbsolute]
    | cons part rest => simp [isAbsolute]
  · next h =>
    -- the first character is that of a part
    have hfirst : ∀ parts : List String, (∀ p ∈ parts, p ∈ rawParts path) →
        isAbsolute ("/".intercalate parts) = false := by
      intro parts hparts
      cases parts with
      | nil => rfl
      | cons part rest =>
        obtain ⟨hne, hslash⟩ := part_of_mem_rawParts (hparts part List.mem_cons_self)
        have hlist : part.toList ≠ [] := fun hnil => hne (String.toList_injective hnil)
        obtain ⟨c, cs, hpart⟩ := List.exists_cons_of_ne_nil hlist
        rw [hpart, List.mem_cons, not_or] at hslash
        have hc : c ≠ '/' := Ne.symm hslash.1
        cases rest with
        | nil => simp [isAbsolute, hpart, hc]
        | cons next more => simp [isAbsolute, hpart, hc]
    rw [Bool.not_eq_true] at h
    rw [h]
    split
    · next rest hparts =>
      refine hfirst _ fun p hp => ?_
      rw [hparts]
      exact List.mem_cons.mpr ((List.mem_cons.mp hp).imp_right List.mem_of_mem_filter)
    · exact hfirst _ fun p hp => List.mem_of_mem_filter hp

/-- The last component of a path is one of its parts, unless it names nothing but the
root. -/
theorem exists_last_component {path part : String} (hpart : part ∈ rawParts path)
    (h : part ≠ "." ∨ isAbsolute path = false) :
    ∃ before last, components path = before ++ [last] ∧ last ∈ rawParts path := by
  have hlast : ∀ {parts : List String} (first : List String), parts ≠ [] →
      (∀ p ∈ parts, p ∈ rawParts path) →
        ∃ before last, first ++ parts = before ++ [last] ∧ last ∈ rawParts path := by
    intro parts first hne hparts
    refine ⟨first ++ parts.dropLast, parts.getLast hne, ?_, hparts _ (List.getLast_mem hne)⟩
    rw [List.append_assoc, List.dropLast_append_getLast hne]
  rw [components]
  split
  · next habsolute =>
    rw [habsolute] at h
    have hdot : part ≠ "." := h.resolve_right (by decide)
    refine hlast ["/"] ?_ fun p hp => List.mem_of_mem_filter hp
    exact List.ne_nil_of_mem (List.mem_filter.mpr ⟨hpart, by simpa using hdot⟩)
  · split
    · next rest hparts =>
      refine hlast [] (List.cons_ne_nil _ _) fun p hp => ?_
      rw [hparts]
      exact List.mem_cons.mpr ((List.mem_cons.mp hp).imp_right List.mem_of_mem_filter)
    · next hfirst =>
      refine hlast [] ?_ fun p hp => List.mem_of_mem_filter hp
      -- a first part other than `.` is kept
      cases hparts : rawParts path with
      | nil =>
        rw [hparts] at hpart
        exact absurd hpart List.not_mem_nil
      | cons first rest =>
        have hdot : first ≠ "." := by
          rintro rfl
          exact hfirst rest hparts
        rw [List.filter_cons_of_pos (by simpa using hdot)]
        exact List.cons_ne_nil _ _

theorem suffix_intercalate (before : List String) (last : String) :
    last.toList <:+ ("/".intercalate (before ++ [last])).toList := by
  by_cases hbefore : before = []
  · simp [hbefore]
  · rw [String.intercalate_append_of_ne_nil hbefore (List.cons_ne_nil _ _),
      String.intercalate_singleton, String.toList_append]
    exact List.suffix_append _ _

/-- In the form that manifests have, a path ends in a part and not in a slash. -/
theorem getLast?_join_slashed (dir : String) {path part : String} (hpart : part ∈ rawParts path)
    (h : part ≠ "." ∨ isAbsolute path = false) :
    ∃ c, (join dir (slashed path)).toList.getLast? = some c ∧ c ≠ '/' := by
  obtain ⟨before, last, hcomponents, hlast⟩ := exists_last_component hpart h
  obtain ⟨hne, hslash⟩ := part_of_mem_rawParts hlast
  have hlist : last.toList ≠ [] := fun hnil => hne (String.toList_injective hnil)
  have hsuffix : last.toList <:+ (join dir (slashed path)).toList := by
    have hslashed : last.toList <:+ (slashed path).toList := by
      rw [slashed, hcomponents]
      exact suffix_intercalate before last
    rw [join]
    split
    · exact hslashed
    · split
      · rw [String.toList_append]
        exact List.suffix_append_of_suffix hslashed
      · rw [String.toList_append]
        exact List.suffix_append_of_suffix hslashed
  obtain ⟨front, hfront⟩ := hsuffix
  rw [← hfront, List.getLast?_append_of_ne_nil _ hlist, List.getLast?_eq_some_getLast hlist]
  exact ⟨_, rfl, fun heq => hslash (heq ▸ List.getLast_mem hlist)⟩

end Files

/-! ## Places -/

namespace FileTree

theorem placeText_append (place : List String) (name : String) :
    placeText (place ++ [name]) = placeText place ++ "/" ++ name := by
  apply String.toList_injective
  simp [placeText, String.toList_join]

theorem placeText_eq_empty {place : List String} : placeText place = "" ↔ place = [] := by
  constructor
  · intro h
    cases place with
    | nil => rfl
    | cons name rest =>
      have hlist := congrArg String.toList h
      simp [placeText, String.toList_join] at hlist
  · rintro rfl
    rfl

/-- What is found at a place depends on its text. -/
theorem nodeAt?_congr (t : FileTree) {place place' : List String}
    (h : placeText place = placeText place') : t.nodeAt? place = t.nodeAt? place' := by
  by_cases hplace : place = []
  · rw [hplace, eq_comm, show placeText [] = "" from rfl, placeText_eq_empty] at h
    rw [hplace, h]
  · have hplace' : place' ≠ [] := by
      rintro rfl
      exact hplace (placeText_eq_empty.mp h)
    rw [nodeAt?, nodeAt?, h]
    simp [hplace, hplace']

theorem isDirAt_iff {t : FileTree} {place : List String} :
    t.isDirAt place = true ↔ t.nodeAt? place = some .directory := by
  rw [isDirAt]
  split
  · next h => simp [h]
  · next h =>
    simp only [Bool.false_eq_true, false_iff]
    exact h

theorem nodeAt?_putAt (t : FileTree) {place : List String} (hplace : place ≠ [])
    (node : FileNode) (other : List String) :
    (t.putAt place node).nodeAt? other =
      if placeText other = placeText place then some node else t.nodeAt? other := by
  by_cases hother : other = []
  · have hne : placeText [] ≠ placeText place := fun h => hplace (placeText_eq_empty.mp h.symm)
    rw [hother, if_neg hne]
    rfl
  · rw [nodeAt?, nodeAt?, putAt, Keyed.find?_insert]
    simp [hother]

/-- The place one component further. -/
def along (place : List String) (component : String) : List String :=
  if component = "." then place else if component = ".." then place.dropLast
  else place ++ [component]

/-- The place a path leads to, if it leads to one. -/
def placeOf (t : FileTree) (path : String) : List String :=
  (Files.rawParts path).foldl along (t.start path)

/-- The text of the place a path leads to. -/
def spot (t : FileTree) (path : String) : String :=
  placeText (t.placeOf path)

/-- A component that a system takes. -/
def Usable (component : String) : Prop :=
  component = "." ∨ component = ".." ∨
    '\x00' ∉ component.toList ∧ component.utf8ByteSize ≤ 255

instance (component : String) : Decidable (Usable component) :=
  inferInstanceAs (Decidable (_ ∨ _ ∨ _ ∧ _))

theorem step_eq_ok {t : FileTree} {place next : List String} {component : String} :
    t.step place component = .ok next ↔
      t.isDirAt place = true ∧ Usable component ∧ next = along place component := by
  rw [isDirAt_iff, step, along, Usable, named]
  cases hnode : t.nodeAt? place with
  | none => simp
  | some node =>
    cases node with
    | file bytes => simp
    | directory =>
      by_cases hdot : component = "."
      · simp [hdot, eq_comm]
      · by_cases hup : component = ".."
        · simp [hup, eq_comm]
        · by_cases hzero : '\x00' ∈ component.toList
          · simp [hdot, hup, hzero]
          · by_cases hsize : component.utf8ByteSize ≤ 255
            · simp [hdot, hup, hzero, hsize, eq_comm]
            · simp [hdot, hup, hzero, hsize]

/-- Components can be followed from a place: there is a directory at each step. -/
inductive Passes (t : FileTree) : List String → List String → Prop
  | nil (place : List String) : Passes t place []
  | cons {place rest : List String} {component : String} (hdir : t.isDirAt place = true)
    (husable : Usable component) (hrest : Passes t (along place component) rest) :
    Passes t place (component :: rest)

theorem passes_cons {t : FileTree} {place rest : List String} {component : String} :
    t.Passes place (component :: rest) ↔
      t.isDirAt place = true ∧ Usable component ∧ t.Passes (along place component) rest := by
  constructor
  · rintro (_ | ⟨hdir, husable, hrest⟩)
    exact ⟨hdir, husable, hrest⟩
  · rintro ⟨hdir, husable, hrest⟩
    exact .cons hdir husable hrest

theorem foldlM_step_eq_ok {t : FileTree} {parts place next : List String} :
    parts.foldlM t.step place = .ok next ↔
      t.Passes place parts ∧ next = parts.foldl along place := by
  induction parts generalizing place with
  | nil =>
    show Except.ok place = Except.ok next ↔ _
    simp [Passes.nil, eq_comm]
  | cons component rest ih =>
    rw [List.foldlM_cons, passes_cons, List.foldl_cons]
    cases hstep : t.step place component with
    | error e =>
      have hnone : ¬ (t.isDirAt place = true ∧ Usable component) := by
        rintro ⟨hdir, husable⟩
        rw [step_eq_ok.mpr ⟨hdir, husable, rfl⟩] at hstep
        cases hstep
      constructor
      · intro h
        cases h
      · rintro ⟨⟨hdir, husable, -⟩, -⟩
        exact absurd ⟨hdir, husable⟩ hnone
    | ok further =>
      obtain ⟨hdir, husable, rfl⟩ := step_eq_ok.mp hstep
      show rest.foldlM t.step (along place component) = .ok next ↔ _
      rw [ih]
      simp [hdir, husable]

/-- Without some of the `.`, components lead to the same place. -/
theorem passes_undotted {t : FileTree} {parts kept : List String}
    (h : Files.Undotted parts kept) (place : List String) :
    (t.Passes place parts → t.Passes place kept) ∧
      kept.foldl along place = parts.foldl along place := by
  induction h generalizing place with
  | nil => exact ⟨id, rfl⟩
  | @keep component _ _ _ ih =>
    obtain ⟨hpasses, hplace⟩ := ih (along place component)
    rw [passes_cons, passes_cons]
    exact ⟨And.imp_right (And.imp_right hpasses), hplace⟩
  | drop _ ih =>
    obtain ⟨hpasses, hplace⟩ := ih place
    exact ⟨fun h => hpasses (passes_cons.mp h).2.2, hplace⟩

/-- A path leads to a place: it can be followed, and does not ask for a directory where
there is a file. -/
theorem locate_eq_ok {t : FileTree} {path : String} {place : List String} :
    t.locate path = .ok place ↔
      path ≠ "" ∧ t.Passes (t.start path) (Files.rawParts path) ∧ place = t.placeOf path ∧
        (asksDirectory path = true → ∀ bytes, t.nodeAt? place ≠ some (.file bytes)) := by
  rw [locate]
  by_cases hempty : path = ""
  · simp only [hempty, if_true, ne_eq, not_true_eq_false, false_and, iff_false]
    intro h
    cases h
  · rw [if_neg hempty]
    cases hfold : (Files.rawParts path).foldlM t.step (t.start path) with
    | error e =>
      constructor
      · intro h
        cases h
      · rintro ⟨-, hpasses, -⟩
        rw [foldlM_step_eq_ok.mpr ⟨hpasses, rfl⟩] at hfold
        cases hfold
    | ok next =>
      obtain ⟨hpasses, rfl⟩ := foldlM_step_eq_ok.mp hfold
      rw [placeOf]
      simp only [hempty, hpasses, ne_eq, not_false_eq_true, true_and]
      dsimp only [bind, Except.bind, pure, Except.pure]
      cases hnode : t.nodeAt? ((Files.rawParts path).foldl along (t.start path)) with
      | none =>
        constructor
        · intro h
          cases h
          simp [hnode]
        · rintro ⟨rfl, -⟩
          rfl
      | some node =>
        cases node with
        | directory =>
          constructor
          · intro h
            cases h
            simp [hnode]
          · rintro ⟨rfl, -⟩
            rfl
        | file bytes =>
          -- a file is refused where the path asks for a directory
          by_cases hasks : asksDirectory path = true
          · simp only [hasks, if_true]
            constructor
            · intro h
              cases h
            · rintro ⟨rfl, hnone⟩
              exact absurd hnode (hnone trivial bytes)
          · simp [hasks, eq_comm]

theorem read?_eq_some {t : FileTree} {path : String} {bytes : ByteArray} :
    t.read? path = some bytes ↔
      t.locate path = .ok (t.placeOf path) ∧ t.nodeAt? (t.placeOf path) = some (.file bytes) := by
  rw [read?, read]
  cases hplace : t.locate path with
  | error e =>
    constructor
    · intro h
      cases h
    · rintro ⟨h, -⟩
      cases h
  | ok place =>
    obtain ⟨-, -, rfl, -⟩ := locate_eq_ok.mp hplace
    dsimp only [bind, Except.bind]
    cases hnode : t.nodeAt? (t.placeOf path) with
    | none => simp [Except.toOption]
    | some node =>
      cases node with
      | directory => simp [Except.toOption]
      | file content => simp [Except.toOption, pure, Except.pure]

theorem write_eq_ok {t t' : FileTree} {path : String} {bytes : ByteArray} :
    t.write path bytes = .ok t' ↔
      t.locate path = .ok (t.placeOf path) ∧ asksDirectory path = false ∧
        t.isDirAt (t.placeOf path) = false ∧ t' = t.putAt (t.placeOf path) (.file bytes) := by
  rw [write]
  cases hplace : t.locate path with
  | error e =>
    constructor
    · intro h
      cases h
    · rintro ⟨h, -⟩
      cases h
  | ok place =>
    obtain ⟨-, -, rfl, -⟩ := locate_eq_ok.mp hplace
    dsimp only [bind, Except.bind]
    by_cases hasks : asksDirectory path = true
    · simp [hasks]
    · by_cases hdir : t.isDirAt (t.placeOf path) = true
      · simp [hdir]
      · simp [hasks, hdir, pure, Except.pure, eq_comm]

/-! ## Changes -/

/-- Directories stay directories. -/
structure Grows (t t' : FileTree) : Prop where
  workDir : t'.workDir = t.workDir
  directories : ∀ place, t.isDirAt place = true → t'.isDirAt place = true

/-- All that is there stays as it is. -/
structure Extends (t t' : FileTree) : Prop where
  workDir : t'.workDir = t.workDir
  nodes : ∀ place node, t.nodeAt? place = some node → t'.nodeAt? place = some node

theorem Extends.refl (t : FileTree) : t.Extends t := ⟨rfl, fun _ _ h => h⟩

theorem Extends.trans {t t' t'' : FileTree} (h : t.Extends t') (h' : t'.Extends t'') :
    t.Extends t'' :=
  ⟨h'.workDir.trans h.workDir, fun _ _ hnode => h'.nodes _ _ (h.nodes _ _ hnode)⟩

theorem Extends.grows {t t' : FileTree} (h : t.Extends t') : t.Grows t' :=
  ⟨h.workDir, fun _ hdir => isDirAt_iff.mpr (h.nodes _ _ (isDirAt_iff.mp hdir))⟩

theorem extends_putAt {t : FileTree} {place : List String} (hplace : place ≠ [])
    (hfree : t.nodeAt? place = none) (node : FileNode) : t.Extends (t.putAt place node) := by
  refine ⟨rfl, fun other found hother => ?_⟩
  rw [nodeAt?_putAt t hplace]
  split
  · next hsame =>
    rw [t.nodeAt?_congr hsame, hfree] at hother
    cases hother
  · exact hother

theorem named_eq_ok {place next : List String} {name : String} (h : named place name = .ok next) :
    next = place ++ [name] := by
  rw [named] at h
  split at h
  · cases h
  · split at h
    · exact (Except.ok.inj h).symm
    · cases h

/-- Nothing is new but directories. -/
structure AddsDirectories (t t' : FileTree) : Prop extends Extends t t' where
  files : ∀ place bytes, t'.nodeAt? place = some (.file bytes) →
    t.nodeAt? place = some (.file bytes)

theorem AddsDirectories.refl (t : FileTree) : t.AddsDirectories t :=
  ⟨.refl t, fun _ _ h => h⟩

theorem AddsDirectories.trans {t t' t'' : FileTree} (h : t.AddsDirectories t')
    (h' : t'.AddsDirectories t'') : t.AddsDirectories t'' :=
  ⟨h.toExtends.trans h'.toExtends, fun _ _ hfile => h.files _ _ (h'.files _ _ hfile)⟩

theorem AddsDirectories.file_iff {t t' : FileTree} (h : t.AddsDirectories t') (place : List String)
    (bytes : ByteArray) :
    t'.nodeAt? place = some (.file bytes) ↔ t.nodeAt? place = some (.file bytes) :=
  ⟨h.files place bytes, h.nodes place _⟩

theorem addsDirectories_putAt {t : FileTree} {place : List String} (hplace : place ≠ [])
    (hfree : t.nodeAt? place = none) : t.AddsDirectories (t.putAt place .directory) := by
  refine ⟨extends_putAt hplace hfree .directory, fun other bytes hfile => ?_⟩
  rw [nodeAt?_putAt t hplace] at hfile
  split at hfile
  · cases hfile
  · exact hfile

/-- Making directories adds nothing else and changes nothing that is there. -/
theorem addsDirectories_makeAlong {parts : List String} {t t' : FileTree} {place : List String}
    (h : makeAlong parts t place = .ok t') : t.AddsDirectories t' := by
  induction parts, t, place using makeAlong.induct with
  | case1 _ _ =>
    cases h
    exact .refl _
  | case2 rest t place ih =>
    rw [makeAlong] at h
    exact ih h
  | case3 rest t place ih =>
    rw [makeAlong] at h
    exact ih h
  | case4 name rest t place hdot hup ihThere ihNew =>
    rw [makeAlong.eq_4 t place name rest hdot hup] at h
    cases hnamed : named place name with
    | error e =>
      rw [hnamed] at h
      cases h
    | ok next =>
      rw [hnamed] at h
      dsimp only [bind, Except.bind] at h
      cases hnode : t.nodeAt? next with
      | none =>
        -- the one directory that is made here, then those that are made further on
        rw [hnode] at h
        have hnext : next ≠ [] := by
          rw [named_eq_ok hnamed]
          exact List.append_ne_nil_of_right_ne_nil _ (List.cons_ne_nil _ _)
        exact (addsDirectories_putAt hnext hnode).trans (ihNew next h)
      | some node =>
        rw [hnode] at h
        cases node with
        | directory => exact ihThere next h
        | file bytes => cases h

theorem addsDirectories_createDirAll {t t' : FileTree} {path : String}
    (h : t.createDirAll path = .ok t') : t.AddsDirectories t' :=
  addsDirectories_makeAlong h

section

variable {t t' : FileTree} {path : String} {bytes : ByteArray}

theorem placeOf_eq (h : t'.workDir = t.workDir) (path : String) :
    t'.placeOf path = t.placeOf path := by
  rw [placeOf, placeOf, start, start, h]

theorem spot_eq (h : t'.workDir = t.workDir) (path : String) : t'.spot path = t.spot path := by
  rw [spot, spot, placeOf_eq h]

/-- A file that was written is the only thing that changed. -/
theorem nodeAt?_write (h : t.write path bytes = .ok t') (place : List String) :
    t'.nodeAt? place =
      if placeText place = t.spot path then some (.file bytes) else t.nodeAt? place := by
  obtain ⟨-, -, hdir, rfl⟩ := write_eq_ok.mp h
  refine nodeAt?_putAt t (fun hroot => ?_) _ _
  -- the root is a directory, and no file is written over one
  rw [hroot] at hdir
  cases hdir

theorem grows_write (h : t.write path bytes = .ok t') : t.Grows t' := by
  obtain ⟨-, -, hdir, rfl⟩ := write_eq_ok.mp h
  refine ⟨rfl, fun place hplace => ?_⟩
  rw [isDirAt_iff] at hplace ⊢
  rw [nodeAt?_write h]
  split
  · next hsame =>
    rw [Bool.eq_false_iff, Ne, isDirAt_iff, ← t.nodeAt?_congr hsame] at hdir
    exact absurd hplace hdir
  · exact hplace

theorem passes_grows (h : t.Grows t') {parts place : List String} (hpasses : t.Passes place parts) :
    t'.Passes place parts := by
  induction hpasses with
  | nil place => exact .nil place
  | cons hdir husable _ ih => exact .cons (h.directories _ hdir) husable ih

/-- A path that does not ask for a directory leads to its place as long as directories
stay. -/
theorem locate_grows (h : t.Grows t') (hasks : asksDirectory path = false)
    (hplace : t.locate path = .ok (t.placeOf path)) : t'.locate path = .ok (t'.placeOf path) := by
  obtain ⟨hne, hpasses, -⟩ := locate_eq_ok.mp hplace
  refine locate_eq_ok.mpr ⟨hne, ?_, rfl, fun hdir => ?_⟩
  · rw [start, h.workDir]
    exact passes_grows h hpasses
  · rw [hasks] at hdir
    cases hdir

/-- A path of a file does not ask for a directory. -/
theorem asksDirectory_of_read? (h : t.read? path = some bytes) : asksDirectory path = false := by
  obtain ⟨hplace, hfile⟩ := read?_eq_some.mp h
  obtain ⟨-, -, -, hasks⟩ := locate_eq_ok.mp hplace
  exact Bool.eq_false_iff.mpr fun htrue => hasks htrue bytes hfile

theorem read?_extends (h : t.Extends t') (hread : t.read? path = some bytes) :
    t'.read? path = some bytes := by
  obtain ⟨hplace, hfile⟩ := read?_eq_some.mp hread
  refine read?_eq_some.mpr ⟨locate_grows h.grows (asksDirectory_of_read? hread) hplace, ?_⟩
  rw [placeOf_eq h.workDir]
  exact h.nodes _ _ hfile

/-- A file reads as it was written. -/
theorem read?_write_self (h : t.write path bytes = .ok t') : t'.read? path = some bytes := by
  obtain ⟨hplace, hasks, -, -⟩ := write_eq_ok.mp h
  refine read?_eq_some.mpr ⟨locate_grows (grows_write h) hasks hplace, ?_⟩
  rw [nodeAt?_write h, placeOf_eq (grows_write h).workDir]
  exact if_pos rfl

/-- Writing a file changes what is read at its own place only. -/
theorem read?_write {other : String} {content : ByteArray} (h : t.write path bytes = .ok t')
    (hread : t.read? other = some content) :
    t'.read? other = some (if t.spot path = t.spot other then bytes else content) := by
  obtain ⟨hplace, hfile⟩ := read?_eq_some.mp hread
  refine read?_eq_some.mpr
    ⟨locate_grows (grows_write h) (asksDirectory_of_read? hread) hplace, ?_⟩
  rw [nodeAt?_write h, placeOf_eq (grows_write h).workDir, show placeText (t.placeOf other) =
    t.spot other from rfl]
  by_cases hsame : t.spot path = t.spot other
  · rw [if_pos hsame.symm, if_pos hsame]
  · rw [if_neg (Ne.symm hsame), if_neg hsame, hfile]

theorem foldl_along_dots {parts : List String} (h : ∀ p ∈ parts, p = ".") (place : List String) :
    parts.foldl along place = place := by
  induction parts with
  | nil => rfl
  | cons part rest ih =>
    rw [List.foldl_cons, h part List.mem_cons_self]
    exact ih fun p hp => h p (List.mem_cons_of_mem _ hp)

/-- The path of a file names something other than the root. -/
theorem exists_part_of_read? {dir : String} (h : t.read? (Files.join dir path) = some bytes) :
    ∃ part ∈ Files.rawParts path, part ≠ "." ∨ Files.isAbsolute path = false := by
  obtain ⟨hplace, hfile⟩ := read?_eq_some.mp h
  obtain ⟨hne, -, -, -⟩ := locate_eq_ok.mp hplace
  have hasks := asksDirectory_of_read? h
  by_contra hnone
  simp only [not_exists, not_and, not_or, Bool.not_eq_false, Decidable.not_not] at hnone
  cases habsolute : Files.isAbsolute path with
  | true =>
    -- only the root is left
    have hroot : t.placeOf (Files.join dir path) = [] := by
      rw [placeOf, Files.rawParts_join, start, Files.isAbsolute_join, habsolute]
      simp only [Bool.or_true, if_true]
      exact foldl_along_dots (fun p hp => (hnone p hp).1) []
    rw [hroot] at hfile
    cases hfile
  | false =>
    have hempty : path = "" := by
      refine Files.eq_empty_of_rawParts
        (List.eq_nil_iff_forall_not_mem.mpr fun p hp => ?_) habsolute
      have htrue := (hnone p hp).2
      rw [habsolute] at htrue
      cases htrue
    subst hempty
    by_cases hdir : dir = ""
    · exact hne (by rw [hdir]; rfl)
    · rw [asksDirectory, Files.join, habsolute] at hasks
      simp only [hdir, decide_false, Bool.or_false, Bool.false_eq_true, if_false] at hasks
      split at hasks
      · next hslash => simp [hslash] at hasks
      · simp at hasks

/-- The form that manifests give to a path leads to the same file. -/
theorem read?_slashed {dir : String} (h : t.read? (Files.join dir path) = some bytes) :
    t.read? (Files.join dir (Files.slashed path)) = some bytes := by
  obtain ⟨hplace, hfile⟩ := read?_eq_some.mp h
  obtain ⟨-, hpasses, -, -⟩ := locate_eq_ok.mp hplace
  have hstart : t.start (Files.join dir (Files.slashed path)) = t.start (Files.join dir path) := by
    rw [start, start, Files.isAbsolute_join, Files.isAbsolute_join, Files.isAbsolute_slashed]
  have hparts : Files.Undotted (Files.rawParts (Files.join dir path))
      (Files.rawParts (Files.join dir (Files.slashed path))) := by
    rw [Files.rawParts_join, Files.rawParts_join, Files.isAbsolute_slashed]
    split
    · exact Files.rawParts_slashed path
    · exact (Files.rawParts_slashed path).append _
  obtain ⟨hkept, hend⟩ := passes_undotted (t := t) hparts (t.start (Files.join dir path))
  have hsame : t.placeOf (Files.join dir (Files.slashed path)) =
      t.placeOf (Files.join dir path) := by
    rw [placeOf, placeOf, hstart]
    exact hend
  obtain ⟨part, hpart, hnamed⟩ := exists_part_of_read? h
  obtain ⟨c, hlast, hc⟩ := Files.getLast?_join_slashed dir hpart hnamed
  refine read?_eq_some.mpr ⟨locate_eq_ok.mpr ⟨?_, ?_, rfl, fun hdir => ?_⟩, ?_⟩
  · intro hempty
    rw [hempty] at hlast
    cases hlast
  · rw [hstart]
    exact hkept hpasses
  · rw [asksDirectory, hlast, decide_eq_true_iff, Option.some.injEq] at hdir
    exact absurd hdir hc
  · rw [hsame]
    exact hfile

end

end FileTree

end TravelModel
