import Mathlib.Data.List.DropRight
import TravelModel.Proofs.ApiOperations

/-!
# TravelModel — joined paths

A path is joined from segments: each loses the slashes at its ends and gets one in front, and
one that is made of slashes only is left out. What a joined path adds as a segment of a
longer one is what its own segments add, one after the other. So it does not matter in which
groups segments are joined, and a resource below a parent is found where it would be if the
segments of both were joined at once.

Main results:

* `trimmed_trimSlashes`, `trimSlashes_eq_nil_iff` — what trimming leaves.
* `joinPath_cases` — a joined path is a slash alone, or a slash before trimmed text.
* `pathSegment_joinPath` — what a joined path adds as a segment.
* `joinPath_laws` — joining by groups, the ends of a path, and the paths of a resource.
-/

namespace TravelModel

/-! ## Trimmed text -/

/-- Text with no slash at either end. -/
def Trimmed (cs : List Char) : Prop :=
  cs.head? ≠ some '/' ∧ cs.getLast? ≠ some '/'

theorem dropTrailing_eq (p : Char → Bool) (cs : List Char) :
    Text.dropTrailing p cs = cs.rdropWhile p :=
  rfl

theorem head?_dropWhile_ne (cs : List Char) : (cs.dropWhile (· = '/')).head? ≠ some '/' := by
  intro hhead
  have hnot := List.head?_dropWhile_not (fun c : Char => decide (c = '/')) cs
  rw [hhead] at hnot
  exact absurd hnot (by decide)

theorem trimmed_trimSlashes (s : String) : Trimmed (trimSlashes s) := by
  rw [trimSlashes, Text.trimBoth, dropTrailing_eq]
  constructor
  · -- the characters left are the first ones after the leading slashes
    intro hhead
    obtain ⟨rest, hrest⟩ := List.rdropWhile_prefix (p := fun c => decide (c = '/'))
      (s.toList.dropWhile (· = '/'))
    refine head?_dropWhile_ne s.toList ?_
    rw [← hrest, List.head?_append, hhead]
    rfl
  · intro hlast
    have hne : (s.toList.dropWhile (· = '/')).rdropWhile (· = '/') ≠ [] := by
      intro hnil
      rw [hnil] at hlast
      cases hlast
    rw [List.getLast?_eq_some_getLast hne, Option.some.injEq] at hlast
    exact List.rdropWhile_last_not _ _ hne (decide_eq_true hlast)

/-- Nothing is left of slashes, and of nothing else. -/
theorem trimSlashes_eq_nil_iff {s : String} :
    trimSlashes s = [] ↔ ∀ c ∈ s.toList, c = '/' := by
  rw [trimSlashes, Text.trimBoth, dropTrailing_eq, List.rdropWhile_eq_nil_iff]
  have hall : (∀ c ∈ s.toList, c = '/') ↔ s.toList.dropWhile (· = '/') = [] := by
    rw [List.dropWhile_eq_nil_iff]
    simp only [decide_eq_true_eq]
  rw [hall]
  constructor
  · intro hslashes
    -- the first character that is not dropped would be a slash
    cases hdrop : s.toList.dropWhile (· = '/') with
    | nil => rfl
    | cons c rest =>
      rw [hdrop] at hslashes
      have hc : c = '/' := of_decide_eq_true (hslashes c List.mem_cons_self)
      refine absurd ?_ (head?_dropWhile_ne s.toList)
      rw [hdrop, hc]
      rfl
  · intro hnil
    rw [hnil]
    exact fun c hc => absurd hc List.not_mem_nil

/-- Trimmed text with a slash before it is trimmed to the text. -/
theorem trimSlashes_slash {cs : List Char} (h : Trimmed cs) :
    trimSlashes (String.ofList ('/' :: cs)) = cs := by
  have hfront : ('/' :: cs).dropWhile (· = '/') = cs := by
    rw [List.dropWhile_cons_of_pos (by decide)]
    cases cs with
    | nil => rfl
    | cons c rest =>
      refine List.dropWhile_cons_of_neg fun hc => h.1 ?_
      rw [of_decide_eq_true hc]
      rfl
  have hback : cs.rdropWhile (· = '/') = cs := by
    refine List.rdropWhile_eq_self_iff.mpr fun hne hlast => h.2 ?_
    rw [List.getLast?_eq_some_getLast hne, of_decide_eq_true hlast]
  rw [trimSlashes, String.toList_ofList, Text.trimBoth, dropTrailing_eq, hfront, hback]

/-! ## Joined paths -/

theorem pathSegment_eq_nil_iff {s : String} : pathSegment s = [] ↔ trimSlashes s = [] := by
  unfold pathSegment
  cases trimSlashes s with
  | nil => simp
  | cons c rest => simp

/-- What segments add is nothing, or a slash and then trimmed text. -/
theorem flatMap_pathSegment_cases (segments : List String) :
    segments.flatMap pathSegment = [] ∨
      ∃ cs, cs ≠ [] ∧ Trimmed cs ∧ segments.flatMap pathSegment = '/' :: cs := by
  induction segments with
  | nil => exact Or.inl rfl
  | cons s rest ih =>
    rw [List.flatMap_cons, pathSegment]
    by_cases hs : (trimSlashes s).isEmpty
    · rwa [if_pos hs, List.nil_append]
    · have hne : trimSlashes s ≠ [] := fun h => hs (by rw [h]; rfl)
      obtain ⟨hhead, hlast⟩ := trimmed_trimSlashes s
      right
      rw [if_neg hs, List.cons_append]
      refine ⟨_, List.append_ne_nil_of_left_ne_nil hne _, ⟨?_, ?_⟩, rfl⟩
      · rwa [List.head?_append_of_ne_nil _ hne]
      · -- the last character is that of the last segment that is left
        rcases ih with hnil | ⟨cs, hcs, htrimmed, heq⟩
        · rwa [hnil, List.append_nil]
        · rw [heq, List.getLast?_append_of_ne_nil _ (List.cons_ne_nil _ _),
            List.getLast?_cons_of_ne_nil hcs]
          exact htrimmed.2

/-- A joined path is a slash alone, or a slash before trimmed text. -/
theorem joinPath_cases (segments : List String) :
    (segments.flatMap pathSegment = [] ∧ joinPath segments = "/") ∨
      ∃ cs, cs ≠ [] ∧ Trimmed cs ∧ segments.flatMap pathSegment = '/' :: cs ∧
        joinPath segments = String.ofList ('/' :: cs) := by
  rw [joinPath_eq]
  rcases flatMap_pathSegment_cases segments with hnil | ⟨cs, hcs, htrimmed, heq⟩
  · rw [hnil]
    exact Or.inl ⟨rfl, rfl⟩
  · rw [heq]
    exact Or.inr ⟨cs, hcs, htrimmed, rfl, rfl⟩

/-- As a segment a joined path adds what its segments add. -/
theorem pathSegment_joinPath (segments : List String) :
    pathSegment (joinPath segments) = segments.flatMap pathSegment := by
  rcases joinPath_cases segments with ⟨hnil, hpath⟩ | ⟨cs, hcs, htrimmed, heq, hpath⟩
  · rw [hnil, hpath]
    rfl
  · rw [heq, hpath, pathSegment, trimSlashes_slash htrimmed, if_neg]
    rwa [List.isEmpty_iff]

/-- Segments can be joined among themselves before they are joined with others. -/
theorem joinPath_group (before group after : List String) :
    joinPath (before ++ joinPath group :: after) = joinPath (before ++ group ++ after) := by
  rw [joinPath_eq_iff, List.flatMap_append, List.flatMap_cons, pathSegment_joinPath,
    List.flatMap_append, List.flatMap_append, List.append_assoc]

/-- A joined path starts with a slash. -/
theorem slash_prefix_joinPath (segments : List String) :
    ['/'] <+: (joinPath segments).toList := by
  rcases joinPath_cases segments with ⟨-, hpath⟩ | ⟨cs, -, -, -, hpath⟩
  · rw [hpath]
    exact List.prefix_rfl
  · rw [hpath, String.toList_ofList]
    exact ⟨cs, rfl⟩

/-- A joined path that ends in a slash is a slash alone. -/
theorem slash_suffix_joinPath_iff {segments : List String} :
    ['/'] <:+ (joinPath segments).toList ↔ joinPath segments = "/" := by
  constructor
  · rintro ⟨front, hfront⟩
    rcases joinPath_cases segments with ⟨-, hpath⟩ | ⟨cs, hcs, htrimmed, -, hpath⟩
    · exact hpath
    · -- otherwise the last character is that of the trimmed text, which is not a slash
      rw [hpath, String.toList_ofList] at hfront
      refine absurd ?_ htrimmed.2
      rw [← List.getLast?_cons_of_ne_nil hcs (x := '/'), ← hfront, List.getLast?_concat]
  · intro hroot
    rw [hroot]
    exact List.suffix_rfl

/-- Only slashes are joined to a slash alone. -/
theorem joinPath_eq_root_iff {segments : List String} :
    joinPath segments = "/" ↔ ∀ s ∈ segments, ∀ c ∈ s.toList, c = '/' := by
  have hroot : joinPath segments = "/" ↔ segments.flatMap pathSegment = [] := by
    rw [← List.flatMap_nil (f := pathSegment), ← joinPath_eq_iff]
    rfl
  rw [hroot, List.flatMap_eq_nil_iff]
  exact forall₂_congr fun s _ => pathSegment_eq_nil_iff.trans trimSlashes_eq_nil_iff

namespace GenerationContext

/-! ## Paths of resources -/

/-- The segments that stand before those of a resource: none where it is found on its own,
and those of the parent below each parent. -/
def startSegments (c : GenerationContext) (r : Resource) : List (List String) :=
  (if r.firstClass || r.parents.isEmpty then [[]] else []) ++
    r.parents.filterMap fun p =>
      match (p.resource.entity?.bind c.model.entity?).map NamedEntity.body with
      | some (.resource parent) => some [parent.basePath, p.pathTemplate]
      | _ => none

/-- Every place of a resource adds to a path what the segments before it add. -/
theorem map_pathSegment_pathPrefixes (c : GenerationContext) (form : ApiForm) (r : Resource) :
    ((c.pathPrefixes form r).map fun p => pathSegment p.1) =
      (c.startSegments r).map fun segments => segments.flatMap pathSegment := by
  rw [pathPrefixes, startSegments, List.map_append, List.map_append, List.map_filterMap,
    List.map_filterMap]
  congr 1
  · split <;> rfl
  · refine List.filterMap_congr fun p _ => ?_
    cases (p.resource.entity?.bind c.model.entity?).map NamedEntity.body with
    | none => rfl
    | some body =>
      cases body with
      | resource parent => exact congrArg some (pathSegment_joinPath _)
      | _ => rfl

/-- The paths of the operations of a resource are joined from all segments at once. -/
theorem paths_operations (c : GenerationContext) (form : ApiForm) (e : NamedEntity)
    (r : Resource) :
    (c.operations form e r).map Prod.fst =
      (c.startSegments r).flatMap fun segments =>
        r.actions.map fun a => joinPath (segments ++ [r.basePath, a.request.pathTemplate]) := by
  -- a path is determined by what its place adds and what the segments behind it add
  let path (start : List Char) (a : ResourceAction) : String :=
    let cs := start ++ [r.basePath, a.request.pathTemplate].flatMap pathSegment
    if cs.isEmpty then "/" else String.ofList cs
  have hplaces : (c.operations form e r).map Prod.fst =
      ((c.pathPrefixes form r).map fun p => pathSegment p.1).flatMap fun start =>
        r.actions.map (path start) := by
    rw [operations, List.map_flatMap, List.flatMap_map]
    refine List.flatMap_congr fun p _ => ?_
    rw [List.map_map]
    exact List.map_congr_left fun a _ => joinPath_eq _
  have hsegments : ((c.startSegments r).flatMap fun segments =>
        r.actions.map fun a => joinPath (segments ++ [r.basePath, a.request.pathTemplate])) =
      ((c.startSegments r).map fun segments => segments.flatMap pathSegment).flatMap fun start =>
        r.actions.map (path start) := by
    rw [List.flatMap_map]
    refine List.flatMap_congr fun segments _ => List.map_congr_left fun a _ => ?_
    rw [joinPath_eq, List.flatMap_append]
  rw [hplaces, hsegments, map_pathSegment_pathPrefixes]

end GenerationContext

/-- Joining is associative and normalises. Segments that are joined first and then joined
with others give the path of all of them; a path starts with a slash, ends in one only if it
is a slash alone, and is that if and only if every segment is made of slashes. So the paths of
the operations of a resource, which are joined from the joined path of a parent, are those of
all segments from the parent down. -/
theorem joinPath_laws (xs ys : List String) :
    joinPath ([joinPath xs] ++ ys) = joinPath (xs ++ ys) ∧
    ['/'] <+: (joinPath xs).toList ∧
    (['/'] <:+ (joinPath xs).toList ↔ joinPath xs = "/") ∧
    (joinPath xs = "/" ↔ ∀ s ∈ xs, ∀ c ∈ s.toList, c = '/') ∧
    ∀ (c : GenerationContext) (form : ApiForm) (e : NamedEntity) (r : Resource),
      (c.operations form e r).map Prod.fst =
        (c.startSegments r).flatMap fun segments =>
          r.actions.map fun a => joinPath (segments ++ [r.basePath, a.request.pathTemplate]) := by
  exact ⟨joinPath_group [] xs ys, slash_prefix_joinPath xs, slash_suffix_joinPath_iff,
    joinPath_eq_root_iff, GenerationContext.paths_operations⟩

end TravelModel
