import Mathlib.Data.List.Forall2
import TravelModel.Generation.Api
import TravelModel.Proofs.ClosedScope
import TravelModel.Proofs.Keyed

/-!
# TravelModel — references in JSON documents

A JSON value holds a `$ref` where an object has a text under that name, at any
depth. A property may be called `$ref` as well; its value is a schema, so an
object, and that is no reference. What is said about all references of a document
is therefore carried along with the fact that schemas are objects.

A reference is a pointer into a document: fields divided by slashes, in which `~0` and
`~1` stand for a tilde and a slash. Names are written into pointers as they are.

Main results:

* `refsIn_obj`, `refsIn_arr` — the references of a value are those of its parts.
* `at?_object`, `isSome_at?_object` — what is found along a path of fields.
* `isPointerTo_pathText_iff` — a path is read back from its text unless a name of it has a
  slash or a tilde.
* `schemaIn_simpleType` — restrictions bring no reference to a schema.
-/

namespace TravelModel

namespace Json

/-- A value holds a `$ref` with a text, at some depth. -/
inductive HasRef : Json → String → Prop
  | here {fields : List (String × Json)} {text : String} (h : ("$ref", .str text) ∈ fields) :
    HasRef (.obj fields) text
  | field {fields : List (String × Json)} {f : String × Json} {text : String} (h : f ∈ fields)
    (hf : HasRef f.2 text) : HasRef (.obj fields) text
  | item {items : List Json} {j : Json} {text : String} (h : j ∈ items) (hj : HasRef j text) :
    HasRef (.arr items) text

/-- Every `$ref` of a value is good. -/
def RefsIn (P : String → Prop) (j : Json) : Prop :=
  ∀ text, j.HasRef text → P text

/-- A schema is an object; every `$ref` of it is good. -/
def SchemaIn (P : String → Prop) (j : Json) : Prop :=
  (∃ fields, j = .obj fields) ∧ j.RefsIn P

/-- An entry of an object is good: its value is, and if it is a `$ref` itself, its
text is. -/
def EntryIn (P : String → Prop) (f : String × Json) : Prop :=
  f.2.RefsIn P ∧ ∀ text, f = ("$ref", .str text) → P text

/-- The value at a path of fields. -/
def at? : List String → Json → Option Json
  | [], j => some j
  | name :: rest, j => (j.field? name).bind (at? rest)

/-- How a path of fields is written in a reference. -/
def pathText (path : List String) : String :=
  path.foldl (fun text name => text ++ "/" ++ name) "#"

/-- What a field of a pointer stands for, if every tilde in it is followed by its digit. -/
def unescape? : List Char → Option (List Char)
  | [] => some []
  | '~' :: '0' :: rest => (unescape? rest).map ('~' :: ·)
  | '~' :: '1' :: rest => (unescape? rest).map ('/' :: ·)
  | '~' :: _ => none
  | c :: rest => (unescape? rest).map (c :: ·)

/-- A text is a pointer to a path of fields from the root of a document. -/
def IsPointerTo (text : String) (path : List String) : Prop :=
  ∃ tokens, Text.splitChars '/' text.toList = ['#'] :: tokens ∧
    List.Forall₂ (fun token name => unescape? token = some name.toList) tokens path

/-- A name that stands for itself as a field of a pointer. -/
def Unescaped (name : String) : Prop :=
  '/' ∉ name.toList ∧ '~' ∉ name.toList

instance (name : String) : Decidable (Unescaped name) :=
  inferInstanceAs (Decidable (_ ∧ _))

/-- Reading takes each tilde together with the digit after it. -/
theorem length_of_unescape? {cs ds : List Char} (h : unescape? cs = some ds) :
    ds.length + cs.count '~' = cs.length := by
  fun_induction unescape? cs generalizing ds with
  | case1 =>
    obtain rfl := Option.some.inj h
    rfl
  | case2 rest ih =>
    obtain ⟨es, hes, rfl⟩ := Option.map_eq_some_iff.mp h
    have hlength := ih hes
    have hcount : ('~' :: '0' :: rest).count '~' = rest.count '~' + 1 := by simp
    rw [hcount]
    simp only [List.length_cons]
    omega
  | case3 rest ih =>
    obtain ⟨es, hes, rfl⟩ := Option.map_eq_some_iff.mp h
    have hlength := ih hes
    have hcount : ('~' :: '1' :: rest).count '~' = rest.count '~' + 1 := by simp
    rw [hcount]
    simp only [List.length_cons]
    omega
  | case4 => cases h
  | case5 c rest hzero hone htilde ih =>
    obtain ⟨es, hes, rfl⟩ := Option.map_eq_some_iff.mp h
    have hlength := ih hes
    have hne : c ≠ '~' := htilde
    rw [List.count_cons_of_ne hne]
    simp only [List.length_cons]
    omega

theorem unescape?_cons {c : Char} (hc : c ≠ '~') (rest : List Char) :
    unescape? (c :: rest) = (unescape? rest).map (c :: ·) := by
  rw [unescape?]
  all_goals simp [hc]

theorem unescape?_eq_self_iff {cs : List Char} : unescape? cs = some cs ↔ '~' ∉ cs := by
  constructor
  · intro h
    have hlength := length_of_unescape? h
    exact List.count_eq_zero.mp (by omega)
  · intro h
    induction cs with
    | nil => rfl
    | cons c rest ih =>
      rw [List.mem_cons, not_or] at h
      rw [unescape?_cons (Ne.symm h.1), ih h.2]
      rfl

/-- The fields of a written path are those of its names. -/
theorem splitChars_pathText (path : List String) :
    Text.splitChars '/' (pathText path).toList =
      ['#'] :: path.flatMap fun name => Text.splitChars '/' name.toList := by
  have hfold : ∀ (path : List String) (text : String),
      Text.splitChars '/' (path.foldl (fun text name => text ++ "/" ++ name) text).toList =
        Text.splitChars '/' text.toList ++
          path.flatMap fun name => Text.splitChars '/' name.toList := by
    intro path
    induction path with
    | nil => simp
    | cons name rest ih =>
      intro text
      have hlist : (text ++ "/" ++ name).toList = text.toList ++ '/' :: name.toList := by simp
      rw [List.foldl_cons, ih, hlist, Text.splitChars_append_sep, List.flatMap_cons,
        List.append_assoc]
  exact hfold path "#"

/-- The names of a path bring a field each, and one more for each slash in them. -/
theorem length_flatMap_splitChars (path : List String) :
    (path.flatMap fun name => Text.splitChars '/' name.toList).length =
      path.length + (path.flatMap String.toList).count '/' := by
  induction path with
  | nil => rfl
  | cons name rest ih =>
    rw [List.flatMap_cons, List.length_append, ih, Text.length_splitChars, List.flatMap_cons,
      List.count_append, List.length_cons]
    omega

/-- A path is read back from its text if and only if all of its names stand for themselves. -/
theorem isPointerTo_pathText_iff {path : List String} :
    IsPointerTo (pathText path) path ↔ ∀ name ∈ path, Unescaped name := by
  have hfields : (∀ name ∈ path, '/' ∉ name.toList) →
      (path.flatMap fun name => Text.splitChars '/' name.toList) = path.map String.toList := by
    intro h
    rw [List.map_eq_flatMap]
    exact List.flatMap_congr fun name hname => Text.splitChars_of_notMem (h name hname)
  constructor
  · rintro ⟨tokens, hsplit, hnames⟩
    rw [splitChars_pathText, List.cons_inj_right] at hsplit
    -- as many fields as names, so no name was divided
    have hslash : ∀ name ∈ path, '/' ∉ name.toList := by
      have hlength := length_flatMap_splitChars path
      rw [hsplit, hnames.length_eq] at hlength
      have hnone := List.count_eq_zero.mp (Nat.left_eq_add.mp hlength)
      exact fun name hname hslash => hnone (List.mem_flatMap.mpr ⟨name, hname, hslash⟩)
    rw [← hsplit, hfields hslash, List.forall₂_map_left_iff, List.forall₂_same] at hnames
    exact fun name hname => ⟨hslash name hname, unescape?_eq_self_iff.mp (hnames name hname)⟩
  · intro h
    refine ⟨path.map String.toList, ?_, ?_⟩
    · rw [splitChars_pathText, hfields fun name hname => (h name hname).1]
    · rw [List.forall₂_map_left_iff, List.forall₂_same]
      exact fun name hname => unescape?_eq_self_iff.mpr (h name hname).2

theorem isPointerTo_concat_iff (place : List String) (hplace : ∀ name ∈ place, Unescaped name)
    {name : String} :
    IsPointerTo (pathText (place ++ [name])) (place ++ [name]) ↔ Unescaped name := by
  rw [isPointerTo_pathText_iff, List.forall_mem_append, List.forall_mem_singleton]
  exact and_iff_right hplace

/-- A path goes on in the only value under its first name. -/
theorem at?_object {entries : List (String × Json)} {name : String} {j : Json}
    (h : (name, j) ∈ entries) (hunique : ∀ j', (name, j') ∈ entries → j' = j)
    (rest : List String) : (object entries).at? (name :: rest) = j.at? rest := by
  rw [at?, object, field?, Keyed.find?_ofList h hunique, Option.bind_some]

theorem isSome_at?_object {entries : List (String × Json)} {name : String} :
    ((object entries).at? [name]).isSome ↔ name ∈ entries.map Prod.fst := by
  rw [← Keyed.isSome_find?_ofList, at?, object, field?, Option.isSome_bind]
  simp [at?]

section

variable {P Q : String → Prop}

theorem RefsIn.mono {j : Json} (h : j.RefsIn P) (hPQ : ∀ text, P text → Q text) : j.RefsIn Q :=
  fun text htext => hPQ text (h text htext)

theorem SchemaIn.mono {j : Json} (h : j.SchemaIn P) (hPQ : ∀ text, P text → Q text) :
    j.SchemaIn Q :=
  ⟨h.1, h.2.mono hPQ⟩

theorem refsIn_obj {fields : List (String × Json)} :
    (obj fields).RefsIn P ↔ ∀ f ∈ fields, EntryIn P f := by
  constructor
  · intro h f hf
    refine ⟨fun text htext => h text (.field hf htext), ?_⟩
    rintro text rfl
    exact h text (.here hf)
  · intro h text htext
    cases htext with
    | here hmem => exact (h _ hmem).2 text rfl
    | field hmem hf => exact (h _ hmem).1 text hf

theorem refsIn_arr {items : List Json} : (arr items).RefsIn P ↔ ∀ j ∈ items, j.RefsIn P := by
  constructor
  · exact fun h j hj text htext => h text (.item hj htext)
  · intro h text htext
    cases htext with
    | item hmem hj => exact h _ hmem text hj

@[simp] theorem refsIn_str (s : String) : (str s).RefsIn P := by
  intro text htext
  cases htext

@[simp] theorem refsIn_bool (b : Bool) : (bool b).RefsIn P := by
  intro text htext
  cases htext

@[simp] theorem refsIn_num (n : JsonNumber) : (num n).RefsIn P := by
  intro text htext
  cases htext

@[simp] theorem refsIn_null : null.RefsIn P := by
  intro text htext
  cases htext

@[simp] theorem refsIn_nat (n : Nat) : (nat n).RefsIn P :=
  refsIn_num _

@[simp] theorem refsIn_strings (items : List String) : (strings items).RefsIn P := by
  refine refsIn_arr.mpr fun j hj => ?_
  obtain ⟨s, -, rfl⟩ := List.mem_map.mp hj
  exact refsIn_str s

@[simp] theorem entryIn_iff {name : String} {j : Json} (hname : name ≠ "$ref") :
    EntryIn P (name, j) ↔ j.RefsIn P :=
  ⟨And.left, fun h => ⟨h, fun _ heq => absurd (Prod.mk.inj heq).1 hname⟩⟩

/-- An entry whose value is a schema is no `$ref`, whatever its name. -/
theorem entryIn_of_schemaIn {name : String} {j : Json} (h : j.SchemaIn P) :
    EntryIn P (name, j) := by
  refine ⟨h.2, fun text heq => ?_⟩
  obtain ⟨fields, hfields⟩ := h.1
  rw [(Prod.mk.inj heq).2] at hfields
  cases hfields

theorem refsIn_object {entries : List (String × Json)} (h : ∀ f ∈ entries, EntryIn P f) :
    (object entries).RefsIn P :=
  refsIn_obj.mpr fun f hf => h f (Keyed.mem_ofList hf)

theorem schemaIn_object {entries : List (String × Json)} (h : ∀ f ∈ entries, EntryIn P f) :
    (object entries).SchemaIn P :=
  ⟨⟨_, rfl⟩, refsIn_object h⟩

theorem schemaIn_setField {j : Json} (h : j.SchemaIn P) {name : String} {value : Json}
    (hvalue : EntryIn P (name, value)) : (j.setField name value).SchemaIn P := by
  obtain ⟨⟨fields, rfl⟩, hrefs⟩ := h
  refine ⟨⟨_, rfl⟩, refsIn_obj.mpr fun f hf => ?_⟩
  rcases Keyed.mem_insert hf with rfl | hf
  · exact hvalue
  · exact refsIn_obj.mp hrefs f hf

theorem refsIn_field? {j v : Json} (h : j.RefsIn P) {name : String} (hv : j.field? name = some v) :
    v.RefsIn P := by
  cases j with
  | obj fields => exact (refsIn_obj.mp h _ (Keyed.mem_of_find? hv)).1
  | _ => cases hv

end

end Json

/-! ## Schemas without references of their own -/

namespace JsonSchema

open Json

variable {P : String → Prop}

theorem schemaIn_ofType (name : String) : (ofType name).SchemaIn P :=
  schemaIn_object (by simp)

theorem schemaIn_ofFormat (name : String) : (ofFormat name).SchemaIn P :=
  schemaIn_object (by simp)

theorem schemaIn_arrayOf {item : Json} (h : item.SchemaIn P) : (arrayOf item).SchemaIn P :=
  schemaIn_object (by simp [h.2])

theorem schemaIn_ite {p : Prop} [Decidable p] {a b : Json} (ha : a.SchemaIn P)
    (hb : b.SchemaIn P) : (if p then a else b).SchemaIn P := by
  split
  · exact ha
  · exact hb

theorem schemaIn_primitive (name : String) : (primitive name).SchemaIn P := by
  rw [primitive]
  refine schemaIn_ite (schemaIn_ofType _) (schemaIn_ite (schemaIn_ofType _)
    (schemaIn_ite (schemaIn_ofType _) ?_))
  refine schemaIn_ite (schemaIn_ofFormat _) (schemaIn_ite (schemaIn_ofFormat _)
    (schemaIn_ite (schemaIn_ofFormat _) (schemaIn_ite (schemaIn_ofFormat _)
      (schemaIn_ite (schemaIn_ofFormat _) ?_))))
  exact schemaIn_ite (schemaIn_arrayOf (schemaIn_ofType _)) (schemaIn_ofType _)

theorem entryIn_restrictions (t : SimpleType) : ∀ f ∈ restrictions t, EntryIn P f := by
  intro f hf
  have hbound : ∀ (s : String) (j : Json), bound? s = some j → j.RefsIn P := by
    intro s j hj
    obtain ⟨r, -, rfl⟩ := Option.map_eq_some_iff.mp hj
    split
    · exact refsIn_num _
    · exact refsIn_null
  simp only [restrictions, List.mem_append, Option.mem_toList, Option.map_eq_some_iff,
    Option.bind_eq_some_iff] at hf
  rcases hf with (((⟨p, -, rfl⟩ | ⟨n, -, rfl⟩) | ⟨n, -, rfl⟩) | ⟨j, ⟨s, -, hj⟩, rfl⟩) |
    ⟨j, ⟨s, -, hj⟩, rfl⟩
  · simp
  · simp
  · simp
  · simp [hbound s j hj]
  · simp [hbound s j hj]

/-- The restrictions of a simple type bring no reference to the base. -/
theorem schemaIn_simpleType (t : SimpleType) {base : Json} (h : base.SchemaIn P) :
    (simpleType t base).SchemaIn P := by
  have hall : (object [("allOf", .arr [base, .object (restrictions t)])]).SchemaIn P := by
    refine schemaIn_object ?_
    simp [refsIn_arr, h.2, refsIn_object (entryIn_restrictions (P := P) t)]
  unfold simpleType
  dsimp only
  split
  · exact schemaIn_arrayOf h
  · split
    · exact h
    · split
      · next fields =>
        split
        · exact hall
        · -- the restrictions are put among the fields of the base
          refine ⟨⟨_, rfl⟩, refsIn_obj.mpr fun f hf => ?_⟩
          rcases Keyed.mem_insertAll hf with hf | hf
          · exact refsIn_obj.mp h.2 f hf
          · exact entryIn_restrictions t f hf
      · exact hall

end JsonSchema

end TravelModel
