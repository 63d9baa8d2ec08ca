import Mathlib.Data.List.Induction
import Mathlib.Data.List.Nodup
import TravelModel.Proofs.Declarations

/-!
# TravelModel — keys, owners and numbers

A model keeps the same facts in several places: the slots of libraries, the
slots of entities, the members of each library and the keys under which
libraries are found. Adding and removing have to touch all of them. Here they
are shown to stay in step along every run, and a number that was given once
is shown never to be given again.

Main results:

* `inStep_apply`, `inStep_run` — keys follow the slots and members are listed
  once, through each change and along every run.
* `keeps_apply`, `keeps_run` — what a number stood for is kept or cleared,
  never replaced.
* `arena_consistent` — the two together, with what a rejected addition and the
  removal of an unknown number leave behind.
-/

namespace TravelModel

theorem LibraryId.index_inj {a b : LibraryId} : a.index = b.index ↔ a = b := by
  cases a
  cases b
  rw [LibraryId.mk.injEq]

/-- Clearing the slot of a number takes the value with that number out. -/
theorem filterMap_set_none {α : Type} (index : α → Nat) (slots : List (Option α)) (start i : Nat)
    (h : ∀ (j : Nat) (x : α), (slots[j]?).join = some x → index x = start + j) :
    (slots.set i none).filterMap (fun y => y) =
      (slots.filterMap fun y => y).filter fun x => index x ≠ start + i := by
  induction slots generalizing start i with
  | nil => rfl
  | cons x rest ih =>
    have hrest : ∀ (j : Nat) (y : α), (rest[j]?).join = some y → index y = start + 1 + j := by
      intro j y hy
      have := h (j + 1) y hy
      omega
    cases i with
    | zero =>
      -- the head goes, and all later values have greater numbers
      have hlater : ∀ y ∈ rest.filterMap (fun y => y), decide (index y ≠ start + 0) = true := by
        intro y hy
        obtain ⟨_, hmem, rfl⟩ := List.mem_filterMap.mp hy
        obtain ⟨j, hj⟩ := List.mem_iff_getElem?.mp hmem
        have hy : index y = start + 1 + j := hrest j y (by rw [hj]; rfl)
        rw [decide_eq_true_eq]
        omega
      have hkept := List.filter_eq_self.mpr hlater
      cases x with
      | none => exact hkept.symm
      | some x =>
        have hx : index x = start + 0 := h 0 x rfl
        show rest.filterMap (fun y => y) = (x :: rest.filterMap fun y => y).filter _
        rw [List.filter_cons_of_neg (by simp [hx]), hkept]
    | succ i =>
      have hstep := ih (start + 1) i hrest
      have hshift : start + 1 + i = start + (i + 1) := by omega
      rw [hshift] at hstep
      cases x with
      | none => exact hstep
      | some x =>
        -- the head is not the one that goes
        have hx : index x = start + 0 := h 0 x rfl
        show x :: (rest.set i none).filterMap (fun y => y) =
          (x :: rest.filterMap fun y => y).filter _
        rw [List.filter_cons_of_pos (by rw [decide_eq_true_eq]; omega), hstep]

namespace Model

/-! ## Libraries after a change -/

theorem libraries_addLibrary {m m' : Model} {l : Library} {members : List MemberDecl}
    {id : LibraryId} {fs : Findings} (h : m.addLibrary l members = (m', some id, fs)) :
    m'.libraries = m.libraries ++ [m.numbered l members] := by
  obtain ⟨-, rfl⟩ := addLibrary_some h
  rw [libraries, libraries, Array.toList_push, List.filterMap_append]
  rfl

theorem libraries_removeLibrary {m : Model} (hm : m.WellFormed) {id : LibraryId} {l : Library}
    (h : m.library? id = some l) :
    (m.removeLibrary id).1.libraries = m.libraries.filter fun k => k.id ≠ id := by
  have hslots : ∀ (j : Nat) (k : Library), (m.librarySlots.toList[j]?).join = some k →
      k.id.index = 0 + j := by
    intro j k hk
    rw [Array.getElem?_toList] at hk
    have hid : k.id = ⟨j⟩ := hm.library_id hk
    rw [hid, Nat.zero_add]
  have hset := filterMap_set_none (fun k : Library => k.id.index) m.librarySlots.toList 0 id.index
    hslots
  rw [removeLibrary_some h, libraries, libraries, Array.toList_setIfInBounds, hset]
  refine List.filter_congr fun k _ => ?_
  rw [Nat.zero_add, decide_eq_decide]
  exact not_congr LibraryId.index_inj

/-- A library is accepted if and only if its key is free. -/
theorem addLibrary_eq (m : Model) (l : Library) (members : List MemberDecl) :
    (m.findLibrary? l.ns l.name ≠ none ∧ m.addLibrary l members = (m, none, [duplicateLibrary l])) ∨
      (m.findLibrary? l.ns l.name = none ∧
        ∃ m', m.addLibrary l members = (m', some m.nextLibrary, [])) := by
  by_cases hkey : (m.findLibrary? l.ns l.name).isSome = true
  · left
    exact ⟨Option.isSome_iff_ne_none.mp hkey, by rw [addLibrary, if_pos hkey]⟩
  · right
    exact ⟨Option.not_isSome_iff_eq_none.mp hkey, _, by rw [addLibrary, if_neg hkey]; rfl⟩

theorem findLibrary?_of_accepted {m m' : Model} {l : Library} {members : List MemberDecl}
    {id : LibraryId} {fs : Findings} (h : m.addLibrary l members = (m', some id, fs)) :
    m.findLibrary? l.ns l.name = none := by
  rcases m.addLibrary_eq l members with ⟨-, hrejected⟩ | ⟨hfree, -⟩
  · rw [h] at hrejected
    cases hrejected
  · exact hfree

/-! ## Keys and members in step -/

/-- The keys are those of the libraries, each once, and no library lists a
member twice. -/
structure InStep (m : Model) : Prop where
  keys : m.keys = m.libraries.map fun l => (l.key, l.id)
  nodup_keys : (m.libraries.map Library.key).Nodup
  nodup_members : ∀ {id l}, m.library? id = some l → l.members.Nodup

theorem findLibrary?_eq {m : Model} (h : m.InStep) (ns : Option String) (name : String) :
    m.findLibrary? ns name =
      (m.libraries.find? fun l => l.key = (ns, name)).map Library.id := by
  rw [findLibrary?, h.keys, List.find?_map, Option.map_map]
  rfl

/-- A library is found by its key, and nothing else is found. -/
theorem findLibrary?_eq_some_iff {m : Model} (hm : m.WellFormed) (h : m.InStep)
    {ns : Option String} {name : String} {id : LibraryId} :
    m.findLibrary? ns name = some id ↔
      ∃ l, m.library? id = some l ∧ l.ns = ns ∧ l.name = name := by
  rw [findLibrary?_eq h, Option.map_eq_some_iff]
  constructor
  · rintro ⟨l, hfind, rfl⟩
    have hkey := List.find?_some hfind
    rw [decide_eq_true_eq] at hkey
    obtain ⟨hns, hname⟩ := Prod.mk.inj hkey
    exact ⟨l, hm.library?_of_mem (List.mem_of_find?_eq_some hfind), hns, hname⟩
  · rintro ⟨l, hl, rfl, rfl⟩
    have hmem : l ∈ m.libraries := mem_libraries.mpr ⟨id, hl⟩
    cases hfind : m.libraries.find? fun k => k.key = (l.ns, l.name) with
    | none => exact absurd (decide_eq_true rfl) (List.find?_eq_none.mp hfind l hmem)
    | some k =>
      -- the one that is found has the same key, so it is the same library
      have hkey := List.find?_some hfind
      have hsame : k = l := List.inj_on_of_nodup_map h.nodup_keys
        (List.mem_of_find?_eq_some hfind) hmem (of_decide_eq_true hkey)
      exact ⟨k, rfl, by rw [hsame]; exact hm.library_id hl⟩

theorem inStep_empty : InStep {} :=
  ⟨rfl, List.nodup_nil, fun h => by simp [library?] at h⟩

/-- New entities have numbers one after the other. -/
theorem map_id_added (m : Model) (members : List MemberDecl) :
    (m.added members).map NamedEntity.id =
      (List.range members.length).map fun i => ⟨m.entitySlots.size + i⟩ := by
  apply List.ext_getElem?
  intro i
  rw [List.getElem?_map, getElem?_added, Option.map_map, List.getElem?_map]
  by_cases hi : i < members.length
  · rw [List.getElem?_eq_getElem hi, List.getElem?_range hi]
    rfl
  · rw [List.getElem?_eq_none (Nat.not_lt.mp hi),
      List.getElem?_eq_none (by rw [List.length_range]; omega)]
    rfl

theorem nodup_numbered (m : Model) (l : Library) (members : List MemberDecl) :
    (m.numbered l members).members.Nodup := by
  show ((m.added members).map NamedEntity.id).Nodup
  rw [map_id_added]
  refine List.nodup_range.map ?_
  intro i j hij
  have : m.entitySlots.size + i = m.entitySlots.size + j := congrArg EntityId.index hij
  omega

theorem inStep_added {m m' : Model} (h : m.InStep) {l : Library} {members : List MemberDecl}
    {new : LibraryId} {fs : Findings} (hadd : m.addLibrary l members = (m', some new, fs)) :
    m'.InStep := by
  have hlibraries := libraries_addLibrary hadd
  have hlib := library?_addLibrary hadd
  have hfree := findLibrary?_of_accepted hadd
  obtain ⟨-, hm'⟩ := addLibrary_some hadd
  refine ⟨?_, ?_, ?_⟩
  · rw [hlibraries, List.map_append, ← h.keys, hm']
    rfl
  · -- the key was free, so no library has it
    rw [hlibraries, List.map_append, List.nodup_append]
    refine ⟨h.nodup_keys, List.nodup_singleton _, ?_⟩
    intro key hkey key' hkey' heq
    obtain ⟨k, hk, hkk⟩ := List.mem_map.mp hkey
    rw [findLibrary?_eq h, Option.map_eq_none_iff, List.find?_eq_none] at hfree
    refine hfree k hk (decide_eq_true ?_)
    rw [hkk, heq, List.mem_singleton.mp hkey']
    rfl
  · intro id k hk
    rw [hlib] at hk
    split at hk
    · rw [← Option.some.inj hk]
      exact nodup_numbered m l members
    · exact h.nodup_members hk

theorem inStep_removed {m : Model} (hm : m.WellFormed) (h : m.InStep) {id : LibraryId}
    {l : Library} (hl : m.library? id = some l) : (m.removeLibrary id).1.InStep := by
  have hlibraries := libraries_removeLibrary hm hl
  have hmem : l ∈ m.libraries := mem_libraries.mpr ⟨id, hl⟩
  refine ⟨?_, ?_, ?_⟩
  · -- a key goes exactly where its library goes
    have hkeys : (m.removeLibrary id).1.keys = m.keys.filter fun k => k.1 ≠ l.key := by
      rw [removeLibrary_some hl]
    rw [hkeys, h.keys, hlibraries, List.filter_map]
    refine congrArg _ (List.filter_congr fun k hk => ?_)
    rw [Function.comp_apply, decide_eq_decide]
    refine not_congr ⟨fun hkey => ?_, fun hid => ?_⟩
    · rw [List.inj_on_of_nodup_map h.nodup_keys hk hmem hkey, hm.library_id hl]
    · have hlk := hm.library?_of_mem hk
      rw [hid, hl] at hlk
      rw [Option.some.inj hlk]
  · rw [hlibraries]
    exact h.nodup_keys.sublist (List.filter_sublist.map Library.key)
  · intro i k hk
    rw [library?_removeLibrary hl] at hk
    split at hk
    · cases hk
    · exact h.nodup_members hk

/-- Each change touches all places alike. -/
theorem inStep_apply {m : Model} (hm : m.WellFormed) (h : m.InStep) (c : Change) :
    (c.apply m).InStep := by
  cases c with
  | add l members =>
    show (m.addLibrary l members).1.InStep
    rcases m.addLibrary_eq l members with ⟨-, hrejected⟩ | ⟨-, m', haccepted⟩
    · rw [hrejected]
      exact h
    · rw [haccepted]
      exact inStep_added h haccepted
  | remove id =>
    show (m.removeLibrary id).1.InStep
    cases hl : m.library? id with
    | none =>
      rw [removeLibrary_none hl]
      exact h
    | some l => exact inStep_removed hm h hl
  | refresh => exact ⟨h.keys, h.nodup_keys, h.nodup_members⟩

/-- Keys and members are in step along every run. -/
theorem inStep_run (cs : List Change) : (run cs).InStep := by
  induction cs using List.reverseRec with
  | nil => exact inStep_empty
  | append_singleton cs c ih =>
    rw [run_append]
    exact inStep_apply (wellFormed_run cs) ih c

/-! ## Numbers are given once -/

/-- From one model to a later one: numbers that were given still stand for the
same library or entity, or for nothing. -/
structure Keeps (m m' : Model) : Prop where
  libraries : m.librarySlots.size ≤ m'.librarySlots.size
  entities : m.entitySlots.size ≤ m'.entitySlots.size
  library? : ∀ id, id.index < m.librarySlots.size →
    m'.library? id = m.library? id ∨ m'.library? id = none
  entity? : ∀ id, id.index < m.entitySlots.size →
    (m'.entity? id).map NamedEntity.declared = (m.entity? id).map NamedEntity.declared ∨
      m'.entity? id = none

namespace Keeps

variable {m m' m'' : Model}

theorem refl (m : Model) : Keeps m m :=
  ⟨Nat.le_refl _, Nat.le_refl _, fun _ _ => Or.inl rfl, fun _ _ => Or.inl rfl⟩

theorem trans (h : Keeps m m') (h' : Keeps m' m'') : Keeps m m'' := by
  refine ⟨h.libraries.trans h'.libraries, h.entities.trans h'.entities, ?_, ?_⟩
  · intro id hid
    rcases h'.library? id (Nat.lt_of_lt_of_le hid h.libraries) with hkept | hgone
    · rw [hkept]
      exact h.library? id hid
    · exact Or.inr hgone
  · intro id hid
    rcases h'.entity? id (Nat.lt_of_lt_of_le hid h.entities) with hkept | hgone
    · -- an entity that is gone in between has no declaration to keep
      rw [hkept]
      rcases h.entity? id hid with hkept' | hgone'
      · exact Or.inl hkept'
      · right
        rw [hgone', Option.map_none, Option.map_eq_none_iff] at hkept
        exact hkept
    · exact Or.inr hgone

theorem library_eq (h : Keeps m m') {id : LibraryId} {l l' : Library} (hl : m.library? id = some l)
    (hl' : m'.library? id = some l') : l' = l := by
  rcases h.library? id (library?_lt hl) with hkept | hgone
  · rw [hl, hl'] at hkept
    exact Option.some.inj hkept
  · rw [hl'] at hgone
    cases hgone

theorem declared_eq (h : Keeps m m') {id : EntityId} {e e' : NamedEntity}
    (he : m.entity? id = some e) (he' : m'.entity? id = some e') : e'.declared = e.declared := by
  rcases h.entity? id (entity?_lt he) with hkept | hgone
  · rw [he, he'] at hkept
    exact Option.some.inj hkept
  · rw [he'] at hgone
    cases hgone

/-- A number that was given and stands for nothing stays so. -/
theorem library_gone (h : Keeps m m') {id : LibraryId} (hid : id.index < m.librarySlots.size)
    (hgone : m.library? id = none) : m'.library? id = none := by
  rcases h.library? id hid with hkept | hgone'
  · rw [hkept, hgone]
  · exact hgone'

theorem entity_gone (h : Keeps m m') {id : EntityId} (hid : id.index < m.entitySlots.size)
    (hgone : m.entity? id = none) : m'.entity? id = none := by
  rcases h.entity? id hid with hkept | hgone'
  · rw [hgone, Option.map_none, Option.map_eq_none_iff] at hkept
    exact hkept
  · exact hgone'

end Keeps

theorem keeps_added {m m' : Model} {l : Library} {members : List MemberDecl} {new : LibraryId}
    {fs : Findings} (h : m.addLibrary l members = (m', some new, fs)) : Keeps m m' := by
  have hlib := library?_addLibrary h
  have hent := entity?_addLibrary h
  obtain ⟨rfl, rfl⟩ := addLibrary_some h
  refine ⟨?_, ?_, fun id hid => Or.inl ?_, fun id hid => Or.inl ?_⟩
  · show m.librarySlots.size ≤ (m.librarySlots.push _).size
    rw [Array.size_push]
    omega
  · show m.entitySlots.size ≤ (m.entitySlots ++ _).size
    rw [Array.size_append]
    omega
  · -- the new number is the next one, which was not given
    have hne : id ≠ m.nextLibrary := by
      rintro rfl
      exact absurd hid (Nat.lt_irrefl _)
    rw [hlib, if_neg hne]
  · rw [hent, if_pos hid]

theorem size_clearEntities (slots : Array (Option NamedEntity)) (ids : List EntityId) :
    (clearEntities slots ids).size = slots.size := by
  induction ids generalizing slots with
  | nil => rfl
  | cons id rest ih =>
    rw [clearEntities, List.foldl_cons, ← clearEntities, ih, Array.size_setIfInBounds]

theorem keeps_removed {m : Model} {id : LibraryId} {l : Library} (h : m.library? id = some l) :
    Keeps m (m.removeLibrary id).1 := by
  refine ⟨?_, ?_, fun k _ => ?_, fun k _ => ?_⟩
  · rw [removeLibrary_some h, Array.size_setIfInBounds]
  · rw [removeLibrary_some h, size_clearEntities]
  · rw [library?_removeLibrary h]
    split
    · exact Or.inr rfl
    · exact Or.inl rfl
  · rw [entity?_removeLibrary h]
    split
    · exact Or.inr rfl
    · exact Or.inl rfl

theorem keeps_refresh {m : Model} (hm : m.WellFormed) : Keeps m m.refresh.1 := by
  refine ⟨?_, ?_, fun id _ => Or.inl (library?_refresh m id), fun id _ => Or.inl ?_⟩
  · rw [librarySlots_refresh]
  · rw [entitySlots_refresh, Array.size_map]
  · exact ((sameDeclarations_refresh hm).entity? id).symm

/-- No change replaces what a number stands for. -/
theorem keeps_apply {m : Model} (hm : m.WellFormed) (c : Change) : Keeps m (c.apply m) := by
  cases c with
  | add l members =>
    show Keeps m (m.addLibrary l members).1
    rcases m.addLibrary_eq l members with ⟨-, hrejected⟩ | ⟨-, m', haccepted⟩
    · rw [hrejected]
      exact Keeps.refl m
    · rw [haccepted]
      exact keeps_added haccepted
  | remove id =>
    show Keeps m (m.removeLibrary id).1
    cases hl : m.library? id with
    | none =>
      rw [removeLibrary_none hl]
      exact Keeps.refl m
    | some l => exact keeps_removed hl
  | refresh => exact keeps_refresh hm

/-- What a number stood for at some point of a run is kept or cleared later. -/
theorem keeps_run {past cs : List Change} (h : past <+: cs) : Keeps (run past) (run cs) := by
  obtain ⟨later, rfl⟩ := h
  induction later using List.reverseRec with
  | nil =>
    rw [List.append_nil]
    exact Keeps.refl _
  | append_singleton later c ih =>
    rw [← List.append_assoc, run_append]
    exact ih.trans (keeps_apply (wellFormed_run _) c)

/-- Numbers are given once along a run. Those that an accepted library gets now
stood for nothing at any earlier point; a number that stands for something at
two points stands for the same; and one that was cleared stays clear. -/
structure NumbersOnce (cs : List Change) : Prop where
  library_fresh : ∀ past, past <+: cs → ∀ l members m' id fs,
    (run cs).addLibrary l members = (m', some id, fs) → (run past).library? id = none
  entity_fresh : ∀ past, past <+: cs → ∀ l members m' id fs,
    (run cs).addLibrary l members = (m', some id, fs) → ∀ k, m'.library? id = some k →
      ∀ x ∈ k.members, (run past).entity? x = none
  library_same : ∀ past, past <+: cs → ∀ id l l',
    (run past).library? id = some l → (run cs).library? id = some l' → l' = l
  entity_same : ∀ past, past <+: cs → ∀ id e e',
    (run past).entity? id = some e → (run cs).entity? id = some e' → e'.declared = e.declared
  library_gone : ∀ past mid, past <+: mid → mid <+: cs → ∀ id l,
    (run past).library? id = some l → (run mid).library? id = none → (run cs).library? id = none
  entity_gone : ∀ past mid, past <+: mid → mid <+: cs → ∀ id e,
    (run past).entity? id = some e → (run mid).entity? id = none → (run cs).entity? id = none

theorem numbersOnce (cs : List Change) : NumbersOnce cs := by
  refine ⟨?_, ?_, ?_, ?_, ?_, ?_⟩
  · intro past hpast l members m' id fs hadd
    obtain ⟨hid, -⟩ := addLibrary_some hadd
    cases hold : (run past).library? id with
    | none => rfl
    | some k =>
      -- a library of the past has a smaller number than the next one
      have hlt := library?_lt hold
      have hle := (keeps_run hpast).libraries
      have hnext : id.index = (run cs).librarySlots.size := by rw [hid]; rfl
      omega
  · intro past hpast l members m' id fs hadd k hk x hx
    rw [library?_addLibrary hadd, if_pos rfl] at hk
    rw [← Option.some.inj hk] at hx
    cases hold : (run past).entity? x with
    | none => rfl
    | some e =>
      have hlt := entity?_lt hold
      have hle := (keeps_run hpast).entities
      obtain ⟨e', he', rfl⟩ := List.mem_map.mp hx
      obtain ⟨i, hi⟩ := List.mem_iff_getElem?.mp he'
      have hnext : e'.id.index = (run cs).entitySlots.size + i := by rw [(added_id hi).1]
      omega
  · intro past hpast id l l' hl hl'
    exact (keeps_run hpast).library_eq hl hl'
  · intro past hpast id e e' he he'
    exact (keeps_run hpast).declared_eq he he'
  · intro past mid hmid hcs id l hl hgone
    have hlt := Nat.lt_of_lt_of_le (library?_lt hl) (keeps_run hmid).libraries
    exact (keeps_run hcs).library_gone hlt hgone
  · intro past mid hmid hcs id e he hgone
    have hlt := Nat.lt_of_lt_of_le (entity?_lt he) (keeps_run hmid).entities
    exact (keeps_run hcs).entity_gone hlt hgone

/-! ## The whole arena -/

/-- The places in which a model keeps libraries and entities agree: keys are
unique and find their libraries, and an entity is listed once, by the library
it belongs to. -/
structure Consistent (m : Model) : Prop where
  key_unique : ∀ a b k l, m.library? a = some k → m.library? b = some l →
    k.ns = l.ns → k.name = l.name → a = b
  find_iff : ∀ ns name id, m.findLibrary? ns name = some id ↔
    ∃ l, m.library? id = some l ∧ l.ns = ns ∧ l.name = name
  listed_once : ∀ id e, m.entity? id = some e →
    ∃ l, m.library? e.library = some l ∧ l.members.count id = 1
  listed_only : ∀ id e k l, m.entity? id = some e → m.library? k = some l → id ∈ l.members →
    k = e.library
  member_live : ∀ k l id, m.library? k = some l → id ∈ l.members → ∃ e, m.entity? id = some e

theorem consistent_of_inStep {m : Model} (hm : m.WellFormed) (h : m.InStep) : m.Consistent := by
  refine ⟨?_, fun ns name id => findLibrary?_eq_some_iff hm h, ?_, ?_, ?_⟩
  · intro a b k l hk hl hns hname
    have hfound : m.findLibrary? k.ns k.name = some a :=
      (findLibrary?_eq_some_iff hm h).mpr ⟨k, hk, rfl, rfl⟩
    have hfound' : m.findLibrary? k.ns k.name = some b :=
      (findLibrary?_eq_some_iff hm h).mpr ⟨l, hl, hns.symm, hname.symm⟩
    rw [hfound] at hfound'
    exact Option.some.inj hfound'
  · intro id e he
    obtain ⟨l, hl, hmem⟩ := hm.listed he
    exact ⟨l, hl, List.count_eq_one_of_mem (h.nodup_members hl) hmem⟩
  · intro id e k l he hl hmem
    obtain ⟨e', he', hlibrary⟩ := hm.member hl hmem
    rw [he] at he'
    rw [Option.some.inj he', hlibrary]
  · intro k l id hl hmem
    obtain ⟨e, he, -⟩ := hm.member hl hmem
    exact ⟨e, he⟩

/-- A library is rejected if and only if another one has its key. -/
theorem addLibrary_none_iff {m : Model} (h : m.Consistent) (l : Library)
    (members : List MemberDecl) :
    (m.addLibrary l members).2.1 = none ↔
      ∃ id k, m.library? id = some k ∧ k.ns = l.ns ∧ k.name = l.name := by
  have htaken : m.findLibrary? l.ns l.name ≠ none ↔
      ∃ id k, m.library? id = some k ∧ k.ns = l.ns ∧ k.name = l.name := by
    rw [← Option.isSome_iff_ne_none, Option.isSome_iff_exists]
    exact exists_congr fun id => h.find_iff l.ns l.name id
  rcases m.addLibrary_eq l members with ⟨hkey, hrejected⟩ | ⟨hfree, m', haccepted⟩
  · rw [hrejected]
    exact ⟨fun _ => htaken.mp hkey, fun _ => rfl⟩
  · rw [haccepted]
    refine ⟨?_, fun h => absurd hfree (htaken.mpr h)⟩
    intro hnone
    cases hnone

/-- Along every run the places in which a model keeps libraries and entities
agree, and numbers are given once. A library is rejected if and only if its key
is taken, with one finding and nothing else changed; removing a number that
stands for no library changes nothing. -/
theorem arena_consistent (cs : List Change) :
    let m := run cs
    m.Consistent ∧ NumbersOnce cs ∧
    (∀ l members,
      ((m.addLibrary l members).2.1 = none ↔
        ∃ id k, m.library? id = some k ∧ k.ns = l.ns ∧ k.name = l.name) ∧
      ((m.addLibrary l members).2.1 = none →
        m.addLibrary l members =
          (m, none, [.report l.identity .duplicateLibrary [l.name, l.ns.getD ""]]))) ∧
    (∀ id, m.library? id = none → m.removeLibrary id = (m, none)) := by
  intro m
  have hconsistent : m.Consistent := consistent_of_inStep (wellFormed_run cs) (inStep_run cs)
  refine ⟨hconsistent, numbersOnce cs, ?_, fun id h => removeLibrary_none h⟩
  intro l members
  refine ⟨addLibrary_none_iff hconsistent l members, ?_⟩
  intro hnone
  rcases m.addLibrary_cases l members with hrejected | haccepted
  · exact hrejected
  · rw [haccepted] at hnone
    cases hnone

/-- A library of the sample is removed and comes back under its key: it gets a
number of its own, and a third one of that key is rejected. -/
theorem sampleRun_readded :
    let left := sampleLibrary "Left" none []
    let m := run (sampleRun ++ [.remove ⟨1⟩, .add left []])
    m.findLibrary? none "Left" = some ⟨3⟩ ∧ (run sampleRun).library? ⟨3⟩ = none ∧
      m.library? ⟨1⟩ = none ∧
      m.addLibrary left [] = (m, none, [.report "Left" .duplicateLibrary ["Left", ""]]) ∧
      m.removeLibrary ⟨1⟩ = (m, none) := by
  intro left m
  let removed := sampleRun ++ [.remove ⟨1⟩]
  obtain ⟨hconsistent, hnumbers, hadd, hremove⟩ :=
    arena_consistent (sampleRun ++ [.remove ⟨1⟩, .add left []])
  have hback : m.library? ⟨3⟩ = some { left with id := ⟨3⟩ } := by decide +kernel
  -- the first number was cleared, and the second one is new when the library comes back
  have hcleared : m.library? ⟨1⟩ = none := by
    refine hnumbers.library_gone sampleRun removed ⟨_, rfl⟩ ⟨[.add left []], ?_⟩ ⟨1⟩
      { left with id := ⟨1⟩, members := [⟨4⟩, ⟨5⟩] } ?_ ?_
    · rw [List.append_assoc]
      rfl
    · decide +kernel
    · decide +kernel
  have haccepted : (run removed).addLibrary left [] =
      (((run removed).addLibrary left []).1, some ⟨3⟩, []) := by
    refine Prod.ext rfl ?_
    decide +kernel
  obtain ⟨-, hearlier, -, -⟩ := arena_consistent removed
  have hrejected := (hadd left []).1.mpr ⟨⟨3⟩, _, hback, rfl, rfl⟩
  exact ⟨(hconsistent.find_iff none "Left" ⟨3⟩).mpr ⟨_, hback, rfl, rfl⟩,
    hearlier.library_fresh sampleRun ⟨_, rfl⟩ left [] _ _ _ haccepted, hcleared,
    (hadd left []).2 hrejected, hremove ⟨1⟩ hcleared⟩

end Model

end TravelModel
