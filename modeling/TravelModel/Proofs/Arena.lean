import TravelModel.Model.Binding

/-!
# TravelModel — the arena of a model

A model is reached from the empty one by adding libraries, removing them and
refreshing. Along every such run the slots stay consistent: a library or an
entity sits in the slot of its own number, an entity belongs to a library
that is there and lists it, and the members of a library are there.

Main results:

* `Change`, `Model.run` — what can happen to a model, and the model after a
  list of changes.
* `library?_addLibrary`, `entity?_addLibrary`, `library?_removeLibrary`,
  `entity?_removeLibrary`, `library?_refresh`, `entity?_refresh` — what each
  change does to the slots.
* `wellFormed_run` — the slots of every model that a run reaches are
  consistent.
-/

namespace TravelModel

/-! ## Slots -/

section

variable {α β : Type}

/-- The values in some slots are what is found by number. -/
theorem mem_slots {slots : Array (Option α)} {x : α} :
    x ∈ slots.toList.filterMap (fun y => y) ↔ ∃ i : Nat, (slots[i]?).join = some x := by
  rw [List.mem_filterMap]
  constructor
  · rintro ⟨y, hy, rfl⟩
    obtain ⟨i, hi⟩ := Array.mem_iff_getElem?.mp (Array.mem_toList_iff.mp hy)
    exact ⟨i, by rw [hi]; rfl⟩
  · rintro ⟨i, hi⟩
    refine ⟨some x, ?_, rfl⟩
    rw [Array.mem_toList_iff, Array.mem_iff_getElem?]
    exact ⟨i, Option.join_eq_some_iff.mp hi⟩

/-- Empty slots at the end do not show in the values. -/
theorem filterMap_eq_nil_of_slots {slots : List (Option α)}
    (h : ∀ i : Nat, (slots[i]?).join = none) : slots.filterMap (fun y => y) = [] := by
  rw [List.filterMap_eq_nil_iff]
  intro y hy
  obtain ⟨i, hi⟩ := List.mem_iff_getElem?.mp hy
  have := h i
  rw [hi] at this
  exact this

/-- Slots with the same values at the same numbers hold the same values in
the same order, whatever is free. -/
theorem map_slots_congr (f : α → β) {slots slots' : List (Option α)}
    (h : ∀ i : Nat, (slots[i]?).join.map f = (slots'[i]?).join.map f) :
    (slots.filterMap fun y => y).map f = (slots'.filterMap fun y => y).map f := by
  induction slots generalizing slots' with
  | nil =>
    have hfree : ∀ i : Nat, (slots'[i]?).join = none := by
      intro i
      have := h i
      rw [List.getElem?_nil] at this
      exact Option.map_eq_none_iff.mp this.symm
    rw [filterMap_eq_nil_of_slots hfree]
    rfl
  | cons x rest ih =>
    cases slots' with
    | nil =>
      have hfree : ∀ i : Nat, ((x :: rest)[i]?).join = none := by
        intro i
        have := h i
        rw [List.getElem?_nil] at this
        exact Option.map_eq_none_iff.mp this
      rw [filterMap_eq_nil_of_slots hfree]
      rfl
    | cons x' rest' =>
      have hhead : x.map f = x'.map f := h 0
      have hrest := ih fun i => h (i + 1)
      cases x with
      | none =>
        cases x' with
        | none => exact hrest
        | some b => simp at hhead
      | some a =>
        cases x' with
        | none => simp at hhead
        | some b =>
          rw [Option.map_some, Option.map_some, Option.some.injEq] at hhead
          show f a :: (rest.filterMap fun y => y).map f = f b :: (rest'.filterMap fun y => y).map f
          rw [hhead, hrest]

/-- As many slots with the same values at the same numbers are the same slots. -/
theorem slots_ext {slots slots' : Array (Option α)} (hsize : slots.size = slots'.size)
    (h : ∀ i : Nat, (slots[i]?).join = (slots'[i]?).join) : slots = slots' := by
  apply Array.ext hsize
  intro i hi hi'
  have hslot := h i
  rw [Array.getElem?_eq_getElem hi, Array.getElem?_eq_getElem hi'] at hslot
  exact hslot

/-- Values that know the numbers of their slots stand in the order of the
numbers. -/
theorem pairwise_slots (index : α → Nat) (slots : List (Option α)) (start : Nat)
    (h : ∀ (i : Nat) (x : α), (slots[i]?).join = some x → index x = start + i) :
    (slots.filterMap fun y => y).Pairwise fun x y => index x < index y := by
  induction slots generalizing start with
  | nil => exact List.Pairwise.nil
  | cons x rest ih =>
    have hrest : ∀ (i : Nat) (y : α), (rest[i]?).join = some y → index y = start + 1 + i := by
      intro i y hy
      have := h (i + 1) y hy
      omega
    cases x with
    | none => exact ih (start + 1) hrest
    | some x =>
      refine List.pairwise_cons.mpr ⟨?_, ih (start + 1) hrest⟩
      intro y hy
      obtain ⟨_, hmem, rfl⟩ := List.mem_filterMap.mp hy
      obtain ⟨i, hi⟩ := List.mem_iff_getElem?.mp hmem
      have hx : index x = start + 0 := h 0 x rfl
      have hy : index y = start + 1 + i := hrest i y (by rw [hi]; rfl)
      omega

/-- No number is given to two values that know the numbers of their slots. -/
theorem nodup_slots {β : Type} (id : α → β) (index : β → Nat) (slots : Array (Option α))
    (h : ∀ (i : Nat) (x : α), (slots[i]?).join = some x → index (id x) = i) :
    ((slots.toList.filterMap fun y => y).map id).Nodup := by
  have horder := pairwise_slots (fun x => index (id x)) slots.toList 0 fun i x hx => by
    rw [Array.getElem?_toList] at hx
    rw [h i x hx, Nat.zero_add]
  refine List.pairwise_map.mpr (horder.imp fun hlt heq => ?_)
  rw [heq] at hlt
  exact Nat.lt_irrefl _ hlt

end

namespace Model

theorem mem_libraries {m : Model} {l : Library} :
    l ∈ m.libraries ↔ ∃ id, m.library? id = some l := by
  rw [libraries, mem_slots]
  exact ⟨fun ⟨i, hi⟩ => ⟨⟨i⟩, hi⟩, fun ⟨id, hid⟩ => ⟨id.index, hid⟩⟩

theorem mem_entities {m : Model} {e : NamedEntity} :
    e ∈ m.entities ↔ ∃ id, m.entity? id = some e := by
  rw [entities, mem_slots]
  exact ⟨fun ⟨i, hi⟩ => ⟨⟨i⟩, hi⟩, fun ⟨id, hid⟩ => ⟨id.index, hid⟩⟩

theorem library?_lt {m : Model} {id : LibraryId} {l : Library} (h : m.library? id = some l) :
    id.index < m.librarySlots.size := by
  rw [library?, Option.join_eq_some_iff] at h
  exact (Array.getElem?_eq_some_iff.mp h).1

theorem entity?_lt {m : Model} {id : EntityId} {e : NamedEntity} (h : m.entity? id = some e) :
    id.index < m.entitySlots.size := by
  rw [entity?, Option.join_eq_some_iff] at h
  exact (Array.getElem?_eq_some_iff.mp h).1

/-- The entities of a library are its members that are there. -/
theorem mem_libraryEntities {m : Model} {id : LibraryId} {e : NamedEntity} :
    e ∈ m.libraryEntities id ↔
      ∃ l, m.library? id = some l ∧ ∃ x ∈ l.members, m.entity? x = some e := by
  rw [libraryEntities, List.mem_filterMap]
  cases h : m.library? id with
  | none => simp
  | some l => simp

end Model

/-! ## Changes and runs -/

/-- What can happen to a model. -/
inductive Change where
  | add (l : Library) (members : List MemberDecl)
  | remove (id : LibraryId)
  | refresh

/-- The model after a change. -/
def Change.apply (m : Model) : Change → Model
  | add l members => (m.addLibrary l members).1
  | remove id => (m.removeLibrary id).1
  | refresh => m.refresh.1

namespace Model

/-- The model that some changes make of an empty one. -/
def run (cs : List Change) : Model :=
  cs.foldl Change.apply {}

theorem run_append (cs ds : List Change) : run (cs ++ ds) = ds.foldl Change.apply (run cs) := by
  rw [run, List.foldl_append]
  rfl

/-! ### A small run

A namespace includes two libraries without one. Both of these declare
`Shared`, and a type of the namespace is based on the `Alone` of one of
them; an object of the namespace inherits a contextual facet. -/

/-- A library from a file of its name. -/
def sampleLibrary (name : String) (ns : Option String) (includes : List String) : Library :=
  { id := ⟨0⟩, name, ns, nsPrefix := none, version := "1.0.0", status := .draft
    documentation := none, grammar := none, builtIn := false, imports := [], includes
    contexts := [], members := []
    url := some
      { scheme := "file", authority := none, path := .rooted [name ++ ".otm"], query := none
        fragment := none } }

def sampleMember (name : String) (body : EntityBody) : MemberDecl :=
  { name, documentation := none, body }

def sampleRun : List Change :=
  [.add (sampleLibrary "Host" (some "urn:host") ["Left.otm", "Right.otm"])
      [sampleMember "Native" (.simpleType { base := some (.unbound "Alone") }),
        sampleMember "Base" (.choiceObject default),
        sampleMember "" (.contextualFacet
          { facetKind := .choice, facetName := "Red", owner := .unbound "Base", context := none
            content := default }),
        sampleMember "Derived" (.choiceObject { (default : ChoiceObject) with
          extension := some (.unbound "Base") })],
    .add (sampleLibrary "Left" none [])
      [sampleMember "Shared" (.simpleType {}), sampleMember "Alone" (.simpleType {})],
    .add (sampleLibrary "Right" none []) [sampleMember "Shared" (.simpleType {})]]

/-! ## What adding does -/

/-- The number of the next library. -/
def nextLibrary (m : Model) : LibraryId :=
  ⟨m.librarySlots.size⟩

/-- The entities that some members become when they are added next. -/
def added (m : Model) (members : List MemberDecl) : List NamedEntity :=
  newEntities m.nextLibrary m.entitySlots.size members

/-- A library as it is added next, with its members. -/
def numbered (m : Model) (l : Library) (members : List MemberDecl) : Library :=
  { l with id := m.nextLibrary, members := (m.added members).map NamedEntity.id }

/-- An accepted library is pushed with its entities; a rejected one leaves the
model as it was. -/
theorem addLibrary_cases (m : Model) (l : Library) (members : List MemberDecl) :
    m.addLibrary l members = (m, none, [duplicateLibrary l]) ∨
      m.addLibrary l members =
        ({ m with
            librarySlots := m.librarySlots.push (some (m.numbered l members))
            entitySlots := m.entitySlots ++ ((m.added members).map some).toArray
            keys := m.keys ++ [(l.key, m.nextLibrary)]
            stale := true },
          some m.nextLibrary, []) := by
  rw [addLibrary]
  split
  · exact Or.inl rfl
  · exact Or.inr rfl

theorem getElem?_added (m : Model) (members : List MemberDecl) (i : Nat) :
    (m.added members)[i]? =
      members[i]?.map fun d =>
        { id := ⟨m.entitySlots.size + i⟩, library := m.nextLibrary, name := d.entityName
          documentation := d.documentation, body := d.body } := by
  rw [added, newEntities, List.getElem?_map, List.getElem?_zipIdx]
  cases members[i]? with
  | none => rfl
  | some d => simp

/-- Numbers, libraries and positions of added entities. -/
theorem added_id {m : Model} {members : List MemberDecl} {i : Nat} {e : NamedEntity}
    (h : (m.added members)[i]? = some e) :
    e.id = ⟨m.entitySlots.size + i⟩ ∧ e.library = m.nextLibrary := by
  rw [getElem?_added] at h
  obtain ⟨d, -, rfl⟩ := Option.map_eq_some_iff.mp h
  exact ⟨rfl, rfl⟩

section

variable {m m' : Model} {l : Library} {members : List MemberDecl} {id : LibraryId} {fs : Findings}

theorem addLibrary_some (h : m.addLibrary l members = (m', some id, fs)) :
    id = m.nextLibrary ∧
      m' = { m with
              librarySlots := m.librarySlots.push (some (m.numbered l members))
              entitySlots := m.entitySlots ++ ((m.added members).map some).toArray
              keys := m.keys ++ [(l.key, m.nextLibrary)]
              stale := true } := by
  rcases addLibrary_cases m l members with hc | hc
  · rw [hc] at h
    simp at h
  · rw [hc] at h
    simp only [Prod.mk.injEq, Option.some.injEq] at h
    exact ⟨h.2.1.symm, h.1.symm⟩

theorem library?_addLibrary (h : m.addLibrary l members = (m', some id, fs)) (k : LibraryId) :
    m'.library? k = if k = id then some (m.numbered l members) else m.library? k := by
  obtain ⟨rfl, rfl⟩ := addLibrary_some h
  obtain ⟨k⟩ := k
  rw [library?, library?, Array.getElem?_push]
  by_cases hk : k = m.librarySlots.size
  · rw [if_pos hk, if_pos (by rw [nextLibrary, hk])]
    rfl
  · rw [if_neg hk, if_neg (by rw [nextLibrary, LibraryId.mk.injEq]; exact hk)]

theorem entity?_addLibrary (h : m.addLibrary l members = (m', some id, fs)) (k : EntityId) :
    m'.entity? k =
      if k.index < m.entitySlots.size then m.entity? k
      else (m.added members)[k.index - m.entitySlots.size]? := by
  obtain ⟨-, rfl⟩ := addLibrary_some h
  rw [entity?, entity?, Array.getElem?_append]
  split
  · rfl
  · rw [List.getElem?_toArray, List.getElem?_map]
    cases (m.added members)[k.index - m.entitySlots.size]? with
    | none => rfl
    | some e => rfl

end

/-! ## What removing does -/

theorem join_clearEntities (slots : Array (Option NamedEntity)) (ids : List EntityId)
    (k : EntityId) :
    ((clearEntities slots ids)[k.index]?).join =
      if k ∈ ids then none else (slots[k.index]?).join := by
  induction ids generalizing slots with
  | nil => simp [clearEntities]
  | cons x rest ih =>
    rw [clearEntities, List.foldl_cons, ← clearEntities, ih, Array.getElem?_setIfInBounds]
    by_cases hrest : k ∈ rest
    · rw [if_pos hrest, if_pos (List.mem_cons_of_mem _ hrest)]
    · rw [if_neg hrest]
      by_cases hx : k = x
      · subst hx
        rw [if_pos rfl, if_pos List.mem_cons_self]
        split <;> rfl
      · have hne : x.index ≠ k.index := by
          intro heq
          exact hx (by cases k; cases x; simp_all)
        rw [if_neg hne, if_neg (by simp [hx, hrest])]

section

variable {m : Model} {id : LibraryId} {l : Library}

theorem removeLibrary_none (h : m.library? id = none) : m.removeLibrary id = (m, none) := by
  rw [removeLibrary, h]

theorem removeLibrary_some (h : m.library? id = some l) :
    m.removeLibrary id =
      ({ m with
          librarySlots := m.librarySlots.setIfInBounds id.index none
          entitySlots := clearEntities m.entitySlots l.members
          keys := m.keys.filter fun k => k.1 ≠ l.key
          stale := true },
        some l) := by
  rw [removeLibrary, h]

theorem library?_removeLibrary (h : m.library? id = some l) (k : LibraryId) :
    (m.removeLibrary id).1.library? k = if k = id then none else m.library? k := by
  rw [removeLibrary_some h, library?, library?, Array.getElem?_setIfInBounds]
  by_cases hk : k = id
  · rw [if_pos (by rw [hk]), if_pos hk]
    split <;> rfl
  · have hne : id.index ≠ k.index := by
      intro heq
      exact hk (by cases k; cases id; simp_all)
    rw [if_neg hne, if_neg hk]

theorem entity?_removeLibrary (h : m.library? id = some l) (k : EntityId) :
    (m.removeLibrary id).1.entity? k = if k ∈ l.members then none else m.entity? k := by
  rw [removeLibrary_some h, entity?, join_clearEntities]
  rfl

end

/-! ## What a refresh does -/

theorem library?_refresh (m : Model) (id : LibraryId) : m.refresh.1.library? id = m.library? id :=
  rfl

theorem librarySlots_refresh (m : Model) : m.refresh.1.librarySlots = m.librarySlots :=
  rfl

theorem keys_refresh (m : Model) : m.refresh.1.keys = m.keys :=
  rfl

theorem stale_refresh (m : Model) : m.refresh.1.stale = false :=
  rfl

theorem entitySlots_refresh (m : Model) :
    m.refresh.1.entitySlots = m.entitySlots.map (Option.map (m.bindEntity m.buildSymbols.1)) :=
  rfl

/-- Binding reaches each entity and leaves the rest of it. -/
theorem entity?_bindAll (m : Model) (t : SymbolTable) (id : EntityId) :
    (m.bindAll t).entity? id = (m.entity? id).map (m.bindEntity t) := by
  rw [entity?, bindAll, Array.getElem?_map, entity?]
  cases m.entitySlots[id.index]? with
  | none => rfl
  | some x => cases x <;> rfl

theorem entity?_refresh (m : Model) (id : EntityId) :
    m.refresh.1.entity? id = (m.entity? id).map (m.bindEntity m.buildSymbols.1) :=
  entity?_bindAll m m.buildSymbols.1 id

/-! ## Consistent slots -/

/-- Libraries and entities sit in the slots of their numbers; an entity belongs
to a library that lists it, and the members of a library are there. -/
structure WellFormed (m : Model) : Prop where
  library_id : ∀ {id l}, m.library? id = some l → l.id = id
  entity_id : ∀ {id e}, m.entity? id = some e → e.id = id
  listed : ∀ {id e}, m.entity? id = some e → ∃ l, m.library? e.library = some l ∧ id ∈ l.members
  member : ∀ {id l x}, m.library? id = some l → x ∈ l.members →
    ∃ e, m.entity? x = some e ∧ e.library = id

/-- Only the slots matter. -/
theorem WellFormed.with_symbols {m : Model} (hm : m.WellFormed) (symbols : SymbolTable)
    (stale : Bool) : WellFormed { m with symbols, stale } :=
  ⟨hm.library_id, hm.entity_id, hm.listed, hm.member⟩

theorem wellFormed_empty : WellFormed {} := by
  constructor <;> intro <;> simp [library?, entity?] at *

theorem wellFormed_added {m m' : Model} (hm : m.WellFormed) {l : Library}
    {members : List MemberDecl} {new : LibraryId} {fs : Findings}
    (h : m.addLibrary l members = (m', some new, fs)) : m'.WellFormed := by
  have hlib := library?_addLibrary h
  have hent := entity?_addLibrary h
  obtain ⟨rfl, -⟩ := addLibrary_some h
  -- a number that was in use is not the next one
  have hold : ∀ {id k}, m.library? id = some k → m'.library? id = some k := by
    intro id k hk
    have hne : id ≠ m.nextLibrary := by
      rintro rfl
      exact absurd (library?_lt hk) (Nat.lt_irrefl _)
    rw [hlib, if_neg hne, hk]
  -- a pushed entity has the number of its slot
  have hslot : ∀ {id e}, ¬ id.index < m.entitySlots.size →
      (m.added members)[id.index - m.entitySlots.size]? = some e → e.id = id := by
    intro id e hge he
    rw [(added_id he).1]
    cases id
    simp only [EntityId.mk.injEq] at hge ⊢
    omega
  refine ⟨?_, ?_, ?_, ?_⟩
  · intro id k hk
    rw [hlib] at hk
    split at hk
    · next hid =>
      rw [← Option.some.inj hk, hid]
      rfl
    · exact hm.library_id hk
  · intro id e he
    rw [hent] at he
    split at he
    · exact hm.entity_id he
    · next hge => exact hslot hge he
  · intro id e he
    rw [hent] at he
    split at he
    · obtain ⟨k, hk, hmem⟩ := hm.listed he
      exact ⟨k, hold hk, hmem⟩
    · next hge =>
      refine ⟨m.numbered l members, ?_, ?_⟩
      · rw [(added_id he).2, hlib, if_pos rfl]
      · rw [← hslot hge he]
        exact List.mem_map_of_mem (List.mem_of_getElem? he)
  · intro id k x hk hx
    rw [hlib] at hk
    split at hk
    · next hid =>
      -- a new member is the entity pushed for it
      rw [← Option.some.inj hk] at hx
      obtain ⟨e, he, rfl⟩ := List.mem_map.mp hx
      obtain ⟨i, hi⟩ := List.mem_iff_getElem?.mp he
      obtain ⟨hidx, hlibrary⟩ := added_id hi
      refine ⟨e, ?_, by rw [hlibrary, hid]⟩
      rw [hent, hidx]
      simp only [Nat.not_lt.mpr (Nat.le_add_right _ _), if_false, Nat.add_sub_cancel_left]
      exact hi
    · obtain ⟨e, he, hlibrary⟩ := hm.member hk hx
      refine ⟨e, ?_, hlibrary⟩
      rw [hent, if_pos (entity?_lt he), he]

theorem wellFormed_addLibrary {m : Model} (hm : m.WellFormed) (l : Library)
    (members : List MemberDecl) : (m.addLibrary l members).1.WellFormed := by
  rcases addLibrary_cases m l members with hc | hc
  · rw [hc]
    exact hm
  · rw [hc]
    exact wellFormed_added hm hc

theorem wellFormed_removeLibrary {m : Model} (hm : m.WellFormed) (id : LibraryId) :
    (m.removeLibrary id).1.WellFormed := by
  cases h : m.library? id with
  | none =>
    rw [removeLibrary_none h]
    exact hm
  | some l =>
    have hlib := library?_removeLibrary h
    have hent := entity?_removeLibrary h
    refine ⟨?_, ?_, ?_, ?_⟩
    · intro i k hk
      rw [hlib] at hk
      split at hk
      · cases hk
      · exact hm.library_id hk
    · intro i e he
      rw [hent] at he
      split at he
      · cases he
      · exact hm.entity_id he
    · intro i e he
      rw [hent] at he
      split at he
      · cases he
      · next hnot =>
        obtain ⟨k, hk, hmem⟩ := hm.listed he
        have hne : e.library ≠ id := by
          rintro rfl
          rw [h] at hk
          exact hnot (Option.some.inj hk ▸ hmem)
        exact ⟨k, by rw [hlib, if_neg hne, hk], hmem⟩
    · intro i k x hk hx
      rw [hlib] at hk
      split at hk
      · cases hk
      · next hne =>
        obtain ⟨e, he, hlibrary⟩ := hm.member hk hx
        -- a member of two libraries would belong to both
        have hnot : x ∉ l.members := by
          intro hmem
          obtain ⟨e', he', hlibrary'⟩ := hm.member h hmem
          rw [he] at he'
          rw [Option.some.inj he', hlibrary'] at hlibrary
          exact hne hlibrary.symm
        exact ⟨e, by rw [hent, if_neg hnot, he], hlibrary⟩

theorem wellFormed_bindAll {m : Model} (hm : m.WellFormed) (t : SymbolTable) :
    (m.bindAll t).WellFormed := by
  refine ⟨hm.library_id, ?_, ?_, ?_⟩
  · intro id e he
    rw [entity?_bindAll] at he
    obtain ⟨e', he', rfl⟩ := Option.map_eq_some_iff.mp he
    show e'.id = id
    exact hm.entity_id he'
  · intro id e he
    rw [entity?_bindAll] at he
    obtain ⟨e', he', rfl⟩ := Option.map_eq_some_iff.mp he
    obtain ⟨l, hl, hmem⟩ := hm.listed he'
    exact ⟨l, hl, hmem⟩
  · intro id l x hl hx
    obtain ⟨e, he, hlibrary⟩ := hm.member hl hx
    refine ⟨m.bindEntity t e, ?_, hlibrary⟩
    rw [entity?_bindAll, he]
    rfl

theorem wellFormed_refresh {m : Model} (hm : m.WellFormed) : m.refresh.1.WellFormed :=
  (wellFormed_bindAll hm m.buildSymbols.1).with_symbols _ _

theorem wellFormed_apply {m : Model} (hm : m.WellFormed) (c : Change) :
    (c.apply m).WellFormed := by
  cases c with
  | add l members => exact wellFormed_addLibrary hm l members
  | remove id => exact wellFormed_removeLibrary hm id
  | refresh => exact wellFormed_refresh hm

/-- The slots of every model that a run reaches are consistent. -/
theorem wellFormed_run (cs : List Change) : (run cs).WellFormed := by
  suffices h : ∀ m : Model, m.WellFormed → (cs.foldl Change.apply m).WellFormed from
    h {} wellFormed_empty
  induction cs with
  | nil => exact fun m hm => hm
  | cons c rest ih => exact fun m hm => ih (c.apply m) (wellFormed_apply hm c)

/-! ## Reading a consistent model -/

namespace WellFormed

variable {m : Model}

theorem library?_of_mem (hm : m.WellFormed) {l : Library} (h : l ∈ m.libraries) :
    m.library? l.id = some l := by
  obtain ⟨id, hid⟩ := mem_libraries.mp h
  rw [hm.library_id hid, hid]

theorem entity?_of_mem (hm : m.WellFormed) {e : NamedEntity} (h : e ∈ m.entities) :
    m.entity? e.id = some e := by
  obtain ⟨id, hid⟩ := mem_entities.mp h
  rw [hm.entity_id hid, hid]

/-- No number is given to two libraries. -/
theorem nodup_libraries (hm : m.WellFormed) : (m.libraries.map Library.id).Nodup :=
  nodup_slots Library.id LibraryId.index m.librarySlots fun i l hl => by
    rw [show l.id = ⟨i⟩ from hm.library_id hl]

/-- No number is given to two entities. -/
theorem nodup_entities (hm : m.WellFormed) : (m.entities.map NamedEntity.id).Nodup :=
  nodup_slots NamedEntity.id EntityId.index m.entitySlots fun i e he => by
    rw [show e.id = ⟨i⟩ from hm.entity_id he]

/-- Every entity has a library. -/
theorem owner?_eq (hm : m.WellFormed) {id : EntityId} {e : NamedEntity}
    (h : m.entity? id = some e) : ∃ l, m.owner? id = some l ∧ m.library? e.library = some l := by
  obtain ⟨l, hl, -⟩ := hm.listed h
  exact ⟨l, by rw [owner?, h]; exact hl, hl⟩

/-- The entities of a library are those that belong to it. -/
theorem mem_libraryEntities_iff (hm : m.WellFormed) {id : LibraryId} {e : NamedEntity} :
    e ∈ m.libraryEntities id ↔ m.entity? e.id = some e ∧ e.library = id := by
  rw [mem_libraryEntities]
  constructor
  · rintro ⟨l, hl, x, hx, he⟩
    obtain ⟨e', he', hlibrary⟩ := hm.member hl hx
    rw [he] at he'
    rw [← Option.some.inj he'] at hlibrary
    exact ⟨by rw [hm.entity_id he, he], hlibrary⟩
  · rintro ⟨he, hlibrary⟩
    obtain ⟨l, hl, hmem⟩ := hm.listed he
    exact ⟨l, hlibrary ▸ hl, e.id, hmem, he⟩

end WellFormed

end Model

end TravelModel
