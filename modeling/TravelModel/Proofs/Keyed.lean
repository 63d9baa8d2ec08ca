import Mathlib.Data.List.Induction
import Mathlib.Data.List.Nodup
import Mathlib.Data.String.Basic
import TravelModel.Keyed

/-!
# TravelModel — laws of keyed lists

A keyed list is read through `find?`. The laws here say what each operation
does to that view, and that a list built by insertion alone is ordered, so
that being an entry and being found are the same.

Main results:

* `find?_insert`, `find?_filter_ne` — insertion and removal change the value
  under one key only; neither needs the list to be ordered.
* `mem_of_find?`, `find?_of_mem` — what is found is an entry, and in an
  ordered list every entry is found.
* `mem_keys_insertAll`, `pairwise_keys` — the keys of a list built from entries
  are theirs, in order.
* `findPair?_insert`, `mem_triples`, `pairwise_triples` — the same for names by
  namespace, read under two keys and listed as triples.
* `find?_ofList_eq_lastUnder?`, `findPair?_foldl_insert` — of several values under one
  key, or under two, the last is found.
-/

namespace TravelModel.Keyed

variable {α : Type}

/-! ## Finding -/

theorem find?_cons (k k' : String) (v : α) (m : Keyed α) :
    find? k ((k', v) :: m) = if k = k' then some v else find? k m :=
  rfl

/-- Insertion changes what is found under its key and nothing else. -/
theorem find?_insert (k k' : String) (v : α) (m : Keyed α) :
    find? k (insert k' v m) = if k = k' then some v else find? k m := by
  induction m with
  | nil => rfl
  | cons e rest ih =>
    obtain ⟨l, w⟩ := e
    rw [insert]
    split
    · rw [find?_cons]
    · split
      · -- the key is replaced in place
        next h =>
        subst h
        rw [find?_cons, find?_cons]
        split <;> rfl
      · -- the head stays; it has another key
        next h =>
        rw [find?_cons, find?_cons, ih]
        by_cases hk : k = l
        · rw [if_pos hk, if_pos hk, if_neg (hk ▸ Ne.symm h)]
        · rw [if_neg hk, if_neg hk]

/-- Removing some keys changes what is found under them and nothing else. -/
theorem find?_filter_notMem (k : String) (keys : List String) (m : Keyed α) :
    find? k (m.filter fun e => e.1 ∉ keys) = if k ∈ keys then none else find? k m := by
  induction m with
  | nil => simp [find?]
  | cons e rest ih =>
    obtain ⟨l, w⟩ := e
    by_cases hl : l ∈ keys
    · -- the head is removed, so its key is not the one that is looked for
      rw [List.filter_cons_of_neg (by simp [hl]), ih, find?_cons]
      by_cases hk : k = l
      · rw [if_pos (hk ▸ hl), if_pos (hk ▸ hl)]
      · rw [if_neg hk]
    · rw [List.filter_cons_of_pos (by simp [hl]), find?_cons, find?_cons, ih]
      by_cases hk : k = l
      · rw [if_pos hk, if_pos hk, if_neg (hk ▸ hl)]
      · rw [if_neg hk, if_neg hk]

/-- Removing a key changes what is found under it and nothing else. -/
theorem find?_filter_ne (k k' : String) (m : Keyed α) :
    find? k (m.filter fun e => e.1 ≠ k') = if k = k' then none else find? k m := by
  simpa using find?_filter_notMem k [k'] m

/-- What is found is an entry. -/
theorem mem_of_find? {m : Keyed α} {k : String} {v : α} (h : find? k m = some v) :
    (k, v) ∈ m := by
  induction m with
  | nil => simp [find?] at h
  | cons e rest ih =>
    obtain ⟨l, w⟩ := e
    rw [find?_cons] at h
    split at h
    · next hk =>
      rw [Option.some.injEq] at h
      subst hk h
      exact List.mem_cons_self
    · exact List.mem_cons_of_mem _ (ih h)

/-- Among some entries, the first one under a key is found. -/
theorem find?_eq_find?_map (k : String) (m : Keyed α) :
    find? k m = (List.find? (fun e => e.1 = k) m).map Prod.snd := by
  induction m with
  | nil => rfl
  | cons e rest ih =>
    obtain ⟨l, w⟩ := e
    rw [find?_cons, List.find?_cons, ih]
    by_cases hk : k = l
    · simp [hk]
    · simp [hk, Ne.symm hk]

/-- A key is absent exactly when no entry has it. -/
theorem find?_eq_none_iff {k : String} {m : Keyed α} :
    find? k m = none ↔ ∀ v, (k, v) ∉ m := by
  rw [find?_eq_find?_map, Option.map_eq_none_iff, List.find?_eq_none]
  constructor
  · intro h v hv
    exact h _ hv (by simp)
  · rintro h ⟨l, w⟩ hw hk
    rw [decide_eq_true_eq] at hk
    exact h w (hk ▸ hw)

/-! ## Order -/

/-- The keys of the entries grow. -/
def Ordered (m : Keyed α) : Prop :=
  m.Pairwise fun a b => a.1 < b.1

theorem ordered_nil : Ordered ([] : Keyed α) :=
  List.Pairwise.nil

/-- What insertion leaves in the list: the new entry and old ones. -/
theorem mem_insert {k : String} {v : α} {m : Keyed α} {e : String × α}
    (h : e ∈ insert k v m) : e = (k, v) ∨ e ∈ m := by
  induction m with
  | nil => exact Or.inl (List.mem_singleton.mp h)
  | cons x rest ih =>
    obtain ⟨l, w⟩ := x
    rw [insert] at h
    split at h
    · exact List.mem_cons.mp h
    · split at h
      · rcases List.mem_cons.mp h with h | h
        · exact Or.inl h
        · exact Or.inr (List.mem_cons_of_mem _ h)
      · rcases List.mem_cons.mp h with h | h
        · exact Or.inr (h ▸ List.mem_cons_self)
        · rcases ih h with h | h
          · exact Or.inl h
          · exact Or.inr (List.mem_cons_of_mem _ h)

theorem ordered_insert {m : Keyed α} (h : Ordered m) (k : String) (v : α) :
    Ordered (insert k v m) := by
  induction m with
  | nil => exact List.pairwise_singleton _ _
  | cons x rest ih =>
    obtain ⟨l, w⟩ := x
    obtain ⟨hhead, hrest⟩ := List.pairwise_cons.mp h
    rw [insert]
    split
    · -- the new key is the least
      next hlt =>
      refine List.pairwise_cons.mpr ⟨?_, h⟩
      intro e he
      rcases List.mem_cons.mp he with rfl | he
      · exact hlt
      · exact String.lt_trans hlt (hhead e he)
    · next hge =>
      split
      · next heq => exact List.pairwise_cons.mpr ⟨heq ▸ hhead, hrest⟩
      · -- the new key goes further down, so the head stays the least
        next hne =>
        refine List.pairwise_cons.mpr ⟨?_, ih hrest⟩
        intro e he
        rcases mem_insert he with rfl | he
        · exact lt_of_le_of_ne (not_lt.mp hge) (Ne.symm hne)
        · exact hhead e he

/-- Searching the entries passes over a new one that is not looked for, and finds one that
is if no other is. -/
theorem findEntry_insert (q : String × α → Bool) {k : String} {m : Keyed α}
    (h : find? k m = none) (v : α) :
    (q (k, v) = false → List.find? q (m.insert k v) = List.find? q m) ∧
      (q (k, v) = true → List.find? q m = none → List.find? q (m.insert k v) = some (k, v)) := by
  induction m with
  | nil =>
    refine ⟨fun hq => ?_, fun hq _ => ?_⟩
    · rw [insert, List.find?_cons_of_neg (by rw [hq]; decide)]
    · rw [insert, List.find?_cons_of_pos hq]
  | cons e rest ih =>
    rw [find?_cons] at h
    have hne : k ≠ e.1 := by
      intro heq
      rw [if_pos heq] at h
      cases h
    rw [if_neg hne] at h
    obtain ⟨hpass, hhit⟩ := ih h
    rw [insert]
    by_cases hlt : k < e.1
    · -- the new entry comes first
      rw [if_pos hlt]
      refine ⟨fun hq => ?_, fun hq _ => List.find?_cons_of_pos hq⟩
      rw [List.find?_cons_of_neg (by rw [hq]; decide)]
    · rw [if_neg hlt, if_neg hne]
      refine ⟨fun hq => ?_, fun hq hnone => ?_⟩
      · rw [List.find?_cons, List.find?_cons, hpass hq]
      · rw [List.find?_cons] at hnone ⊢
        split at hnone
        · cases hnone
        · next he => rw [he, hhit hq hnone]

theorem ordered_filter {m : Keyed α} (h : Ordered m) (p : String × α → Bool) :
    Ordered (m.filter p) :=
  List.Pairwise.filter p h

/-- In an ordered list every entry is found under its key. -/
theorem find?_of_mem {m : Keyed α} (h : Ordered m) {k : String} {v : α}
    (hv : (k, v) ∈ m) : find? k m = some v := by
  induction m with
  | nil => simp at hv
  | cons x rest ih =>
    obtain ⟨l, w⟩ := x
    obtain ⟨hhead, hrest⟩ := List.pairwise_cons.mp h
    rw [find?_cons]
    rcases List.mem_cons.mp hv with heq | hv
    · rw [Prod.mk.injEq] at heq
      rw [if_pos heq.1, heq.2]
    · -- an entry of the rest has a greater key than the head
      rw [if_neg (Ne.symm (String.ne_of_lt (hhead _ hv))), ih hrest hv]

/-! ## Keys -/

theorem mem_keys {k : String} {m : Keyed α} : k ∈ m.keys ↔ (find? k m).isSome := by
  rw [keys, List.mem_map, ← not_iff_not, Bool.not_eq_true, Option.isSome_eq_false_iff,
    Option.isNone_iff_eq_none, find?_eq_none_iff]
  constructor
  · intro h v hv
    exact h ⟨(k, v), hv, rfl⟩
  · rintro h ⟨⟨l, v⟩, hv, rfl⟩
    exact h v hv

theorem mem_keys_insert {k k' : String} {v : α} {m : Keyed α} :
    k ∈ (m.insert k' v).keys ↔ k = k' ∨ k ∈ m.keys := by
  rw [mem_keys, mem_keys, find?_insert]
  by_cases h : k = k'
  · simp [h]
  · simp [h]

theorem ordered_insertAll {m : Keyed α} (h : Ordered m) (entries : List (String × α)) :
    Ordered (m.insertAll entries) := by
  induction entries generalizing m with
  | nil => exact h
  | cons e rest ih => exact ih (ordered_insert h e.1 e.2)

theorem mem_keys_insertAll {k : String} {m : Keyed α} {entries : List (String × α)} :
    k ∈ (m.insertAll entries).keys ↔ k ∈ m.keys ∨ k ∈ entries.map Prod.fst := by
  induction entries generalizing m with
  | nil => simp [insertAll]
  | cons e rest ih =>
    rw [insertAll, List.foldl_cons, ← insertAll, ih, mem_keys_insert, List.map_cons,
      List.mem_cons]
    tauto

theorem mem_insertAll {m : Keyed α} {entries : List (String × α)} {e : String × α}
    (h : e ∈ m.insertAll entries) : e ∈ m ∨ e ∈ entries := by
  induction entries generalizing m with
  | nil => exact Or.inl h
  | cons x rest ih =>
    rcases ih h with h | h
    · rcases mem_insert h with h | h
      · exact Or.inr (h ▸ List.mem_cons_self)
      · exact Or.inl h
    · exact Or.inr (List.mem_cons_of_mem _ h)

theorem mem_ofList {entries : List (String × α)} {e : String × α} (h : e ∈ ofList entries) :
    e ∈ entries :=
  (mem_insertAll h).resolve_left List.not_mem_nil

theorem isSome_find?_ofList {k : String} {entries : List (String × α)} :
    (find? k (ofList entries)).isSome ↔ k ∈ entries.map Prod.fst := by
  rw [← mem_keys, ofList, mem_keys_insertAll]
  simp [keys]

/-- The only value under a key is found. -/
theorem find?_ofList {k : String} {v : α} {entries : List (String × α)} (h : (k, v) ∈ entries)
    (hunique : ∀ w, (k, w) ∈ entries → w = v) : find? k (ofList entries) = some v := by
  obtain ⟨w, hw⟩ := Option.isSome_iff_exists.mp
    (isSome_find?_ofList.mpr (List.mem_map_of_mem h))
  rw [hw, hunique w (mem_ofList (mem_of_find? hw))]

/-- Of what is put in one after another the last is found, before what was there. -/
theorem find?_insertAll (k : String) (m : Keyed α) (entries : List (String × α)) :
    find? k (m.insertAll entries) = (find? k (ofList entries)).or (find? k m) := by
  induction entries generalizing m with
  | nil => rfl
  | cons e rest ih =>
    have hstep : ∀ m : Keyed α, m.insertAll (e :: rest) = (m.insert e.1 e.2).insertAll rest :=
      fun _ => rfl
    rw [ofList, hstep, hstep, ih, ih, find?_insert, find?_insert, Option.or_assoc]
    by_cases hk : k = e.1
    · rw [if_pos hk, if_pos hk, Option.some_or]
    · rw [if_neg hk, if_neg hk, find?, Option.none_or]

@[simp] theorem find?_ofList_nil (k : String) : find? k (ofList ([] : List (String × α))) = none :=
  rfl

@[simp] theorem find?_ofList_append (k : String) (as bs : List (String × α)) :
    find? k (ofList (as ++ bs)) = (find? k (ofList bs)).or (find? k (ofList as)) := by
  rw [ofList, insertAll, List.foldl_append, ← insertAll, find?_insertAll]
  rfl

@[simp] theorem find?_ofList_cons (k k' : String) (v : α) (rest : List (String × α)) :
    find? k (ofList ((k', v) :: rest)) =
      (find? k (ofList rest)).or (if k = k' then some v else none) :=
  find?_ofList_append k [(k', v)] rest

/-- Of one entry that may be left out. -/
@[simp] theorem find?_ofList_toList (k name : String) (o : Option β) (f : β → α) :
    find? k (ofList (o.map fun x => (name, f x)).toList) = if k = name then o.map f else none := by
  cases o with
  | none => simp
  | some x => simp

theorem pairwise_keys {m : Keyed α} (h : Ordered m) : m.keys.Pairwise (· < ·) :=
  List.pairwise_map.mpr h

/-! ## Two keys

Names by namespace are keyed lists of keyed lists. They are read under two
keys at once, and listed as triples. -/

/-- The value under two keys. -/
def findPair? (k l : String) (m : Keyed (Keyed α)) : Option α :=
  (find? k m).bind (find? l)

/-- All values with their two keys, in order. -/
def triples (m : Keyed (Keyed α)) : List (String × String × α) :=
  m.flatMap fun (k, inner) => inner.map fun (l, v) => (k, l, v)

/-- The lists are ordered under both keys. -/
structure OrderedPairs (m : Keyed (Keyed α)) : Prop where
  outer : Ordered m
  inner : ∀ e ∈ m, Ordered e.2

theorem findPair?_eq (k l : String) (m : Keyed (Keyed α)) :
    findPair? k l m = find? l ((find? k m).getD []) := by
  rw [findPair?]
  cases find? k m with
  | none => rfl
  | some inner => rfl

/-- Insertion under two keys changes what is found under both and nothing else. -/
theorem findPair?_insert (k l k' l' : String) (v : α) (m : Keyed (Keyed α)) :
    findPair? k' l' (m.insert k (((find? k m).getD []).insert l v)) =
      if k' = k ∧ l' = l then some v else findPair? k' l' m := by
  rw [findPair?, find?_insert]
  by_cases hk : k' = k
  · subst hk
    rw [if_pos rfl, Option.bind_some, find?_insert, findPair?_eq]
    by_cases hl : l' = l
    · rw [if_pos hl, if_pos ⟨rfl, hl⟩]
    · rw [if_neg hl, if_neg fun h => hl h.2]
  · rw [if_neg hk, if_neg fun h => hk h.1]
    rfl

theorem orderedPairs_nil : OrderedPairs ([] : Keyed (Keyed α)) :=
  ⟨ordered_nil, fun _ he => absurd he List.not_mem_nil⟩

theorem OrderedPairs.getD {m : Keyed (Keyed α)} (h : OrderedPairs m) (k : String) :
    Ordered ((find? k m).getD []) := by
  cases hk : find? k m with
  | none => exact ordered_nil
  | some inner => exact h.inner _ (mem_of_find? hk)

/-- Putting an ordered list under a key keeps the order under both keys. -/
theorem OrderedPairs.insert {m : Keyed (Keyed α)} (h : OrderedPairs m) (k : String)
    {inner : Keyed α} (hinner : Ordered inner) : OrderedPairs (m.insert k inner) := by
  refine ⟨ordered_insert h.outer k inner, ?_⟩
  intro e he
  rcases mem_insert he with rfl | he
  · exact hinner
  · exact h.inner e he

/-- The triples of ordered lists are what is found under two keys. -/
theorem mem_triples {m : Keyed (Keyed α)} (h : OrderedPairs m) {k l : String} {v : α} :
    (k, l, v) ∈ triples m ↔ findPair? k l m = some v := by
  rw [triples, List.mem_flatMap, findPair?]
  constructor
  · rintro ⟨⟨k', inner⟩, hinner, hv⟩
    obtain ⟨⟨l', w⟩, hw, heq⟩ := List.mem_map.mp hv
    simp only [Prod.mk.injEq] at heq
    obtain ⟨rfl, rfl, rfl⟩ := heq
    rw [find?_of_mem h.outer hinner, Option.bind_some]
    exact find?_of_mem (h.inner _ hinner) hw
  · intro hv
    obtain ⟨inner, hinner, hv⟩ := Option.bind_eq_some_iff.mp hv
    exact ⟨(k, inner), mem_of_find? hinner, List.mem_map.mpr ⟨(l, v), mem_of_find? hv, rfl⟩⟩

/-- No two triples of ordered lists have the same keys. -/
theorem pairwise_triples {m : Keyed (Keyed α)} (h : OrderedPairs m) :
    (triples m).Pairwise fun a b => ¬ (a.1 = b.1 ∧ a.2.1 = b.2.1) := by
  rw [triples, List.pairwise_flatMap]
  constructor
  · -- under one first key the second keys grow
    rintro ⟨k, inner⟩ hinner
    rw [List.pairwise_map]
    refine (h.inner _ hinner).imp ?_
    rintro ⟨l, v⟩ ⟨l', v'⟩ hlt ⟨-, heq⟩
    exact String.ne_of_lt hlt heq
  · -- under two first keys these differ
    refine h.outer.imp ?_
    rintro ⟨k, inner⟩ ⟨k', inner'⟩ hlt x hx y hy
    obtain ⟨⟨l, v⟩, -, rfl⟩ := List.mem_map.mp hx
    obtain ⟨⟨l', v'⟩, -, rfl⟩ := List.mem_map.mp hy
    exact fun heq => String.ne_of_lt hlt heq.1

/-! ## The last of several values -/

/-- The last of the values that some entries have for a key. -/
def lastUnder? {κ : Type} [DecidableEq κ] (k : κ) (entries : List (κ × α)) : Option α :=
  ((entries.filter fun x => x.1 = k).getLast?).map Prod.snd

section

variable {κ : Type} [DecidableEq κ]

theorem lastUnder?_append (k : κ) (entries more : List (κ × α)) :
    lastUnder? k (entries ++ more) = (lastUnder? k more).or (lastUnder? k entries) := by
  rw [lastUnder?, List.filter_append, List.getLast?_append, Option.map_or]
  rfl

/-- One more entry is the last for its key. -/
theorem lastUnder?_concat (k : κ) (entries : List (κ × α)) (x : κ × α) :
    lastUnder? k (entries ++ [x]) = if k = x.1 then some x.2 else lastUnder? k entries := by
  rw [lastUnder?_append]
  by_cases hx : k = x.1
  · simp [lastUnder?, hx]
  · simp [lastUnder?, hx, Ne.symm hx]

theorem mem_of_lastUnder? {k : κ} {entries : List (κ × α)} {v : α}
    (h : lastUnder? k entries = some v) : (k, v) ∈ entries := by
  obtain ⟨⟨k', v'⟩, hlast, rfl⟩ := Option.map_eq_some_iff.mp h
  obtain ⟨hmem, hkey⟩ := List.mem_filter.mp (List.mem_of_getLast? hlast)
  rw [← of_decide_eq_true hkey]
  exact hmem

theorem exists_lastUnder? {k : κ} {entries : List (κ × α)} {v : α} (h : (k, v) ∈ entries) :
    ∃ w, lastUnder? k entries = some w := by
  have hmem : (k, v) ∈ entries.filter fun x => x.1 = k :=
    List.mem_filter.mpr ⟨h, decide_eq_true rfl⟩
  cases hlast : (entries.filter fun x => x.1 = k).getLast? with
  | none =>
    rw [List.getLast?_eq_none_iff.mp hlast] at hmem
    exact absurd hmem List.not_mem_nil
  | some x => exact ⟨x.2, by rw [lastUnder?, hlast, Option.map_some]⟩

/-- Every entry is the last for its key if those for one key have one value. -/
theorem all_lastUnder?_iff {entries : List (κ × α)} :
    (∀ x ∈ entries, lastUnder? x.1 entries = some x.2) ↔
      ∀ x ∈ entries, ∀ y ∈ entries, x.1 = y.1 → x.2 = y.2 := by
  constructor
  · intro h x hx y hy hkey
    have hlast := h x hx
    rw [hkey, h y hy, Option.some.injEq] at hlast
    exact hlast.symm
  · intro h x hx
    obtain ⟨w, hw⟩ := exists_lastUnder? hx
    rw [hw]
    exact congrArg some (h (x.1, w) (mem_of_lastUnder? hw) x hx rfl)

theorem lastUnder?_eq_some_iff {entries : List (κ × α)} (h : (entries.map Prod.fst).Nodup)
    {k : κ} {v : α} : lastUnder? k entries = some v ↔ (k, v) ∈ entries := by
  refine ⟨mem_of_lastUnder?, fun hmem => ?_⟩
  have hsame : ∀ x ∈ entries, ∀ y ∈ entries, x.1 = y.1 → x.2 = y.2 := fun x hx y hy hkey =>
    congrArg Prod.snd (List.inj_on_of_nodup_map h hx hy hkey)
  exact all_lastUnder?_iff.mpr hsame (k, v) hmem

end

/-- Of the values under a key the last is found. -/
theorem find?_ofList_eq_lastUnder? (k : String) (entries : List (String × α)) :
    find? k (ofList entries) = lastUnder? k entries := by
  induction entries using List.reverseRecOn with
  | nil => rfl
  | append_singleton entries x ih =>
    rw [find?_ofList_append, lastUnder?_concat, ih, find?_ofList_cons, find?_ofList_nil,
      Option.none_or]
    split
    · rfl
    · rfl

/-- Of what is put in under two keys one after another, the last is found. -/
theorem findPair?_foldl_insert (k l : String) (entries : List ((String × String) × α)) :
    findPair? k l (entries.foldl
        (fun m x => m.insert x.1.1 (((find? x.1.1 m).getD []).insert x.1.2 x.2)) []) =
      lastUnder? (k, l) entries := by
  induction entries using List.reverseRecOn with
  | nil => rfl
  | append_singleton entries x ih =>
    rw [List.foldl_concat, findPair?_insert, ih, lastUnder?_concat]
    simp only [Prod.ext_iff]

end TravelModel.Keyed
