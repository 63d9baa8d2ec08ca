/-!
# TravelModel — splitting texts

A text is split at each separator, so there is one part more than there are
separators.
-/

namespace TravelModel.Text

/-- Splits characters at a separator. -/
def splitChars (sep : Char) : List Char → List (List Char)
  | [] => [[]]
  | c :: rest =>
    match splitChars sep rest with
    | [] => [[c]]
    | head :: tail => if c = sep then [] :: head :: tail else (c :: head) :: tail

/-- There is always a part. -/
theorem splitChars_ne_nil (sep : Char) (cs : List Char) : splitChars sep cs ≠ [] := by
  induction cs with
  | nil => simp [splitChars]
  | cons c rest ih =>
    rw [splitChars]
    split
    · simp
    · split <;> simp

theorem splitChars_cons_sep (sep : Char) (cs : List Char) :
    splitChars sep (sep :: cs) = [] :: splitChars sep cs := by
  rw [splitChars]
  split
  · next h => exact absurd h (splitChars_ne_nil sep cs)
  · next h => rw [if_pos rfl, h]

theorem splitChars_append_sep (sep : Char) (xs ys : List Char) :
    splitChars sep (xs ++ sep :: ys) = splitChars sep xs ++ splitChars sep ys := by
  induction xs with
  | nil => exact splitChars_cons_sep sep ys
  | cons c rest ih =>
    rw [List.cons_append, splitChars, splitChars, ih]
    cases hrest : splitChars sep rest with
    | nil => exact absurd hrest (splitChars_ne_nil sep rest)
    | cons part parts =>
      by_cases hc : c = sep
      · simp [hc]
      · simp [hc]

theorem splitChars_of_notMem {sep : Char} {cs : List Char} (h : sep ∉ cs) :
    splitChars sep cs = [cs] := by
  induction cs with
  | nil => rfl
  | cons c rest ih =>
    rw [List.mem_cons, not_or] at h
    rw [splitChars, ih h.2]
    simp [Ne.symm h.1]

theorem notMem_of_mem_splitChars {sep : Char} {cs part : List Char}
    (h : part ∈ splitChars sep cs) : sep ∉ part := by
  induction cs generalizing part with
  | nil =>
    rw [splitChars, List.mem_singleton] at h
    rw [h]
    exact List.not_mem_nil
  | cons c rest ih =>
    rw [splitChars] at h
    split at h
    · next hnil => exact absurd hnil (splitChars_ne_nil sep rest)
    · next head tail hrest =>
      rw [hrest] at ih
      split at h
      · next hc =>
        rcases List.mem_cons.mp h with rfl | h
        · exact List.not_mem_nil
        · exact ih h
      · next hc =>
        rcases List.mem_cons.mp h with rfl | h
        · rw [List.mem_cons, not_or]
          exact ⟨Ne.symm hc, ih List.mem_cons_self⟩
        · exact ih (List.mem_cons_of_mem _ h)

theorem splitChars_concat {sep c : Char} (hc : c ≠ sep) (cs : List Char) :
    ∃ before last, splitChars sep (cs ++ [c]) = before ++ [last ++ [c]] := by
  induction cs with
  | nil => exact ⟨[], [], splitChars_of_notMem (by simpa using hc.symm)⟩
  | cons first rest ih =>
    -- a separator starts a part; any other character goes to the first one, which may be the last
    obtain ⟨before, last, hrest⟩ := ih
    rw [List.cons_append, splitChars, hrest]
    cases before with
    | nil =>
      by_cases hfirst : first = sep
      · exact ⟨[[]], last, if_pos hfirst⟩
      · exact ⟨[], first :: last, if_neg hfirst⟩
    | cons part parts =>
      by_cases hfirst : first = sep
      · exact ⟨[] :: part :: parts, last, if_pos hfirst⟩
      · exact ⟨(first :: part) :: parts, last, if_neg hfirst⟩

/-- There is one part more than there are separators. -/
theorem length_splitChars (sep : Char) (cs : List Char) :
    (splitChars sep cs).length = cs.count sep + 1 := by
  induction cs with
  | nil => rfl
  | cons c rest ih =>
    rw [splitChars]
    split
    · next hnil => exact absurd hnil (splitChars_ne_nil sep rest)
    · next head tail hrest =>
      rw [hrest, List.length_cons] at ih
      by_cases hc : c = sep
      · simp [hc, ih]
      · simp [hc, ih]

end TravelModel.Text
