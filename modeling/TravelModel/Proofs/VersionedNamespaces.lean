import Mathlib.Data.List.DropRight
import TravelModel.Version.Namespace

/-!
# TravelModel — namespaces and versions convert without loss

A versioned namespace is a base, the mark `/v`, one to three numbers with underscores
between them, and at most one slash. No number and no slash at the end holds the letter of
the mark, so the last mark is the only place where a namespace can be split, also where
the base looks versioned itself; the search from the front stops nowhere before it.

Main results:

* `splitFrom_eq_some_iff` — the search for a mark finds the one place there is.
* `decompose_eq_ok_iff` — the namespaces that have a version, and the version they have.
* `suffix_compose` — what is composed has the form that is taken apart.
* `parseVersion_text` — the text of a release is read back.
* `namespaces_convert` — taking apart and composing undo each other.
-/

namespace TravelModel

namespace VersionScheme

/-! ## The form of a versioned namespace -/

/-- A text of two digits or more that stands for a number of 64 bits. -/
structure PartText (d : List Char) (n : Nat) : Prop where
  digits : ∀ c ∈ d, c.isDigit = true
  long : 2 ≤ d.length
  value : digitsValue d = n
  fits : n < Nat.pow 2 64

/-- A text of one, two or three numbers with underscores between them, and the version
that it stands for; a number that is left out is zero. -/
inductive SuffixText : List Char → Version → Prop where
  | major {d₁ : List Char} {n₁ : Nat} (h₁ : PartText d₁ n₁) : SuffixText d₁ (.release n₁ 0 0)
  | minor {d₁ d₂ : List Char} {n₁ n₂ : Nat} (h₁ : PartText d₁ n₁) (h₂ : PartText d₂ n₂) :
    SuffixText (d₁ ++ '_' :: d₂) (.release n₁ n₂ 0)
  | patch {d₁ d₂ d₃ : List Char} {n₁ n₂ n₃ : Nat} (h₁ : PartText d₁ n₁) (h₂ : PartText d₂ n₂)
    (h₃ : PartText d₃ n₃) : SuffixText (d₁ ++ '_' :: d₂ ++ '_' :: d₃) (.release n₁ n₂ n₃)

/-- A base: it is not empty and has no line break. -/
def IsBase (base : String) : Prop :=
  base ≠ "" ∧ '\n' ∉ base.toList

instance (base : String) : Decidable (IsBase base) :=
  inferInstanceAs (Decidable (_ ∧ _))

/-! ## Where a namespace is split -/

theorem splitParts_eq_splitOn (cs : List Char) : splitParts cs = cs.splitOn '_' := by
  induction cs with
  | nil => rfl
  | cons c rest ih =>
    rw [splitParts, ih, List.splitOn, List.splitOn, List.splitOnP_cons_eq_if_modifyHead]
    cases hrest : List.splitOnP (· == '_') rest with
    | nil => exact absurd hrest (List.splitOnP_ne_nil _ _)
    | cons p ps =>
      by_cases hc : c = '_'
      · simp [hc]
      · simp [hc]

theorem dropSlash_append_slash (cs : List Char) : dropSlash (cs ++ ['/']) = cs := by
  simp [dropSlash]

theorem dropSlash_eq_self {cs : List Char} (h : '/' ∉ cs) : dropSlash cs = cs := by
  rw [dropSlash]
  split
  · next r hr =>
    refine absurd ?_ h
    rw [← List.mem_reverse, hr]
    exact List.mem_cons_self
  · rfl

theorem dropSlash_cases (cs : List Char) : cs = dropSlash cs ∨ cs = dropSlash cs ++ ['/'] := by
  rw [dropSlash]
  split
  · next r hr =>
    right
    rw [← List.reverse_cons, ← hr, List.reverse_reverse]
  · exact Or.inl rfl

theorem not_mem_of_isPart {c : Char} (hc : Text.isDecimalDigit c = false) {part : List Char}
    (h : isPart part = true) : c ∉ part := by
  intro hmem
  rw [isPart, Bool.and_eq_true, List.all_eq_true] at h
  rw [h.2 c hmem] at hc
  exact Bool.noConfusion hc

/-- The parts that are found behind a mark, with what was between them. -/
structure Parts (digits : List Char) (parts : List (List Char)) : Prop where
  joined : digits = ['_'].intercalate parts ∨ digits = ['_'].intercalate parts ++ ['/']
  some : parts ≠ []
  few : parts.length ≤ 3
  all : ∀ p ∈ parts, isPart p = true

theorem mem_intercalate {c : Char} {parts : List (List Char)} (h : c ∈ ['_'].intercalate parts) :
    c = '_' ∨ ∃ p ∈ parts, c ∈ p := by
  induction parts with
  | nil => simp at h
  | cons p rest ih =>
    cases rest with
    | nil => exact Or.inr ⟨p, List.mem_cons_self, by simpa using h⟩
    | cons q rest =>
      rw [List.intercalate_cons_cons, List.mem_append, List.mem_append, List.mem_singleton] at h
      rcases h with (hc | hc) | hc
      · exact Or.inr ⟨p, List.mem_cons_self, hc⟩
      · exact Or.inl hc
      · obtain hc | ⟨x, hx, hc⟩ := ih hc
        · exact Or.inl hc
        · exact Or.inr ⟨x, List.mem_cons_of_mem p hx, hc⟩

theorem Parts.not_mem {digits : List Char} {parts : List (List Char)} (h : Parts digits parts)
    {c : Char} (hdigit : Text.isDecimalDigit c = false) (hline : c ≠ '_') (hslash : c ≠ '/') :
    c ∉ digits := by
  have hjoined : c ∉ ['_'].intercalate parts := by
    intro hc
    rcases mem_intercalate hc with hc | ⟨p, hp, hc⟩
    · exact hline hc
    · exact not_mem_of_isPart hdigit (h.all p hp) hc
  rcases h.joined with rfl | rfl
  · exact hjoined
  · simp [hjoined, hslash]

theorem suffixParts?_eq_some_iff {digits : List Char} {parts : List (List Char)} :
    suffixParts? digits = some parts ↔ Parts digits parts := by
  have hline : Text.isDecimalDigit '_' = false := by decide
  have hslash : Text.isDecimalDigit '/' = false := by decide
  rw [suffixParts?, splitParts_eq_splitOn]
  constructor
  · intro h
    split at h
    · next hall =>
      obtain rfl := Option.some.inj h
      rw [Bool.and_eq_true, decide_eq_true_eq, List.all_eq_true] at hall
      refine ⟨?_, List.splitOnP_ne_nil _ _, hall.1, hall.2⟩
      rw [List.intercalate_splitOn]
      exact dropSlash_cases digits
    · exact absurd h nofun
  · intro h
    have hdrop : dropSlash digits = ['_'].intercalate parts := by
      rcases h.joined with rfl | rfl
      · refine dropSlash_eq_self fun hmem => ?_
        rcases mem_intercalate hmem with hc | ⟨p, hp, hc⟩
        · exact absurd hc (by decide)
        · exact not_mem_of_isPart hslash (h.all p hp) hc
      · exact dropSlash_append_slash _
    have hsplit : List.splitOn '_' (dropSlash digits) = parts := by
      rw [hdrop]
      exact List.splitOn_intercalate '_' (fun p hp => not_mem_of_isPart hline (h.all p hp)) h.some
    rw [hsplit, if_pos]
    rw [Bool.and_eq_true, decide_eq_true_eq, List.all_eq_true]
    exact ⟨h.few, h.all⟩

/-- The parts behind a mark that characters start with. -/
def markedParts? (front : List Char) : List Char → Option (List (List Char))
  | '/' :: 'v' :: digits => if front.isEmpty then none else suffixParts? digits
  | _ => none

theorem splitFrom_cons (front : List Char) (c : Char) (rest : List Char) :
    splitFrom front (c :: rest) =
      ((markedParts? front (c :: rest)).map (Prod.mk front.reverse)).or
        (if c = '\n' then none else splitFrom (c :: front) rest) := by
  by_cases hmark : ∃ digits, c = '/' ∧ rest = 'v' :: digits
  · obtain ⟨digits, rfl, rfl⟩ := hmark
    rw [splitFrom, markedParts?]
    cases (if front.isEmpty then none else suffixParts? digits) <;> rfl
  · have hnone : markedParts? front (c :: rest) = none := by
      rw [markedParts?]
      intro digits h
      exact hmark ⟨digits, List.cons.inj h⟩
    rw [hnone, splitFrom]
    · rfl
    · exact fun digits hc hrest => hmark ⟨digits, hc, hrest⟩

/-- The base, the mark and the parts into which characters are split. -/
structure SplitInto (cs base : List Char) (parts : List (List Char)) : Prop where
  marked : ∃ digits, cs = base ++ '/' :: 'v' :: digits ∧ Parts digits parts
  nonempty : base ≠ []
  unbroken : '\n' ∉ base

theorem splitInto_of_splitFrom (front : List Char) {cs base : List Char} {parts : List (List Char)}
    (hfront : '\n' ∉ front) (h : splitFrom front.reverse cs = some (base, parts)) :
    SplitInto (front ++ cs) base parts := by
  induction cs generalizing front with
  | nil => exact absurd h nofun
  | cons c rest ih =>
    rw [splitFrom_cons, Option.or_eq_some_iff] at h
    rcases h with hhere | ⟨-, hlater⟩
    · obtain ⟨found, hfound, heq⟩ := Option.map_eq_some_iff.mp hhere
      rw [List.reverse_reverse] at heq
      obtain ⟨rfl, rfl⟩ := Prod.mk.inj heq
      unfold markedParts? at hfound
      split at hfound
      · next digits hmark =>
        split at hfound
        · exact absurd hfound nofun
        · next hempty =>
          rw [hmark]
          refine ⟨⟨digits, rfl, suffixParts?_eq_some_iff.mp hfound⟩, ?_, hfront⟩
          simpa using hempty
      · exact absurd hfound nofun
    · split at hlater
      · exact absurd hlater nofun
      · next hc =>
        have hnext := ih (front ++ [c]) (by simp [hfront, Ne.symm hc])
          (by simpa using hlater)
        simpa using hnext

/-- Characters that are split somewhere are not split before that: what stands behind an
earlier mark holds the letter of the later one. -/
theorem splitFrom_of_parts (front : List Char) {pre base digits : List Char}
    {parts : List (List Char)}
    (hparts : Parts digits parts) (hbase : front ++ pre = base) (hne : base ≠ [])
    (hline : '\n' ∉ base) :
    splitFrom front.reverse (pre ++ '/' :: 'v' :: digits) = some (base, parts) := by
  induction pre generalizing front with
  | nil =>
    rw [List.append_nil] at hbase
    subst hbase
    rw [List.nil_append, splitFrom_cons, markedParts?, if_neg (by simpa using hne),
      suffixParts?_eq_some_iff.mpr hparts, List.reverse_reverse]
    rfl
  | cons c rest ih =>
    have hearlier : markedParts? front.reverse (c :: (rest ++ '/' :: 'v' :: digits)) = none := by
      unfold markedParts?
      split
      · next more heq =>
        have hv : 'v' ∈ more := by
          cases rest with
          | nil => simp at heq
          | cons x rest =>
            rw [← (List.cons.inj (List.cons.inj heq).2).2]
            simp
        cases hsome : suffixParts? more with
        | none => exact ite_self none
        | some found =>
          exact absurd hv
            ((suffixParts?_eq_some_iff.mp hsome).not_mem (by decide) (by decide) (by decide))
      · rfl
    have hc : c ≠ '\n' := by
      rintro rfl
      simp [← hbase] at hline
    have hnext := ih (front ++ [c]) (by simpa using hbase)
    rw [List.cons_append, splitFrom_cons, hearlier, if_neg hc]
    simpa using hnext

/-- A namespace is split at its last mark and nowhere else. -/
theorem splitFrom_eq_some_iff {cs base : List Char} {parts : List (List Char)} :
    splitFrom [] cs = some (base, parts) ↔ SplitInto cs base parts := by
  constructor
  · intro h
    exact splitInto_of_splitFrom [] List.not_mem_nil h
  · rintro ⟨⟨digits, rfl, hparts⟩, hne, hline⟩
    exact splitFrom_of_parts [] hparts rfl hne hline

/-! ## The numbers of a version -/

theorem digitsValue_eq (ds : List Char) : digitsValue ds = Nat.ofDigitChars 10 ds 0 := by
  rw [digitsValue, Nat.ofDigitChars]
  congr 1
  funext n c
  rw [Nat.mul_comm]

theorem partNumber?_eq_some_iff {part : List Char} {n : Nat} (h : isPart part = true) :
    partNumber? part = some n ↔ PartText part n := by
  rw [isPart, Bool.and_eq_true, decide_eq_true_eq] at h
  rw [partNumber?]
  constructor
  · intro hn
    split at hn
    · next hall =>
      rw [Bool.and_eq_true, List.all_eq_true, decide_eq_true_eq] at hall
      obtain rfl := Option.some.inj hn
      exact ⟨hall.1, h.1, rfl, hall.2⟩
    · exact absurd hn nofun
  · rintro ⟨hdigits, -, rfl, hfits⟩
    rw [if_pos]
    rw [Bool.and_eq_true, List.all_eq_true, decide_eq_true_eq]
    exact ⟨hdigits, hfits⟩

theorem PartText.isPart {d : List Char} {n : Nat} (h : PartText d n) : isPart d = true := by
  rw [VersionScheme.isPart, Bool.and_eq_true, decide_eq_true_eq, List.all_eq_true]
  exact ⟨h.long, fun c hc => Text.isDecimalDigit_of_isDigit (h.digits c hc)⟩

/-- The version of some numbers; those that are left out are zero. -/
def versionOf (numbers : List Nat) : Version :=
  .release (numbers[0]?.getD 0) (numbers[1]?.getD 0) (numbers[2]?.getD 0)

theorem mapM_partNumber?_cons {p : List Char} {parts : List (List Char)} {numbers : List Nat}
    (hall : ∀ x ∈ p :: parts, isPart x = true) :
    (p :: parts).mapM partNumber? = some numbers ↔
      ∃ n rest, PartText p n ∧ parts.mapM partNumber? = some rest ∧ numbers = n :: rest := by
  rw [List.mapM_cons, Option.bind_eq_bind, Option.bind_eq_some_iff]
  constructor
  · rintro ⟨n, hn, h⟩
    obtain ⟨rest, hrest, h⟩ := Option.bind_eq_some_iff.mp h
    exact ⟨n, rest, (partNumber?_eq_some_iff (hall p List.mem_cons_self)).mp hn, hrest,
      (Option.some.inj h).symm⟩
  · rintro ⟨n, rest, hn, hrest, rfl⟩
    exact ⟨n, (partNumber?_eq_some_iff hn.isPart).mpr hn, Option.bind_eq_some_iff.mpr
      ⟨rest, hrest, rfl⟩⟩

theorem intercalate_pair (p q : List Char) : ['_'].intercalate [p, q] = p ++ '_' :: q := by
  simp [List.intercalate_cons_cons]

theorem intercalate_triple (p q r : List Char) :
    ['_'].intercalate [p, q, r] = p ++ '_' :: q ++ '_' :: r := by
  simp [List.intercalate_cons_cons]

theorem suffixText_of_mapM {parts : List (List Char)} {numbers : List Nat}
    (hsome : parts ≠ []) (hfew : parts.length ≤ 3) (hall : ∀ p ∈ parts, isPart p = true)
    (h : parts.mapM partNumber? = some numbers) :
    SuffixText (['_'].intercalate parts) (versionOf numbers) := by
  rcases parts with _ | ⟨p, parts⟩
  · exact absurd rfl hsome
  obtain ⟨n₁, rest₁, h₁, hrest₁, rfl⟩ := (mapM_partNumber?_cons hall).mp h
  rcases parts with _ | ⟨q, parts⟩
  · obtain rfl := Option.some.inj hrest₁
    rw [List.intercalate_singleton]
    exact .major h₁
  obtain ⟨n₂, rest₂, h₂, hrest₂, rfl⟩ :=
    (mapM_partNumber?_cons fun x hx => hall x (List.mem_cons_of_mem p hx)).mp hrest₁
  rcases parts with _ | ⟨r, parts⟩
  · obtain rfl := Option.some.inj hrest₂
    rw [intercalate_pair]
    exact .minor h₁ h₂
  obtain ⟨n₃, rest₃, h₃, hrest₃, rfl⟩ := (mapM_partNumber?_cons fun x hx =>
    hall x (List.mem_cons_of_mem p (List.mem_cons_of_mem q hx))).mp hrest₂
  rcases parts with _ | ⟨x, parts⟩
  · obtain rfl := Option.some.inj hrest₃
    rw [intercalate_triple]
    exact .patch h₁ h₂ h₃
  · simp only [List.length_cons] at hfew
    omega

theorem exists_parts_of_suffixText {suffix : List Char} {v : Version} (h : SuffixText suffix v) :
    ∃ parts numbers, suffix = ['_'].intercalate parts ∧ parts ≠ [] ∧ parts.length ≤ 3 ∧
      (∀ p ∈ parts, isPart p = true) ∧ parts.mapM partNumber? = some numbers ∧
      v = versionOf numbers := by
  have hnumber : ∀ {d n}, PartText d n → partNumber? d = some n :=
    fun h => (partNumber?_eq_some_iff h.isPart).mpr h
  cases h with
  | major h₁ =>
    refine ⟨[_], [_], List.intercalate_singleton.symm, List.cons_ne_nil _ _, by simp, ?_, ?_, rfl⟩
    · simpa using h₁.isPart
    · simp [hnumber h₁]
  | minor h₁ h₂ =>
    refine ⟨[_, _], [_, _], (intercalate_pair _ _).symm, List.cons_ne_nil _ _, by simp, ?_, ?_, rfl⟩
    · simpa using ⟨h₁.isPart, h₂.isPart⟩
    · simp [hnumber h₁, hnumber h₂]
  | patch h₁ h₂ h₃ =>
    refine ⟨[_, _, _], [_, _, _], (intercalate_triple _ _ _).symm, List.cons_ne_nil _ _, by simp,
      ?_, ?_, rfl⟩
    · simpa using ⟨h₁.isPart, h₂.isPart, h₃.isPart⟩
    · simp [hnumber h₁, hnumber h₂, hnumber h₃]

theorem decompose_eq_ok_iff_splitInto {ns : String} {found : VersionedNamespace} :
    decompose ns = .ok found ↔ ∃ parts numbers, SplitInto ns.toList found.base.toList parts ∧
      parts.mapM partNumber? = some numbers ∧ found.version = versionOf numbers := by
  obtain ⟨base, v⟩ := found
  simp only [← splitFrom_eq_some_iff]
  rw [decompose]
  constructor
  · intro h
    split at h
    · exact absurd h nofun
    · next front parts hsplit =>
      split at h
      · exact absurd h nofun
      · next numbers hnumbers =>
        obtain ⟨rfl, rfl⟩ := VersionedNamespace.mk.inj (Except.ok.inj h)
        exact ⟨parts, numbers, by simpa using hsplit, hnumbers, rfl⟩
  · rintro ⟨parts, numbers, hsplit, hnumbers, hv⟩
    obtain rfl : v = versionOf numbers := hv
    rw [hsplit]
    dsimp only
    rw [hnumbers, String.ofList_toList]
    rfl

theorem eq_append_iff {ns base : String} {suffix : List Char} :
    ns = base ++ "/v" ++ String.ofList suffix ↔
      ns.toList = base.toList ++ '/' :: 'v' :: suffix := by
  rw [← String.toList_inj]
  simp

theorem eq_append_slash_iff {ns base : String} {suffix : List Char} :
    ns = base ++ "/v" ++ String.ofList suffix ++ "/" ↔
      ns.toList = base.toList ++ '/' :: 'v' :: (suffix ++ ['/']) := by
  rw [← String.toList_inj]
  simp

theorem isBase_iff {base : String} : IsBase base ↔ base.toList ≠ [] ∧ '\n' ∉ base.toList := by
  rw [IsBase, ne_eq, ne_eq, ← String.toList_inj]
  rfl

/-- The namespaces that have a version, with their base and version. -/
theorem decompose_eq_ok_iff {ns base : String} {v : Version} :
    decompose ns = .ok ⟨base, v⟩ ↔
      IsBase base ∧ ∃ suffix, SuffixText suffix v ∧
        (ns = base ++ "/v" ++ String.ofList suffix ∨
          ns = base ++ "/v" ++ String.ofList suffix ++ "/") := by
  simp only [decompose_eq_ok_iff_splitInto, eq_append_iff, eq_append_slash_iff, isBase_iff]
  constructor
  · rintro ⟨parts, numbers, ⟨⟨digits, hns, hparts⟩, hne, hline⟩, hnumbers, rfl⟩
    refine ⟨⟨hne, hline⟩, ['_'].intercalate parts,
      suffixText_of_mapM hparts.some hparts.few hparts.all hnumbers, ?_⟩
    rw [hns]
    exact hparts.joined.imp (fun h => by rw [h]) fun h => by rw [h]
  · rintro ⟨⟨hne, hline⟩, suffix, hsuffix, hns⟩
    obtain ⟨parts, numbers, rfl, hsome, hfew, hall, hnumbers, rfl⟩ :=
      exists_parts_of_suffixText hsuffix
    refine ⟨parts, numbers, ⟨?_, hne, hline⟩, hnumbers, rfl⟩
    rcases hns with hns | hns
    · exact ⟨_, hns, Or.inl rfl, hsome, hfew, hall⟩
    · exact ⟨_, hns, Or.inr rfl, hsome, hfew, hall⟩

/-! ## Composing -/

theorem partText_padded {n : Nat} (h : n < Nat.pow 2 64) : PartText (padded 2 n).toList n := by
  rw [padded, String.toList_ofList]
  refine ⟨fun c hc => ?_, ?_, ?_, h⟩
  · rcases List.mem_append.mp hc with hc | hc
    · rw [List.eq_of_mem_replicate hc]
      rfl
    · exact Nat.isDigit_of_mem_toDigits (by decide) (by decide) hc
  · rw [List.length_append, List.length_replicate]
    omega
  · -- zeros in front do not change the value
    have hzeros : ∀ k, Nat.ofDigitChars 10 (List.replicate k '0') 0 = 0 := by
      intro k
      induction k with
      | zero => rfl
      | succ k ih => exact ih
    rw [digitsValue_eq, Nat.ofDigitChars_append, hzeros, Nat.ofDigitChars_ten_toDigits]

/-- The base of a namespace that is composed: slashes at the end are left out. -/
def trimmedBase (base : String) : String :=
  String.ofList (Text.dropTrailing (· = '/') base.toList)

theorem trimmedBase_trimmedBase (base : String) :
    trimmedBase (trimmedBase base) = trimmedBase base := by
  rw [trimmedBase, trimmedBase, String.toList_ofList]
  exact congrArg String.ofList (List.rdropWhile_idempotent _ _)

/-- What is composed is the base without slashes at its end, the mark and a suffix of the
version. -/
theorem suffix_compose (base : String) {major minor patch : Nat} (hmajor : major < Nat.pow 2 64)
    (hminor : minor < Nat.pow 2 64) (hpatch : patch < Nat.pow 2 64) :
    ∃ suffix, SuffixText suffix (.release major minor patch) ∧
      compose base (.release major minor patch) =
        trimmedBase base ++ "/v" ++ String.ofList suffix := by
  have h₁ := partText_padded hmajor
  have h₂ := partText_padded hminor
  have h₃ := partText_padded hpatch
  rw [compose, ← trimmedBase]
  dsimp only [Version.release]
  by_cases hp : patch = 0
  · subst hp
    by_cases hm : minor = 0
    · subst hm
      exact ⟨_, .major h₁, by simp⟩
    · exact ⟨_, .minor h₁ h₂, by simp [hm, String.append_assoc]⟩
  · exact ⟨_, .patch h₁ h₂ h₃, by simp [hp, String.append_assoc]⟩

theorem compose_trimmedBase (base : String) (v : Version) :
    compose (trimmedBase base) v = compose base v := by
  rw [compose, compose, ← trimmedBase, ← trimmedBase, trimmedBase_trimmedBase]

theorem decompose_compose {base : String} {major minor patch : Nat}
    (hbase : IsBase (trimmedBase base)) (hmajor : major < Nat.pow 2 64)
    (hminor : minor < Nat.pow 2 64) (hpatch : patch < Nat.pow 2 64) :
    decompose (compose base (.release major minor patch)) =
      .ok ⟨trimmedBase base, .release major minor patch⟩ := by
  obtain ⟨suffix, hsuffix, hcompose⟩ := suffix_compose base hmajor hminor hpatch
  exact decompose_eq_ok_iff.mpr ⟨hbase, suffix, hsuffix, Or.inl hcompose⟩

/-! ## Version identifiers -/

theorem trimBlanks_eq_self {s : String} (h : ∀ c ∈ s.toList, Text.isBlank c = false) :
    Text.trimBlanks s = s := by
  have hfront : s.toList.dropWhile Text.isBlank = s.toList := by
    refine List.dropWhile_eq_self_iff.mpr fun hlt => ?_
    simp [h]
  have hback : Text.dropTrailing Text.isBlank s.toList = s.toList := by
    refine List.rdropWhile_eq_self_iff.mpr fun hne => ?_
    simp [h]
  rw [Text.trimBlanks, Text.trimBoth, hfront, hback, String.ofList_toList]

end VersionScheme

namespace Version

theorem readDigits_digitChar (part : Part) {value d len : Nat} (hd : d < 10)
    (hzero : ¬(value = 0 ∧ len > 0)) (hfits : value * 10 + d < Nat.pow 2 64) (rest : List Char) :
    readDigits part (d.digitChar :: rest) value len =
      readDigits part rest (value * 10 + d) (len + 1) := by
  have hdigit : d.digitChar.isDigit = true := by
    refine Nat.isDigit_of_mem_toDigits (n := d) (by decide) (Nat.le_refl 10) ?_
    rw [Nat.toDigits_of_lt_base hd]
    exact List.mem_singleton_self _
  have hvalue : d.digitChar.toNat - '0'.toNat = d := by
    rw [Nat.toNat_digitChar_of_lt_ten hd]
    exact Nat.add_sub_cancel_left 48 d
  rw [readDigits, if_pos hdigit, if_neg hzero, hvalue, if_pos hfits]

/-- The digits of a number are read in full: the first is no zero unless it is the only
one, and none of the values on the way is larger. -/
theorem readDigits_toDigits (part : Part) {n : Nat} (h : n < Nat.pow 2 64) (rest : List Char) :
    readDigits part (Nat.toDigits 10 n ++ rest) 0 0 =
      readDigits part rest n (Nat.toDigits 10 n).length := by
  induction n using Nat.strong_induction_on generalizing rest with
  | _ n ih =>
    by_cases hn : n < 10
    · rw [Nat.toDigits_of_lt_base hn, List.singleton_append,
        readDigits_digitChar part hn (by omega) (by omega), Nat.zero_mul, Nat.zero_add]
      rfl
    · have hsplit : n / 10 * 10 + n % 10 = n := Nat.div_add_mod' n 10
      rw [Nat.toDigits_of_base_le (by decide) (by omega), List.append_assoc, List.singleton_append,
        ih (n / 10) (by omega) (by omega),
        readDigits_digitChar part (Nat.mod_lt n (by decide)) (by omega) (by omega), hsplit,
        List.length_append, List.length_singleton]

theorem readNumber_toDigits (part : Part) {n : Nat} (h : n < Nat.pow 2 64) (rest : List Char)
    (hrest : ∀ c ∈ rest.head?, c.isDigit = false) :
    readNumber part (Nat.toDigits 10 n ++ rest) = .ok (n, rest) := by
  have hdone : readDigits part rest n (Nat.toDigits 10 n).length =
      .ok (n, (Nat.toDigits 10 n).length, rest) := by
    cases rest with
    | nil => rfl
    | cons c rest => rw [readDigits, if_neg (by simp [hrest c rfl])]
  rw [readNumber, readDigits_toDigits part h, hdone]
  exact if_pos Nat.length_toDigits_pos

theorem toList_text_release (major minor patch : Nat) :
    (release major minor patch).text.toList =
      Nat.toDigits 10 major ++ '.' :: (Nat.toDigits 10 minor ++ '.' :: Nat.toDigits 10 patch) := by
  simp [text, release]

theorem parse_text {major minor patch : Nat} (hmajor : major < Nat.pow 2 64)
    (hminor : minor < Nat.pow 2 64) (hpatch : patch < Nat.pow 2 64) :
    parse (release major minor patch).text = .ok (release major minor patch) := by
  have h₁ := readNumber_toDigits .major hmajor
    ('.' :: (Nat.toDigits 10 minor ++ '.' :: Nat.toDigits 10 patch)) (by simp)
  have h₂ := readNumber_toDigits .minor hminor ('.' :: Nat.toDigits 10 patch) (by simp)
  have h₃ := readNumber_toDigits .patch hpatch [] (by simp)
  rw [List.append_nil] at h₃
  have hne : ¬(release major minor patch).text.toList.isEmpty := by
    simp [toList_text_release, Nat.toDigits_ne_nil]
  rw [parse]
  dsimp only
  rw [if_neg hne, toList_text_release, h₁]
  simp only [bind, Except.bind, readPoint, h₂, h₃, readMarked]
  rfl

end Version

namespace VersionScheme

theorem isBlank_of_isDigit {c : Char} (h : c.isDigit = true) : Text.isBlank c = false := by
  rw [Char.isDigit, Bool.and_eq_true, decide_eq_true_eq, decide_eq_true_eq] at h
  have hlo : 48 ≤ c.toNat := h.1
  have hhi : c.toNat ≤ 57 := h.2
  simp only [Text.isBlank, Bool.or_eq_false_iff, Bool.and_eq_false_iff, decide_eq_false_iff_not]
  omega

theorem parseVersion_eq_parse {s : String} (hblank : ∀ c ∈ s.toList, Text.isBlank c = false)
    (hmark : 'v' ∉ s.toList) (hcount : s.toList.count '.' = 2) :
    parseVersion s = Version.parse s := by
  -- the simplifier takes this from the context to pass over the case of a leading letter
  have hplain : ∀ rest, s.toList = 'v' :: rest → False := by
    intro rest hs
    rw [hs] at hmark
    exact hmark List.mem_cons_self
  simp only [parseVersion, trimBlanks_eq_self hblank, hcount]

theorem parseVersion_text {major minor patch : Nat} (hmajor : major < Nat.pow 2 64)
    (hminor : minor < Nat.pow 2 64) (hpatch : patch < Nat.pow 2 64) :
    parseVersion (Version.release major minor patch).text =
      .ok (.release major minor patch) := by
  have htext := Version.toList_text_release major minor patch
  have hdigit : ∀ {n c}, c ∈ Nat.toDigits 10 n → c.isDigit = true :=
    Nat.isDigit_of_mem_toDigits (by decide) (Nat.le_refl 10)
  have hchar : ∀ c ∈ (Version.release major minor patch).text.toList,
      c.isDigit = true ∨ c = '.' := by
    intro c hc
    simp only [htext, List.mem_append, List.mem_cons] at hc
    rcases hc with hc | hc | hc | hc | hc
    · exact Or.inl (hdigit hc)
    · exact Or.inr hc
    · exact Or.inl (hdigit hc)
    · exact Or.inr hc
    · exact Or.inl (hdigit hc)
  have hpoint : ∀ n, (Nat.toDigits 10 n).count '.' = 0 := fun n =>
    List.count_eq_zero.mpr fun hmem => absurd (hdigit hmem) (by decide)
  rw [parseVersion_eq_parse, Version.parse_text hmajor hminor hpatch]
  · intro c hc
    rcases hchar c hc with hc | rfl
    · exact isBlank_of_isDigit hc
    · rfl
  · exact fun hv => absurd (hchar 'v' hv) (by decide)
  · simp [htext, hpoint]

/-! ## Both ways -/

theorem majorNamespace_of_decompose {ns : String} {p : VersionedNamespace}
    (h : decompose ns = .ok p) :
    majorNamespace ns = .ok (compose p.base (.release p.version.major 0 0)) := by
  rw [majorNamespace, h]
  rfl

theorem majorNamespace_compose {base : String} {major minor patch : Nat}
    (hbase : IsBase (trimmedBase base)) (hmajor : major < Nat.pow 2 64)
    (hminor : minor < Nat.pow 2 64) (hpatch : patch < Nat.pow 2 64) :
    majorNamespace (compose base (.release major minor patch)) =
      .ok (compose base (.release major 0 0)) := by
  rw [majorNamespace_of_decompose (decompose_compose hbase hmajor hminor hpatch)]
  exact congrArg Except.ok (compose_trimmedBase base _)

theorem SuffixText.major_lt {suffix : List Char} {v : Version} (h : SuffixText suffix v) :
    v.major < Nat.pow 2 64 := by
  cases h with
  | major h₁ | minor h₁ | patch h₁ => exact h₁.fits

theorem isBase_trimmedBase {base : String} (h : IsBase base) (hne : trimmedBase base ≠ "") :
    IsBase (trimmedBase base) := by
  refine ⟨hne, fun hmem => h.2 ?_⟩
  rw [trimmedBase, String.toList_ofList] at hmem
  exact (List.rdropWhile_prefix _ _).subset hmem

/-- Namespaces and versions convert without loss. A namespace has a version exactly if it
is a base, `/v`, one to three numbers of two digits or more and of 64 bits with underscores
between them, and at most one slash; then base and version are the ones that are written.
What is composed from a base, whose slashes at the end are left out, and any version of
64-bit numbers is taken apart into just these and composed again into itself, its version
identifier is read as the version, and its major namespace is composed from the major
number alone and is its own major namespace. So is the major namespace of every versioned
namespace whose base is more than slashes. -/
theorem namespaces_convert :
    (∀ (ns base : String) (v : Version), decompose ns = .ok ⟨base, v⟩ ↔
      IsBase base ∧ ∃ suffix, SuffixText suffix v ∧
        (ns = base ++ "/v" ++ String.ofList suffix ∨
          ns = base ++ "/v" ++ String.ofList suffix ++ "/")) ∧
    (∀ (base : String) (major minor patch : Nat), IsBase (trimmedBase base) →
      major < Nat.pow 2 64 → minor < Nat.pow 2 64 → patch < Nat.pow 2 64 →
      let b := trimmedBase base
      let v := Version.release major minor patch
      let ns := compose base v
      decompose ns = .ok ⟨b, v⟩ ∧
      (decompose (compose b v)).map (fun p => compose p.base p.version) = .ok (compose b v) ∧
      (∃ identifier, (decompose ns).map (fun p => p.version.text) = .ok identifier ∧
        parseVersion identifier = .ok v) ∧
      majorNamespace ns = .ok (compose b (.release major 0 0)) ∧
      majorNamespace (compose b (.release major 0 0)) = .ok (compose b (.release major 0 0))) ∧
    ∀ (ns : String) (p : VersionedNamespace), decompose ns = .ok p → trimmedBase p.base ≠ "" →
      ∃ m, majorNamespace ns = .ok m ∧ majorNamespace m = .ok m := by
  have hzero : 0 < Nat.pow 2 64 := by decide
  refine ⟨fun _ _ _ => decompose_eq_ok_iff, ?_, ?_⟩
  · intro base major minor patch hbase hmajor hminor hpatch b v ns
    have hns : decompose ns = .ok ⟨b, v⟩ := decompose_compose hbase hmajor hminor hpatch
    have hfixed : compose b v = ns := compose_trimmedBase base v
    have hmajorFixed : compose b (.release major 0 0) = compose base (.release major 0 0) :=
      compose_trimmedBase base _
    refine ⟨hns, ?_, ⟨v.text, ?_, parseVersion_text hmajor hminor hpatch⟩, ?_, ?_⟩
    · rw [hfixed, hns]
      exact congrArg Except.ok hfixed
    · rw [hns]
      rfl
    · rw [hmajorFixed]
      exact majorNamespace_compose hbase hmajor hminor hpatch
    · rw [hmajorFixed]
      exact majorNamespace_compose hbase hmajor hzero hzero
  · intro ns p hp hne
    obtain ⟨hbase, suffix, hsuffix, -⟩ := decompose_eq_ok_iff.mp hp
    exact ⟨_, majorNamespace_of_decompose hp, majorNamespace_compose (isBase_trimmedBase hbase hne)
      hsuffix.major_lt hzero hzero⟩

/-- A base that looks versioned and ends in slashes, with the largest number and with a
number that is left out. -/
theorem guests_convert :
    decompose (compose "http://example.com/v01//" (.release 18446744073709551615 0 7)) =
        .ok ⟨"http://example.com/v01", .release 18446744073709551615 0 7⟩ ∧
      majorNamespace (compose "http://example.com/v01//" (.release 18446744073709551615 0 7)) =
        .ok "http://example.com/v01/v18446744073709551615" := by
  have hbase : IsBase (trimmedBase "http://example.com/v01//") := by decide
  obtain ⟨hdecompose, -, -, hmajor, -⟩ := namespaces_convert.2.1 "http://example.com/v01//"
    18446744073709551615 0 7 hbase (by decide) (by decide) (by decide)
  exact ⟨hdecompose, hmajor⟩

end VersionScheme

end TravelModel
