import TravelModel.Proofs.Merging

/-!
# TravelModel — which namespaces host a library

A library without a namespace is taken in by hints: the files that a library with a namespace
includes, or that it gives for an import without one. A hint leads from the location of its
library to a location, and it ends in the name of a file. The name of the file is looked at
whether or not the hint leads to some library, so that a hint which leads to one library
takes in every other one whose file is called the same.

Main results:

* `hintMatches_iff` — when a hint takes in a library.
* `takesIn_or_misleads_iff` — by location, by the name of a file that no library has at the
  location, or in spite of another library there.
* `hosting_by_hints` — the hosts of a library in every model.
* `apartRun_misled` — a library that is hosted only because of the name of its file.
-/

namespace TravelModel

namespace Library

/-- A library gives a file from which names without a namespace are taken in. -/
def Hints (l : Library) (hint : String) : Prop :=
  hint ∈ l.includes ∨ ∃ i ∈ l.imports, i.ns = none ∧ hint ∈ i.fileHints

/-- Where a hint leads from a library. -/
def located? (l : Library) (hint : String) : Option Url :=
  l.url.bind fun u => (u.join hint).toOption

/-- A hint leads from one library to the location of another. -/
def Locates (l : Library) (hint : String) (c : Library) : Prop :=
  ∃ u, l.located? hint = some u ∧ c.url = some u

/-- A hint ends in the name of the file of a library. -/
def FileNamed (c : Library) (hint : String) : Prop :=
  c.fileName? = some (Files.lastPart hint)

/-- A hint that leads to one location leads to no other. -/
theorem not_locates {l c : Library} {hint : String} {u v : Url} (hu : l.located? hint = some u)
    (hv : c.url = some v) (hne : u ≠ v) : ¬ l.Locates hint c := by
  rintro ⟨w, hw, hc⟩
  rw [hu, Option.some.injEq] at hw
  rw [hv, Option.some.injEq] at hc
  exact hne (hw.trans hc.symm)

end Library

namespace Model

/-! ## One hint -/

theorem mem_chameleonHints {l : Library} {hint : String} :
    hint ∈ chameleonHints l ↔ l.Hints hint := by
  rw [chameleonHints, List.mem_append, List.mem_flatMap, Library.Hints]
  simp only [List.mem_filter, Option.isNone_iff_eq_none, and_assoc]

theorem hintMatches_iff {l c : Library} {hint : String} :
    hintMatches l hint c = true ↔ l.Locates hint c ∨ c.FileNamed hint := by
  rw [hintMatches, Bool.or_eq_true, Bool.and_eq_true, decide_eq_true_eq, decide_eq_true_eq]
  refine or_congr_left ?_
  rw [Option.isSome_iff_exists]
  constructor
  · rintro ⟨⟨u, hu⟩, heq⟩
    exact ⟨u, hu, heq ▸ hu⟩
  · rintro ⟨u, hu, hc⟩
    exact ⟨⟨u, hu⟩, by rw [hc]; exact hu⟩

/-- A hint takes in a library that is where it leads, and, if it leads to none of the libraries
without a namespace, one whose file has its name. -/
def TakesIn (m : Model) (c l : Library) (hint : String) : Prop :=
  l.Locates hint c ∨
    (c.FileNamed hint ∧ ∀ d ∈ m.libraries, d.isChameleon = true → ¬ l.Locates hint d)

/-- A hint leads to another library without a namespace, and has the name of the file of this
one. -/
def Misleads (m : Model) (c l : Library) (hint : String) : Prop :=
  ¬ l.Locates hint c ∧ c.FileNamed hint ∧
    ∃ d ∈ m.libraries, d.isChameleon = true ∧ l.Locates hint d

theorem takesIn_or_misleads_iff {m : Model} {c l : Library} {hint : String} :
    m.TakesIn c l hint ∨ m.Misleads c l hint ↔ l.Locates hint c ∨ c.FileNamed hint := by
  constructor
  · rintro ((hlocated | ⟨hnamed, -⟩) | ⟨-, hnamed, -⟩)
    · exact Or.inl hlocated
    · exact Or.inr hnamed
    · exact Or.inr hnamed
  · rintro (hlocated | hnamed)
    · exact Or.inl (Or.inl hlocated)
    · -- the name of the file counts, with another library at the location or without
      by_cases hlocated : l.Locates hint c
      · exact Or.inl (Or.inl hlocated)
      · by_cases hother : ∃ d ∈ m.libraries, d.isChameleon = true ∧ l.Locates hint d
        · exact Or.inr ⟨hlocated, hnamed, hother⟩
        · exact Or.inl (Or.inr ⟨hnamed, fun d hd hns hd' => hother ⟨d, hd, hns, hd'⟩⟩)

/-! ## All hints of a namespace -/

/-- Some library of a namespace has a hint of a kind. -/
def Hinted (m : Model) (ns : String) (kind : Library → String → Prop) : Prop :=
  ∃ l ∈ m.libraries, l.ns = some ns ∧ ∃ hint, l.Hints hint ∧ kind l hint

theorem hinted_or {m : Model} {ns : String} {p q : Library → String → Prop} :
    m.Hinted ns (fun l hint => p l hint ∨ q l hint) ↔ m.Hinted ns p ∨ m.Hinted ns q := by
  simp only [Hinted, and_or_left, exists_or]

theorem mem_hostsFor {m : Model} {c : Library} {ns : String} :
    ns ∈ m.hostsFor c ↔ m.Hinted ns fun l hint => l.Locates hint c ∨ c.FileNamed hint := by
  rw [hostsFor, List.mem_eraseDups, List.mem_filterMap]
  refine exists_congr fun l => and_congr_right fun _ => ?_
  -- a library without a namespace is passed over with all its hints
  have hany : ((chameleonHints l).any fun h => hintMatches l h c) = true ↔
      ∃ hint, l.Hints hint ∧ (l.Locates hint c ∨ c.FileNamed hint) := by
    simp only [List.any_eq_true, mem_chameleonHints, hintMatches_iff]
  rw [← hany, and_comm]
  split
  · next h => simp [h]
  · next h => simp [h]

/-- The hosts of a library without a namespace are given by hints. A namespace is one of them
if and only if one of its libraries has a hint that takes the library in by its location, by
the name of its file where no library without a namespace is at the location, or by the name
of its file in spite of another such library there. So the location decides unless there are
hints of the last kind only. -/
theorem hosting_by_hints (cs : List Change) :
    let m := run cs
    let t := m.buildSymbols.1
    ∀ c ∈ m.libraries, c.isChameleon = true →
      ∀ ns,
        (ns ∈ t.hostsOf c.id ↔ m.Hinted ns (m.TakesIn c) ∨ m.Hinted ns (m.Misleads c)) ∧
        ((ns ∈ t.hostsOf c.id ↔ m.Hinted ns (m.TakesIn c)) ↔
          (m.Hinted ns (m.Misleads c) → m.Hinted ns (m.TakesIn c))) := by
  intro m t c hc hchameleon ns
  have hm : m.WellFormed := wellFormed_run cs
  have hmem : ns ∈ t.hostsOf c.id ↔
      m.Hinted ns (m.TakesIn c) ∨ m.Hinted ns (m.Misleads c) := by
    rw [hostsOf_eq hm (built_buildSymbols hm).hosts hc hchameleon, mem_hostsFor, ← hinted_or]
    simp only [takesIn_or_misleads_iff]
  refine ⟨hmem, ?_⟩
  rw [hmem]
  exact or_iff_left_iff_imp

/-! ### Two files of one name -/

/-- A library in a file. -/
def fileLibrary (name : String) (ns : Option String) (includes path : List String) : Library :=
  { sampleLibrary name ns includes with
    url := some
      { scheme := "file", authority := some { userInfo := "", host := none, port := none }
        path := .rooted path, query := none, fragment := none } }

/-- The library that includes, and the two in files of the same name. -/
def apartHost : Library :=
  fileLibrary "Host" (some "urn:host") ["left/Shared.otm"] ["libs", "Host.otm"]

def apartLeft : Library :=
  { fileLibrary "Left" none [] ["libs", "left", "Shared.otm"] with id := ⟨1⟩, members := [⟨0⟩] }

def apartRight : Library :=
  { fileLibrary "Right" none [] ["libs", "right", "Shared.otm"] with id := ⟨2⟩, members := [⟨1⟩] }

/-- A namespace includes one of two libraries in files of the same name. -/
def apartRun : List Change :=
  [.add apartHost [], .add apartLeft [sampleMember "Word" (.simpleType {})],
    .add apartRight [sampleMember "Mark" (.simpleType {})]]

theorem libraries_apartRun : (run apartRun).libraries = [apartHost, apartLeft, apartRight] := by
  decide +kernel

theorem apartHost_hints {hint : String} : apartHost.Hints hint ↔ hint = "left/Shared.otm" := by
  simp [Library.Hints, apartHost, fileLibrary, sampleLibrary]

theorem apartHost_locates : apartHost.Locates "left/Shared.otm" apartLeft :=
  ⟨apartLeft.url.getD default, by decide +kernel, by decide +kernel⟩

/-- The library that the hint leads to is hosted. -/
theorem apartRun_located :
    let m := run apartRun
    (apartLeft ∈ m.libraries ∧ apartLeft.isChameleon = true) ∧
      m.Hinted "urn:host" (m.TakesIn apartLeft) ∧
      "urn:host" ∈ m.buildSymbols.1.hostsOf apartLeft.id := by
  intro m
  have hmem : apartLeft ∈ m.libraries := by
    rw [libraries_apartRun]
    exact List.mem_cons_of_mem _ List.mem_cons_self
  have hhinted : m.Hinted "urn:host" (m.TakesIn apartLeft) :=
    ⟨apartHost, libraries_apartRun ▸ List.mem_cons_self, rfl, _, apartHost_hints.mpr rfl,
      Or.inl apartHost_locates⟩
  exact ⟨⟨hmem, rfl⟩, hhinted,
    (hosting_by_hints apartRun apartLeft hmem rfl "urn:host").1.mpr (Or.inl hhinted)⟩

/-- The other library is hosted too: no hint leads to it, and the only one that has the name of
its file leads to the first library. -/
theorem apartRun_misled :
    let m := run apartRun
    (apartRight ∈ m.libraries ∧ apartRight.isChameleon = true) ∧
      ¬ m.Hinted "urn:host" (m.TakesIn apartRight) ∧
      "urn:host" ∈ m.buildSymbols.1.hostsOf apartRight.id ∧
      m.buildSymbols.1.lookup "urn:host" "Mark" = some (.entity ⟨1⟩) := by
  intro m
  refine ⟨⟨?_, rfl⟩, ?_, by decide +kernel, by decide +kernel⟩
  · rw [libraries_apartRun]
    exact List.mem_cons_of_mem _ (List.mem_cons_of_mem _ List.mem_cons_self)
  · rintro ⟨l, hl, hns, hint, hhint, htakes⟩
    -- the hint is the one of the host
    obtain rfl : l = apartHost := by
      rw [libraries_apartRun, List.mem_cons, List.mem_cons, List.mem_singleton] at hl
      rcases hl with rfl | rfl | rfl
      · rfl
      · cases hns
      · cases hns
    obtain rfl := apartHost_hints.mp hhint
    rcases htakes with hlocated | ⟨-, hnowhere⟩
    · obtain ⟨u, hu, hleft⟩ := apartHost_locates
      refine Library.not_locates hu rfl ?_ hlocated
      rintro rfl
      exact absurd hleft (by decide)
    · refine hnowhere apartLeft ?_ rfl apartHost_locates
      rw [libraries_apartRun]
      exact List.mem_cons_of_mem _ List.mem_cons_self

end Model

end TravelModel
