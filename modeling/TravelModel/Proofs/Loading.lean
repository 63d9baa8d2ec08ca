import TravelModel.Library.Loading

/-!
# TravelModel — what loading a source comes to

A document names at most one grammar, so of the grammars that a loader tries
one at most can read it, whatever their order. Loading ends with a module, with
a finding if the document breaks the strict shape of that grammar, or with no
module and one finding that says why.

Main results:

* `readBy_eq_ok_iff` — what it takes for a grammar to read a document.
* `tryGrammars_eq` — the grammars come to what the one that reads the document
  comes to.
* `load_of_reading`, `load_of_unreadable`, `load_of_missing` — the three ways a
  source is loaded.
* `load_outcomes` — which way it is, and that the order of the grammars shows in
  neither the module nor the finding on its shape.
-/

namespace TravelModel

/-! ## Reading by one grammar -/

namespace Grammar

theorem ns_inj {g g' : Grammar} (h : g.ns = g'.ns) : g = g' := by
  revert h
  cases g <;> cases g' <;> decide

theorem claims_iff {g : Grammar} {document : Json} :
    g.claims document = true ↔ document.textField? key = some g.ns :=
  decide_eq_true_iff

/-- A document names one grammar at most. -/
theorem eq_of_claims {g g' : Grammar} {document : Json} (h : g.claims document = true)
    (h' : g'.claims document = true) : g = g' := by
  rw [claims_iff] at h h'
  rw [h, Option.some.injEq] at h'
  exact ns_inj h'

/-- A module is made of a document for the location and the grammar it is read by. -/
theorem exists_frame_of_read {g : Grammar} {url : Url} {document : Json} {m : LibraryModule}
    (h : g.read url document = .ok m) :
    ∃ (frame : DocumentFrame) (members : List MemberDecl), m = frame.toModule url g members := by
  cases g with
  | v1_6 =>
    rw [read, readCurrent?] at h
    cases hread : readDocument? true MemberDecl.decode? document with
    | none =>
      rw [hread] at h
      cases h
    | some parts =>
      rw [hread] at h
      cases h
      exact ⟨_, _, rfl⟩
  | v1_5 =>
    rw [read, readInline] at h
    split at h
    · cases h
    · split at h
      · cases h
      · cases h
        exact ⟨_, _, rfl⟩
  | v1_4 =>
    rw [read, readOld?] at h
    cases hread : readDocument? false decodeOldMember? document with
    | none =>
      rw [hread] at h
      cases h
    | some parts =>
      rw [hread] at h
      cases h
      exact ⟨_, _, rfl⟩

/-- A module is tagged with the grammar that it is read by. -/
theorem grammar_of_read {g : Grammar} {url : Url} {document : Json} {m : LibraryModule}
    (h : g.read url document = .ok m) : m.grammar = g := by
  obtain ⟨frame, members, rfl⟩ := exists_frame_of_read h
  rfl

end Grammar

namespace Loader

/-- A grammar reads a document that names it and has its form. -/
theorem readBy_eq_ok_iff {g : Grammar} {url : Url} {document : Json} {m : LibraryModule}
    {places : List JsonPlace} :
    readBy g url document = .ok (m, places) ↔
      document.textField? Grammar.key = some g.ns ∧ g.read url document = .ok m ∧
        places = g.violations document := by
  rw [readBy, ← Grammar.claims_iff]
  split
  · next hclaims =>
    rw [hclaims]
    cases g.read url document with
    | error e => simp [Except.map]
    | ok m' => simp [Except.map, eq_comm]
  · next hclaims => simp [hclaims]

theorem readBy_of_not_claims {g : Grammar} {document : Json} (h : ¬ g.claims document = true)
    (url : Url) : readBy g url document = .error (.otherGrammar g) := by
  rw [readBy, if_neg h]

end Loader

/-! ## Trying grammars in turn -/

/-- How a document is read that breaks its grammar at some places, or nowhere. -/
def DocumentReading.ofPlaces (m : LibraryModule) : List JsonPlace → DocumentReading
  | [] => .clean m
  | place :: _ => .corrupt m place

namespace Loader

section

variable {url : Url} {document : Json} {gs : List Grammar}

/-- The grammars come to what the one that reads the document comes to. -/
theorem tryGrammars_eq {g : Grammar} (hg : g ∈ gs) {m : LibraryModule} {places : List JsonPlace}
    (h : readBy g url document = .ok (m, places)) (problem : Option DocumentProblem) :
    tryGrammars url document gs problem = .ofPlaces m places := by
  induction gs generalizing problem with
  | nil => exact absurd hg List.not_mem_nil
  | cons g' rest ih =>
    have hclaims := Grammar.claims_iff.mpr (readBy_eq_ok_iff.mp h).1
    by_cases hother : g'.claims document = true
    · -- the document names no other grammar, so this is the one
      rw [Grammar.eq_of_claims hother hclaims, tryGrammars, h]
      cases places <;> rfl
    · have hrest : g ∈ rest := by
        refine (List.mem_cons.mp hg).resolve_left ?_
        rintro rfl
        exact hother hclaims
      rw [tryGrammars, readBy_of_not_claims hother]
      exact ih hrest _

/-- Without a grammar that reads the document there is a problem at most. -/
theorem exists_tryGrammars_eq (h : ∀ g ∈ gs, ∀ r, readBy g url document ≠ .ok r)
    (problem : Option DocumentProblem) :
    ∃ problem', tryGrammars url document gs problem = .unreadable problem' := by
  induction gs generalizing problem with
  | nil => exact ⟨problem, rfl⟩
  | cons g rest ih =>
    cases hread : readBy g url document with
    | ok r => exact absurd hread (h g List.mem_cons_self r)
    | error e =>
      -- a problem that was there before stays, else this one does
      rw [tryGrammars, hread]
      exact ih (fun g' hg' => h g' (List.mem_cons_of_mem _ hg')) _

end

/-! ## Loading -/

/-- A source is the text of a document that names a grammar and has its form. -/
structure ReadsAs (source : ModuleSource) (document : Json) (g : Grammar) (m : LibraryModule) :
    Prop where
  json : source.bytes.bind Json.parseBytes? = some document
  names : document.textField? Grammar.key = some g.ns
  form : g.read source.url document = .ok m

/-- What is found on a source that is not read: it is missing, or it is no document
of the grammars, of which the first is named. -/
def ReportsUnread (l : Loader) (source : ModuleSource) (f : Finding) : Prop :=
  source.bytes = none ∧ f.code = .libraryNotFound ∧ f.severity = .warning ∨
    source.bytes ≠ none ∧ f.code = .unreadableLibraryContent ∧ f.severity = .error ∧
      f.args.head? = some ((l.grammars.head?.map Grammar.label).getD "?")

section

variable {l : Loader} {source : ModuleSource}

theorem readBy_of_readsAs {document : Json} {g : Grammar} {m : LibraryModule}
    (h : ReadsAs source document g m) :
    readBy g source.url document = .ok (m, g.violations document) :=
  readBy_eq_ok_iff.mpr ⟨h.names, h.form, rfl⟩

/-- A source that a grammar of the loader reads is loaded, with a finding on the
first place that breaks the grammar. -/
theorem load_of_reading {document : Json} {g : Grammar} {m : LibraryModule} (hg : g ∈ l.grammars)
    (h : ReadsAs source document g m) :
    l.load source =
      { url := source.url, module := some m
        findings := (g.violations document).head?.toList.map (l.corruptFinding m) } := by
  obtain ⟨bytes, hbytes, hjson⟩ := Option.bind_eq_some_iff.mp h.json
  rw [load, hbytes]
  dsimp only
  rw [hjson, loadDocument, tryGrammars_eq hg (readBy_of_readsAs h)]
  -- the first place makes the finding, if there is one
  cases g.violations document <;> rfl

/-- A source that no grammar of the loader reads is not loaded, with a finding that
names the first grammar. -/
theorem load_of_unreadable {bytes : ByteArray} (hbytes : source.bytes = some bytes)
    (h : ∀ document, ∀ g ∈ l.grammars, ∀ m, ¬ ReadsAs source document g m) :
    ∃ problem, l.load source =
      { url := source.url, module := none
        findings := [l.unreadableFinding source.url problem] } := by
  rw [load, hbytes]
  dsimp only
  cases hjson : Json.parseBytes? bytes with
  | none => exact ⟨_, rfl⟩
  | some document =>
    -- a grammar that read the document would read the source
    have hnone : ∀ g ∈ l.grammars, ∀ r, readBy g source.url document ≠ .ok r := by
      intro g hg r hr
      obtain ⟨hnames, hform, -⟩ := readBy_eq_ok_iff.mp hr
      exact h document g hg r.1 ⟨by rw [hbytes]; exact hjson, hnames, hform⟩
    obtain ⟨problem, hproblem⟩ := exists_tryGrammars_eq hnone none
    rw [loadDocument, hproblem]
    exact ⟨problem, rfl⟩

theorem load_of_missing (h : source.bytes = none) :
    l.load source =
      { url := source.url, module := none
        findings := [.report source.url.text .libraryNotFound [source.url.text]] } := by
  rw [load, h]

/-- A source that is not read leaves no module and one finding. -/
theorem load_of_not_reading
    (h : ∀ document, ∀ g ∈ l.grammars, ∀ m, ¬ ReadsAs source document g m) :
    ∃ f, l.ReportsUnread source f ∧
      l.load source = { url := source.url, module := none, findings := [f] } := by
  cases hbytes : source.bytes with
  | none => exact ⟨_, Or.inl ⟨hbytes, rfl, rfl⟩, load_of_missing hbytes⟩
  | some bytes =>
    obtain ⟨problem, hload⟩ := load_of_unreadable hbytes h
    exact ⟨_, Or.inr ⟨hbytes ▸ Option.some_ne_none bytes, rfl, rfl, rfl⟩, hload⟩

/-- A source is read by a grammar of the loader, or it is not. -/
theorem load_cases (l : Loader) (source : ModuleSource) :
    (∃ document g m, g ∈ l.grammars ∧ ReadsAs source document g m ∧
      l.load source =
        { url := source.url, module := some m
          findings := (g.violations document).head?.toList.map (l.corruptFinding m) }) ∨
    ((∀ document, ∀ g ∈ l.grammars, ∀ m, ¬ ReadsAs source document g m) ∧
      ∃ f, l.ReportsUnread source f ∧
        l.load source = { url := source.url, module := none, findings := [f] }) := by
  by_cases hread : ∃ document g m, g ∈ l.grammars ∧ ReadsAs source document g m
  · obtain ⟨document, g, m, hg, hm⟩ := hread
    exact Or.inl ⟨document, g, m, hg, hm, load_of_reading hg hm⟩
  · have hnone : ∀ document, ∀ g ∈ l.grammars, ∀ m, ¬ ReadsAs source document g m :=
      fun document g hg m hm => hread ⟨document, g, m, hg, hm⟩
    exact Or.inr ⟨hnone, load_of_not_reading hnone⟩

/-- A module comes of a source exactly when a grammar of the loader reads it. -/
theorem module_load_eq_some_iff {m : LibraryModule} :
    (l.load source).module = some m ↔
      ∃ document, ∃ g ∈ l.grammars, ReadsAs source document g m := by
  constructor
  · intro h
    rcases load_cases l source with ⟨document, g, m', hg, hm', hload⟩ | ⟨-, f, -, hload⟩
    · rw [hload, Option.some.injEq] at h
      exact ⟨document, g, hg, h ▸ hm'⟩
    · rw [hload] at h
      cases h
  · rintro ⟨document, g, hg, h⟩
    rw [load_of_reading hg h]

theorem withCode_of_reportsUnread {f : Finding} (h : l.ReportsUnread source f) :
    Findings.withCode [f] .corruptLibraryContent = [] := by
  rcases h with ⟨-, hcode, -⟩ | ⟨-, hcode, -⟩ <;> simp [Findings.withCode, hcode]

/-- Which grammars are tried shows in the module and in the finding on its shape;
their order does not. -/
theorem load_congr {l' : Loader} (hgrammars : ∀ g, g ∈ l'.grammars ↔ g ∈ l.grammars)
    (hfallback : l'.fallback = l.fallback) :
    (l'.load source).module = (l.load source).module ∧
      (l'.load source).findings.withCode .corruptLibraryContent =
        (l.load source).findings.withCode .corruptLibraryContent := by
  rcases load_cases l source with ⟨document, g, m, hg, hm, hload⟩ | ⟨hnone, f, hf, hload⟩
  · have hfinding : l'.corruptFinding m = l.corruptFinding m := by
      funext place
      rw [corruptFinding, corruptFinding, hfallback]
    rw [hload, load_of_reading ((hgrammars g).mpr hg) hm, hfinding]
    exact ⟨rfl, rfl⟩
  · obtain ⟨f', hf', hload'⟩ := load_of_not_reading (l := l')
      fun document g hg => hnone document g ((hgrammars g).mp hg)
    -- neither finding is on the shape of a document
    rw [hload, hload']
    exact ⟨rfl, (withCode_of_reportsUnread hf').trans (withCode_of_reportsUnread hf).symm⟩

end

/-- Loading a source ends in a module without a finding, in a module with one
finding on the shape of the document, or in one finding alone: that the source is
missing, or that it cannot be read, by the first grammar. There is a module
exactly when the source is a JSON document that names one of the grammars and
has its form; the module is tagged with that grammar, and the finding on the
shape is there exactly when the document breaks it. Neither depends on the order
of the grammars. -/
theorem load_outcomes (l : Loader) (source : ModuleSource) :
    let r := l.load source
    ((∃ m, r.module = some m ∧ r.findings = []) ∨
      (∃ m f, r.module = some m ∧ r.findings = [f] ∧ f.code = .corruptLibraryContent ∧
        f.severity = l.fallback) ∨
      (∃ f, r.module = none ∧ r.findings = [f] ∧ l.ReportsUnread source f)) ∧
    (∀ m, r.module = some m ↔ ∃ document, ∃ g ∈ l.grammars, ReadsAs source document g m) ∧
    (∀ document g m, g ∈ l.grammars → ReadsAs source document g m →
      m.grammar = g ∧
        ((∃ f ∈ r.findings, f.code = .corruptLibraryContent) ↔ g.violations document ≠ [])) ∧
    (∀ l' : Loader, (∀ g, g ∈ l'.grammars ↔ g ∈ l.grammars) → l'.fallback = l.fallback →
      (l'.load source).module = r.module ∧
        (l'.load source).findings.withCode .corruptLibraryContent =
          r.findings.withCode .corruptLibraryContent) := by
  intro r
  refine ⟨?_, fun m => module_load_eq_some_iff, ?_, fun l' => load_congr⟩
  · rcases load_cases l source with ⟨document, g, m, -, -, hload⟩ | ⟨-, f, hf, hload⟩
    · have hmodule : r.module = some m := congrArg LoadResult.module hload
      have hfindings : r.findings = _ := congrArg LoadResult.findings hload
      cases hplaces : g.violations document with
      | nil =>
        rw [hplaces] at hfindings
        exact Or.inl ⟨m, hmodule, hfindings⟩
      | cons place rest =>
        rw [hplaces] at hfindings
        exact Or.inr (Or.inl ⟨m, _, hmodule, hfindings, rfl, rfl⟩)
    · exact Or.inr (Or.inr ⟨f, congrArg LoadResult.module hload,
        congrArg LoadResult.findings hload, hf⟩)
  · intro document g m hg hm
    have hfindings : r.findings = _ := congrArg LoadResult.findings (load_of_reading hg hm)
    refine ⟨Grammar.grammar_of_read hm.form, ?_⟩
    rw [hfindings]
    cases g.violations document with
    | nil => simp
    | cons place rest => simp [corruptFinding]

/-- A document of version 1.4 with a field too many. -/
def sampleSource : ModuleSource :=
  { url :=
      { scheme := "file", authority := none, path := .rooted ["Old.otm"], query := none
        fragment := none }
    bytes := some <| String.toUTF8 <|
      "\x7b\"$grammar\": \"http://www.OpenTravel.org/ns/OTA2/LibraryModel_v01_04\", " ++
        "\"name\": \"Old\", \"members\": [], \"more\": 1\x7d" }

/-- The sample is loaded by its grammar, second or first, with a finding on its
shape. -/
theorem sampleSource_loaded :
    let l : Loader := { grammars := [.v1_5, .v1_4], fallback := .error }
    let l' : Loader := { grammars := [.v1_4, .v1_5], fallback := .error }
    ∃ document m, ReadsAs sampleSource document .v1_4 m ∧
      (l.load sampleSource).module = some m ∧ m.grammar = .v1_4 ∧
      (∃ f ∈ (l.load sampleSource).findings, f.code = .corruptLibraryContent) ∧
      (l'.load sampleSource).module = some m := by
  intro l l'
  have htest : (sampleSource.bytes.bind Json.parseBytes?).any (fun document =>
      document.textField? Grammar.key = some Grammar.v1_4.ns &&
        (Grammar.v1_4.read sampleSource.url document).isOk &&
        Grammar.v1_4.violations document ≠ []) = true := by
    decide +kernel
  obtain ⟨document, hjson, htest⟩ := (Option.any_eq_true ..).mp htest
  rw [Bool.and_eq_true, Bool.and_eq_true, decide_eq_true_eq, decide_eq_true_eq] at htest
  obtain ⟨⟨hnames, hform⟩, hplaces⟩ := htest
  cases hread : Grammar.v1_4.read sampleSource.url document with
  | error e =>
    rw [hread] at hform
    cases hform
  | ok m =>
    have hm : ReadsAs sampleSource document .v1_4 m := ⟨hjson, hnames, hread⟩
    obtain ⟨-, hmodule, hshape, horder⟩ := load_outcomes l sampleSource
    have hloaded := (hmodule m).mpr ⟨document, .v1_4, by decide, hm⟩
    obtain ⟨htag, hfinding⟩ := hshape document .v1_4 m (by decide) hm
    have hswapped := horder l' (by intro g; cases g <;> decide) rfl
    exact ⟨document, m, hm, hloaded, htag, hfinding.mpr hplaces, hswapped.1.trans hloaded⟩

end Loader

end TravelModel
