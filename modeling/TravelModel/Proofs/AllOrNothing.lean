import TravelModel.Generation.Session
import TravelModel.Proofs.Overwriting

/-!
# TravelModel — a generation writes all or nothing

A generation can fail in its checks, for its roots, or in the middle of any format, after
other formats have made their documents; and it can be cancelled before any library. The
documents are written only when all of them are made, so that such a failure leaves all
files as they were. The output directory is made first, and may be left behind.

Main results:

* `not_cancelled_of_outputFilesWhile` — a request is served only if it was not cancelled
  before any library of any format.
* `generateWhile_cases` — all that a generation can do to a tree.
* `Session.serve_failed`, `Session.serve_done` — what one request leaves behind.
* `Session.files_serveAll` — requests that all fail before anything is written change no
  file, however many they are.
* `Session.requests_all_or_nothing` — all of it for each request of a sequence.
-/

namespace TravelModel

namespace Generator

open GenerationContext

/-! ## Cancellation -/

section

variable {c : GenerationContext} {f : TargetFormat} {made made' : Emitted} {id : LibraryId}

theorem checkCancelled_eq_ok {u : Unit} (h : c.checkCancelled f id = .ok u) :
    c.cancelled f id = false := by
  rw [checkCancelled] at h
  split at h
  · cases h
  · next hrunning => exact Bool.eq_false_iff.mpr hrunning

/-- A format is made only if nothing was cancelled before any of its libraries. -/
theorem not_cancelled_of_emit (h : emit c made f = .ok made') (hid : id ∈ c.order) :
    c.cancelled f id = false := by
  -- each format asks before a library does its part
  have hparts : ∀ {α : Type} {part : LibraryId → Except GenerationError α} {parts : List α},
      (c.order.mapM fun id => do c.checkCancelled f id; part id) = .ok parts →
        c.cancelled f id = false := by
    intro α part parts hparts
    obtain ⟨made, -, hstep⟩ := exists_mem_of_mapM hparts hid
    obtain ⟨u, hcheck, -⟩ := exists_of_bind_eq_ok hstep
    exact checkCancelled_eq_ok hcheck
  cases f with
  | xmlSchema | serviceSchema | jsonSchema | openApi | swagger =>
    obtain ⟨all, hall, -⟩ := exists_of_bind_eq_ok h
    obtain ⟨parts, hall, -⟩ := exists_of_bind_eq_ok hall
    exact hparts hall

/-- A format that is cancelled before its first library is not made. -/
theorem emit_of_cancelled {rest : List LibraryId} (horder : c.order = id :: rest)
    (hcancelled : c.cancelled f id = true) : emit c made f = .error .cancelled := by
  have hcheck : c.checkCancelled f id = .error .cancelled := by
    rw [checkCancelled, hcancelled]
    rfl
  cases f with
  | xmlSchema => simp [emit, Xsd.libraryDocuments, horder, hcheck, bind, Except.bind]
  | serviceSchema => simp [emit, serviceDocuments, horder, hcheck, bind, Except.bind]
  | jsonSchema => simp [emit, jsonFiles, horder, hcheck, bind, Except.bind]
  | openApi => simp [emit, apiFiles, horder, ApiForm.format, hcheck, bind, Except.bind]
  | swagger => simp [emit, apiFiles, horder, ApiForm.format, hcheck, bind, Except.bind]

end

/-- A request that is cancelled from the start fails with the first library of the first
format. -/
theorem outputFilesWhile_cancelled {g : Generator} {options : GenerationOptions}
    {roots : List EntityId} {scope : Scope} (hcheck : options.check g.model = .ok ())
    (hscope : g.scope roots = .ok scope) {f : TargetFormat} {rest : List TargetFormat}
    (hformats : options.formats.targets = f :: rest) (horder : scope.order g.model ≠ []) :
    g.outputFilesWhile options roots (fun _ _ => true) = .error .cancelled := by
  obtain ⟨id, others, horder⟩ := List.exists_cons_of_ne_nil horder
  have hfirst : emit (g.contextWhile options scope fun _ _ => true) ([], []) f =
      .error .cancelled :=
    emit_of_cancelled horder rfl
  rw [outputFilesWhile, hcheck, hscope, hformats]
  dsimp only [bind, Except.bind]
  rw [List.foldlM_cons, hfirst]
  rfl

/-- A request is served only if it was not cancelled before any library of any format. -/
theorem not_cancelled_of_outputFilesWhile {g : Generator} {options : GenerationOptions}
    {roots : List EntityId} {cancelled : Cancellation} {files : List OutputFile}
    (h : g.outputFilesWhile options roots cancelled = .ok files) {scope : Scope}
    (hscope : g.scope roots = .ok scope) {f : TargetFormat} (hf : f ∈ options.formats.targets)
    {id : LibraryId} (hid : id ∈ scope.order g.model) : cancelled f id = false := by
  rw [outputFilesWhile] at h
  obtain ⟨-, -, h⟩ := exists_of_bind_eq_ok h
  obtain ⟨found, hfound, h⟩ := exists_of_bind_eq_ok h
  rw [hscope, Except.ok.injEq] at hfound
  subst hfound
  obtain ⟨made, hmade, -⟩ := exists_of_bind_eq_ok h
  obtain ⟨before, after, hformat⟩ := exists_of_foldlM_eq_ok hmade hf
  exact not_cancelled_of_emit (c := g.contextWhile options scope cancelled) hformat hid

end Generator

/-! ## Where files are written -/

/-- Whether an error comes from writing a file. -/
def GenerationError.isOutput : GenerationError → Bool
  | output _ _ => true
  | _ => false

namespace Generator

theorem andThen_eq_error {α β : Type} {r : TreeResult α} {next : FileTree → α → TreeResult β}
    {t' : FileTree} {e : GenerationError} (h : r.andThen next = (t', .error e)) :
    r = (t', .error e) ∨ ∃ t a, r = (t, .ok a) ∧ next t a = (t', .error e) := by
  obtain ⟨t, e | a⟩ := r
  · cases h
    exact Or.inl rfl
  · exact Or.inr ⟨t, a, rfl, h⟩

section

variable {t t' : FileTree} {e : GenerationError}

theorem isOutput_writeFile {path : String} {bytes : ByteArray}
    (h : Manifest.writeFile t path bytes = (t', .error e)) : e.isOutput = true := by
  rw [Manifest.writeFile] at h
  cases hwrite : t.write path bytes with
  | ok t₁ =>
    rw [hwrite] at h
    cases h
  | error cause =>
    rw [hwrite] at h
    cases h
    rfl

theorem isOutput_writeBelow {dir : String} {f : OutputFile}
    (h : writeBelow dir f t = (t', .error e)) : e.isOutput = true := by
  unfold writeBelow at h
  dsimp only at h
  generalize t.createDirAll (Files.parent (Files.join dir f.path)) = made at h
  cases made with
  | error cause =>
    cases h
    rfl
  | ok t₁ => exact isOutput_writeFile h

theorem isOutput_writeFiles {dir : String} {files : List OutputFile}
    (h : writeFiles dir files t = (t', .error e)) : e.isOutput = true := by
  induction files generalizing t with
  | nil => cases h
  | cons f rest ih =>
    rw [writeFiles] at h
    rcases andThen_eq_error h with h | ⟨t₁, path, -, h⟩
    · exact isOutput_writeBelow h
    · rcases andThen_eq_error h with h | ⟨t₂, paths, -, h⟩
      · exact ih h
      · cases h

theorem isOutput_writeManifest {m : Manifest} {dir generatedAt : String}
    (h : m.write t dir generatedAt = (t', .error e)) : e.isOutput = true := by
  rw [Manifest.write] at h
  rcases andThen_eq_error h with h | ⟨t₁, first, -, h⟩
  · exact isOutput_writeFile h
  · rcases andThen_eq_error h with h | ⟨t₂, second, -, h⟩
    · exact isOutput_writeFile h
    · cases h

/-- Once documents are being written, only writing can fail. -/
theorem isOutput_writeAll {options : GenerationOptions} {files : List OutputFile}
    {generatedAt : String} (h : writeAll options files generatedAt t = (t', .error e)) :
    e.isOutput = true := by
  rw [writeAll] at h
  rcases andThen_eq_error h with h | ⟨t₁, paths, -, h⟩
  · exact isOutput_writeFiles h
  · rcases andThen_eq_error h with h | ⟨t₂, more, -, h⟩
    · exact isOutput_writeManifest h
    · cases h

end

/-- The output directory is made, or the tree stays as it is. -/
theorem prepareOutput_cases (options : GenerationOptions) (t : FileTree) :
    (∃ e, options.prepareOutput t = (t, .error e)) ∨
      ∃ t', t.createDirAll options.outputDir = .ok t' ∧
        options.prepareOutput t = (t', .ok ()) := by
  unfold GenerationOptions.prepareOutput
  generalize t.createDirAll options.outputDir = made
  split
  · exact Or.inl ⟨_, rfl⟩
  · split
    · exact Or.inl ⟨_, rfl⟩
    · cases made with
      | error cause => exact Or.inl ⟨_, rfl⟩
      | ok t' => exact Or.inr ⟨t', rfl, rfl⟩

/-- All that a generation can do to a tree: nothing, make the output directory, or write
into it the files that are all made by then. -/
theorem generateWhile_cases (g : Generator) (options : GenerationOptions) (roots : List EntityId)
    (cancelled : Cancellation) (generatedAt : String) (t : FileTree) :
    (∃ e, g.generateWhile options roots cancelled generatedAt t = (t, .error e)) ∨
    ∃ t₁, t.createDirAll options.outputDir = .ok t₁ ∧
      ((∃ e, g.generateWhile options roots cancelled generatedAt t = (t₁, .error e)) ∨
        ∃ files, g.outputFilesWhile options roots cancelled = .ok files ∧
          g.generateWhile options roots cancelled generatedAt t =
            writeAll options files generatedAt t₁) := by
  rw [generateWhile]
  rcases prepareOutput_cases options t with ⟨e, h⟩ | ⟨t₁, hmade, h⟩
  · rw [h]
    exact Or.inl ⟨e, rfl⟩
  · rw [h]
    refine Or.inr ⟨t₁, hmade, ?_⟩
    dsimp only [TreeResult.andThen]
    cases g.outputFilesWhile options roots cancelled with
    | error e => exact Or.inl ⟨e, rfl⟩
    | ok files => exact Or.inr ⟨files, rfl, rfl⟩

end Generator

/-! ## Requests -/

namespace Session

open Generator GenerationContext Model Xsd

theorem generator_serve (s : Session) (q : Request) : (s.serve q).1.generator = s.generator :=
  rfl

theorem state_serve (s : Session) (q : Request) : (s.serve q).1.state = endState (s.serve q).2 :=
  rfl

theorem serve_eq (s : Session) (q : Request) :
    ((s.serve q).1.tree, (s.serve q).2) =
      s.generator.generateWhile q.options q.roots q.cancelled q.generatedAt s.tree :=
  rfl

/-- A request whose files cannot all be made. -/
theorem serve_of_outputFilesWhile_error {s : Session} {q : Request} {t₁ : FileTree}
    {e : GenerationError} (hprepared : q.options.prepareOutput s.tree = (t₁, .ok ()))
    (hfiles : s.generator.outputFilesWhile q.options q.roots q.cancelled = .error e) :
    s.serve q = ({ s with tree := t₁, state := .failed }, .error e) := by
  rw [serve, generateWhile, hprepared]
  dsimp only [TreeResult.andThen]
  rw [hfiles]
  rfl

/-- A request that fails before anything is written leaves the tree, but for the output
directory. -/
theorem serve_failed {s : Session} {q : Request} {e : GenerationError}
    (h : (s.serve q).2 = .error e) (houtput : e.isOutput = false) :
    (s.serve q).1.tree = s.tree ∨
      s.tree.createDirAll q.options.outputDir = .ok (s.serve q).1.tree := by
  have hserve := serve_eq s q
  rcases generateWhile_cases s.generator q.options q.roots q.cancelled q.generatedAt s.tree with
    ⟨e', heq⟩ | ⟨t₁, hmade, ⟨e', heq⟩ | ⟨files, -, heq⟩⟩
  · rw [heq] at hserve
    exact Or.inl (congrArg Prod.fst hserve)
  · rw [heq] at hserve
    rw [hmade]
    exact Or.inr (congrArg Except.ok (congrArg Prod.fst hserve).symm)
  · -- writing fails with another kind of error
    rw [heq, h] at hserve
    rw [isOutput_writeAll hserve.symm] at houtput
    cases houtput

/-- A request that fails before anything is written neither makes nor changes a file. -/
theorem files_serve {s : Session} {q : Request} {e : GenerationError}
    (h : (s.serve q).2 = .error e) (houtput : e.isOutput = false) (place : List String)
    (bytes : ByteArray) :
    (s.serve q).1.tree.nodeAt? place = some (.file bytes) ↔
      s.tree.nodeAt? place = some (.file bytes) := by
  rcases serve_failed h houtput with hsame | hmade
  · rw [hsame]
  · exact (FileTree.addsDirectories_createDirAll hmade).file_iff place bytes

/-- A request that succeeds writes its documents, the manifest and the checksums, and
reports them in this order. -/
theorem serve_done {s : Session} {q : Request} {report : GenerationReport}
    (h : (s.serve q).2 = .ok report) :
    ∃ t₁ files, s.tree.createDirAll q.options.outputDir = .ok t₁ ∧
      s.generator.outputFilesWhile q.options q.roots q.cancelled = .ok files ∧
      t₁.Wrote (writes q.options files q.generatedAt) (s.serve q).1.tree ∧
      report.files = (writes q.options files q.generatedAt).map Prod.fst := by
  have hserve := serve_eq s q
  rw [h] at hserve
  rcases generateWhile_cases s.generator q.options q.roots q.cancelled q.generatedAt s.tree with
    ⟨e', heq⟩ | ⟨t₁, hmade, ⟨e', heq⟩ | ⟨files, hfiles, heq⟩⟩
  · rw [heq] at hserve
    cases (Prod.mk.inj hserve).2
  · rw [heq] at hserve
    cases (Prod.mk.inj hserve).2
  · rw [heq] at hserve
    obtain ⟨hwrote, -, hpaths⟩ := wrote_writeAll hserve.symm
    exact ⟨t₁, files, hmade, hfiles, hwrote, hpaths⟩

/-! ## Sequences of requests -/

theorem serveAll_cons (s : Session) (q : Request) (qs : List Request) :
    s.serveAll (q :: qs) =
      (((s.serve q).1.serveAll qs).1, (s.serve q).2 :: ((s.serve q).1.serveAll qs).2) :=
  rfl

theorem generator_serveAll (s : Session) (qs : List Request) :
    (s.serveAll qs).1.generator = s.generator := by
  induction qs generalizing s with
  | nil => rfl
  | cons q rest ih =>
    rw [serveAll_cons]
    exact (ih (s.serve q).1).trans (generator_serve s q)

/-- Each request of a sequence is served as if it were the first one, on what those before
it have left. -/
theorem serveAll_append (s : Session) (before after : List Request) :
    (s.serveAll (before ++ after)).2 =
      (s.serveAll before).2 ++ ((s.serveAll before).1.serveAll after).2 := by
  induction before generalizing s with
  | nil => rfl
  | cons q rest ih =>
    rw [List.cons_append, serveAll_cons, serveAll_cons, ih]
    rfl

theorem length_serveAll (s : Session) (qs : List Request) :
    (s.serveAll qs).2.length = qs.length := by
  induction qs generalizing s with
  | nil => rfl
  | cons q rest ih =>
    rw [serveAll_cons, List.length_cons, List.length_cons, ih]

/-- Requests that all fail before anything is written neither make nor change a file. -/
theorem files_serveAll {s : Session} {qs : List Request}
    (h : ∀ result ∈ (s.serveAll qs).2, ∃ e, result = .error e ∧ e.isOutput = false)
    (place : List String) (bytes : ByteArray) :
    (s.serveAll qs).1.tree.nodeAt? place = some (.file bytes) ↔
      s.tree.nodeAt? place = some (.file bytes) := by
  -- the files are those that the first request leaves, which are those before it
  induction qs generalizing s with
  | nil => exact Iff.rfl
  | cons q rest ih =>
    rw [serveAll_cons] at h ⊢
    obtain ⟨e, he, houtput⟩ := h _ List.mem_cons_self
    refine (ih fun result hresult => h result (List.mem_cons_of_mem _ hresult)).trans ?_
    exact files_serve he houtput place bytes

/-- Whatever requests came before, a request that fails for its options, for its roots, for
want of a transformer or by cancellation ends in the failed state and leaves all files, and
the whole tree but for the output directory. A request that succeeds ends in the done state;
it was not cancelled before any library, and its documents, the manifest and the checksums
are written and reported in this order. A request that is cancelled from the start, or never,
is one call of `generate`. -/
theorem requests_all_or_nothing (g : Generator) (t : FileTree) (before after : List Request)
    (q : Request) :
    let start : Session := { generator := g, tree := t }
    let s := (start.serveAll before).1
    let s' := (s.serve q).1
    let result := (s.serve q).2
    (start.serveAll (before ++ q :: after)).2[before.length]? = some result ∧
    (∀ e, result = .error e → s'.state = .failed ∧ (e.isOutput = false →
      (s'.tree = s.tree ∨ s.tree.createDirAll q.options.outputDir = .ok s'.tree) ∧
      ∀ place bytes, s'.tree.nodeAt? place = some (.file bytes) ↔
        s.tree.nodeAt? place = some (.file bytes))) ∧
    (∀ report, result = .ok report → s'.state = .done ∧
      (∀ scope, g.scope q.roots = .ok scope → ∀ f ∈ q.options.formats.targets,
        ∀ id ∈ scope.order g.model, q.cancelled f id = false) ∧
      ∃ t₁ files, s.tree.createDirAll q.options.outputDir = .ok t₁ ∧
        g.outputFilesWhile q.options q.roots q.cancelled = .ok files ∧
        t₁.Wrote (writes q.options files q.generatedAt) s'.tree ∧
        report.files = files.map (fun f => Files.join q.options.outputDir f.path) ++
          [Files.join q.options.outputDir Manifest.manifestFile,
            Files.join q.options.outputDir Manifest.checksumFile]) ∧
    (∀ cancelled : Bool, (q.cancelled = fun _ _ => cancelled) →
      (s'.tree, result) = g.generate q.options q.roots cancelled q.generatedAt s.tree) ∧
    ((∀ result ∈ (start.serveAll before).2, ∃ e, result = .error e ∧ e.isOutput = false) →
      ∀ place bytes, s.tree.nodeAt? place = some (.file bytes) ↔
        t.nodeAt? place = some (.file bytes)) := by
  intro start s s' result
  have hgenerator : s.generator = g := generator_serveAll start before
  have hstate : s'.state = endState result := state_serve s q
  refine ⟨?_, fun e he => ⟨?_, fun houtput => ⟨?_, ?_⟩⟩, fun report hreport => ⟨?_, ?_, ?_⟩,
    fun cancelled hcancelled => ?_, files_serveAll⟩
  · rw [serveAll_append, List.getElem?_append_right (by rw [length_serveAll]), length_serveAll,
      Nat.sub_self, serveAll_cons]
    rfl
  · rw [hstate, he]
    rfl
  · exact serve_failed he houtput
  · exact files_serve he houtput
  · rw [hstate, hreport]
    rfl
  · obtain ⟨t₁, files, -, hfiles, -⟩ := serve_done hreport
    rw [hgenerator] at hfiles
    exact fun scope hscope f hf id hid => not_cancelled_of_outputFilesWhile hfiles hscope hf hid
  · obtain ⟨t₁, files, hmade, hfiles, hwrote, hpaths⟩ := serve_done hreport
    rw [hgenerator] at hfiles
    refine ⟨t₁, files, hmade, hfiles, hwrote, hpaths.trans ?_⟩
    rw [writes, List.map_append, List.map_map]
    rfl
  · have hserve := serve_eq s q
    rw [hgenerator, hcancelled] at hserve
    exact hserve

/-- A request for a root that is not there, and one for both libraries of the sample. -/
def missingRequest : Request :=
  { options := schemaOptions, roots := [⟨9⟩] }

def codesRequest (cancelled : Bool) : Request :=
  { options := schemaOptions, roots := [⟨0⟩, ⟨1⟩], cancelled := fun _ _ => cancelled }

/-- After a request for a root that is not there, a cancelled one leaves no file in an empty
tree; and a request for both libraries is served. -/
theorem codesRun_requests :
    let g : Generator := { model := run (codesRun "2.0.0" ++ [.refresh]) }
    let start : Session := { generator := g }
    let stopped := (start.serveAll [missingRequest]).1.serve (codesRequest true)
    let served := start.serve (codesRequest false)
    (stopped.2 = .error .cancelled ∧ stopped.1.state = .failed ∧
      ∀ place bytes, stopped.1.tree.nodeAt? place = some (.file bytes) ↔
        ({} : FileTree).nodeAt? place = some (.file bytes)) ∧
    ∃ report, served.2 = .ok report ∧ served.1.state = .done ∧
      Files.join "out" Manifest.manifestFile ∈ report.files := by
  intro g
  have hcheck : schemaOptions.check g.model = .ok () := rfl
  have hmissing : g.scope [⟨9⟩] = .error (.unknownEntity "entity#9") := by
    have hfind : ([⟨9⟩] : List EntityId).find? (fun r => (g.model.entity? r).isNone) =
        some ⟨9⟩ := by
      decide +kernel
    rw [Generator.scope, hfind]
    rfl
  have hscope : g.scope [⟨0⟩, ⟨1⟩] = .ok (Scope.build g.model [⟨0⟩, ⟨1⟩] none) := by
    have hfind : ([⟨0⟩, ⟨1⟩] : List EntityId).find? (fun r => (g.model.entity? r).isNone) =
        none := codesRun_selfContained.2.live
    rw [Generator.scope, hfind]
    rfl
  have hmem : ⟨0⟩ ∈ (Scope.build g.model [⟨0⟩, ⟨1⟩] none).order g.model := by
    have hlibrary : (g.model.library? ⟨0⟩).any (fun l => l.builtIn = false) = true := by
      decide +kernel
    rw [Option.any_eq_true] at hlibrary
    obtain ⟨l, hl, huser⟩ := hlibrary
    exact (Scope.mem_order_iff (wellFormed_run _)).mpr
      ⟨by decide +kernel, l, hl, of_decide_eq_true huser⟩
  obtain ⟨t', report, hgenerate⟩ : ∃ t' report,
      g.generate schemaOptions [⟨0⟩, ⟨1⟩] false "" {} = (t', .ok report) := by
    obtain ⟨t', report, -, hgenerate, -⟩ :=
      codesRun_selfContained.2.exists_generate (by decide +kernel) ""
    exact ⟨t', report, hgenerate⟩
  -- from here on the model is not looked at
  clear_value g
  let out : FileTree := ({} : FileTree).putAt ["out"] .directory
  have hfirst : ({ generator := g } : Session).serve missingRequest =
      ({ generator := g, tree := out, state := .failed }, .error (.unknownEntity "entity#9")) := by
    refine serve_of_outputFilesWhile_error rfl ?_
    show g.outputFilesWhile schemaOptions [⟨9⟩] _ = _
    rw [outputFilesWhile, hcheck, hmissing]
    rfl
  have hsecond : ({ generator := g, tree := out, state := .failed } : Session).serve
      (codesRequest true) =
      ({ generator := g, tree := out, state := .failed }, .error .cancelled) := by
    refine serve_of_outputFilesWhile_error rfl ?_
    have hformats : schemaOptions.formats.targets = [.xmlSchema] := rfl
    exact outputFilesWhile_cancelled hcheck hscope hformats (List.ne_nil_of_mem hmem)
  have hbefore : ({ generator := g } : Session).serveAll [missingRequest] =
      ({ generator := g, tree := out, state := .failed },
        [.error (.unknownEntity "entity#9")]) := by
    rw [serveAll_cons, hfirst]
    rfl
  obtain ⟨-, hfailed, -, -, hfiles⟩ :=
    requests_all_or_nothing g {} [missingRequest] [] (codesRequest true)
  obtain ⟨-, -, hdone, hserved, -⟩ := requests_all_or_nothing g {} [] [] (codesRequest false)
  rw [hbefore] at hfailed hfiles
  rw [hsecond] at hfailed
  obtain ⟨hstate, huntouched⟩ := hfailed .cancelled rfl
  have hold := hfiles fun result hmem => ⟨_, List.mem_singleton.mp hmem, rfl⟩
  have hreport : (({ generator := g } : Session).serve (codesRequest false)).2 = .ok report :=
    (Prod.mk.inj ((hserved false rfl).trans hgenerate)).2
  obtain ⟨hfinished, -, t₁, files, -, -, -, hpaths⟩ := hdone report hreport
  dsimp only
  rw [hbefore, hsecond]
  refine ⟨⟨rfl, hstate, fun place bytes => ?_⟩, report, hreport, hfinished, ?_⟩
  · exact ((huntouched rfl).2 place bytes).trans (hold place bytes)
  · rw [hpaths]
    exact List.mem_append_right _ List.mem_cons_self

end Session

end TravelModel
