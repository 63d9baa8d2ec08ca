import TravelModel.Proofs.OutputNames
import TravelModel.Proofs.WrittenFiles

/-!
# TravelModel — files that are overwritten

A generation writes its files one after the other, and a file whose path is taken
replaces the one that was there. The manifest lists both, so what it says of the first is
not what is found afterwards.

Main results:

* `perm_outputFiles` — the paths of the files that a refreshed model gives are those of
  the names of the generation.
* `generate_overwrites_iff` — a generation without errors has one file for each path
  unless names meet in one of the ways listed before, and verifies right after.
-/

namespace TravelModel

open Xsd

namespace Generator

open GenerationContext Model

theorem scope_eq_ok {g : Generator} {roots : List EntityId} {scope : Scope}
    (h : g.scope roots = .ok scope) :
    ∃ roots', scope = Scope.build g.model roots' g.globalScope := by
  rw [Generator.scope] at h
  split at h
  · cases h
  · exact ⟨_, (Except.ok.inj h).symm⟩

theorem outputFiles_eq_ok {g : Generator} {options : GenerationOptions} {roots : List EntityId}
    {cancelled : Bool} {files : List OutputFile}
    (h : g.outputFiles options roots cancelled = .ok files) :
    ∃ scope made, g.scope roots = .ok scope ∧
      options.formats.targets.foldlM (emit (g.context options scope cancelled)) ([], []) =
        .ok made ∧
      files = made.2 ++ consolidate (g.context options scope cancelled) made.1 := by
  rw [outputFiles, outputFilesWhile] at h
  obtain ⟨-, -, h⟩ := exists_of_bind_eq_ok h
  obtain ⟨scope, hscope, h⟩ := exists_of_bind_eq_ok h
  obtain ⟨made, hmade, h⟩ := exists_of_bind_eq_ok h
  exact ⟨scope, made, hscope, hmade, (Except.ok.inj h).symm⟩

/-- The files that a refreshed model gives for some roots. -/
theorem perm_outputFiles {cs : List Change} {options : GenerationOptions} {roots : List EntityId}
    {files : List OutputFile} (hoverrides : options.filenameOverrides = [])
    (h : ({ model := run (cs ++ [.refresh]) } : Generator).outputFiles options roots false =
      .ok files) :
    let g : Generator := { model := run (cs ++ [.refresh]) }
    ∃ scope roots', g.scope roots = .ok scope ∧ scope = Scope.build g.model roots' none ∧
      (files.map OutputFile.path).Perm
        ((g.context options scope false).outputNames.map OutputName.path) := by
  intro g
  obtain ⟨scope, made, hscope, hmade, hfiles⟩ := outputFiles_eq_ok h
  obtain ⟨roots', rfl⟩ := scope_eq_ok hscope
  have hclosed := closed_context cs roots' options
  rw [foldlM_emit hclosed, List.nil_append, List.nil_append, Except.ok.injEq] at hmade
  rw [← hmade] at hfiles
  exact ⟨_, roots', hscope, rfl, paths_outputFiles hclosed hoverrides hfiles⟩

theorem addsDirectories_prepareOutput {options : GenerationOptions} {t t' : FileTree}
    (h : options.prepareOutput t = (t', .ok ())) : t.AddsDirectories t' := by
  unfold GenerationOptions.prepareOutput at h
  generalize hmade : t.createDirAll options.outputDir = made at h
  split at h
  · cases h
  · split at h
    · cases h
    · cases made with
      | error e => cases h
      | ok t₁ =>
        cases h
        exact FileTree.addsDirectories_createDirAll hmade

theorem generate_eq_ok {g : Generator} {options : GenerationOptions} {roots : List EntityId}
    {cancelled : Bool} {generatedAt : String} {t t' : FileTree} {report : GenerationReport}
    (h : g.generate options roots cancelled generatedAt t = (t', .ok report)) :
    ∃ t₁ files, t.AddsDirectories t₁ ∧ g.outputFiles options roots cancelled = .ok files ∧
      writeAll options files generatedAt t₁ = (t', .ok report) := by
  rw [generate, generateWhile, ← outputFiles] at h
  obtain ⟨t₁, done, hprepared, h⟩ := andThen_eq_ok h
  cases hfiles : g.outputFiles options roots cancelled with
  | error e =>
    rw [hfiles] at h
    cases h
  | ok files =>
    rw [hfiles] at h
    exact ⟨t₁, files, addsDirectories_prepareOutput hprepared, rfl, h⟩

/-! ### Two libraries of one name -/

/-- Two namespaces that have a library with the same name. -/
def codesRun (version : String) : List Change :=
  [.add (sampleLibrary "Codes" (some "urn:a") []) [sampleMember "Code" (.simpleType {})],
    .add { sampleLibrary "Codes" (some "urn:b") [] with version }
      [sampleMember "Name" (.simpleType {})]]

theorem linkNames_eq_nil {c : GenerationContext} {documents : List Document}
    (h : Unlinked documents)
    (hnone : ∀ d ∈ documents, ∀ i, ∀ q ∈ d.schema.references, ¬ AsksImport c documents d i q) :
    c.linkNames documents = [] := by
  obtain ⟨hnomade, hunimported⟩ := linkedDocuments_of_no_import h hnone
  rw [linkedDocuments_eq] at hnomade
  rw [linkNames, if_neg hunimported, List.map_eq_nil_iff.mp hnomade]
  rfl

theorem exists_generate {g : Generator} {options : GenerationOptions} {roots : List EntityId}
    {cancelled : Bool} (generatedAt : String) {t t₁ : FileTree} {files : List OutputFile}
    (hprepared : options.prepareOutput t = (t₁, .ok ()))
    (hfiles : g.outputFiles options roots cancelled = .ok files)
    (hopen : ∀ path ∈ files.map OutputFile.path ++
      [Manifest.manifestFile, Manifest.checksumFile],
        t₁.Open (Files.join options.outputDir path)) :
    ∃ t' report, g.generate options roots cancelled generatedAt t = (t', .ok report) := by
  rw [generate, generateWhile, hprepared]
  dsimp only [TreeResult.andThen]
  rw [← outputFiles, hfiles]
  exact exists_writeAll generatedAt hopen

theorem exists_outputFiles {cs : List Change} {options : GenerationOptions}
    {roots roots' : List EntityId}
    (hcheck : options.check (run (cs ++ [.refresh])) = .ok ())
    (hscope : ({ model := run (cs ++ [.refresh]) } : Generator).scope roots =
      .ok (Scope.build (run (cs ++ [.refresh])) roots' none)) :
    ∃ files, ({ model := run (cs ++ [.refresh]) } : Generator).outputFiles options roots false =
      .ok files := by
  rw [outputFiles, outputFilesWhile, hcheck, hscope]
  dsimp only [bind, Except.bind]
  rw [← context, foldlM_emit (closed_context cs roots' options)]
  exact ⟨_, rfl⟩

/-- The roots are there and bring all libraries of the user into scope, and no library
refers to another one. -/
structure SelfContained (m : Model) (roots : List EntityId) : Prop where
  live : (roots.find? fun r => (m.entity? r).isNone) = none
  nonempty : roots.isEmpty = false
  all : ∀ l ∈ m.libraries, l.builtIn = false → l.id ∈ (Scope.build m roots none).libraries
  references : ∀ d ∈ (schemaContext m roots).librarySchemas, ∀ q ∈ d.schema.references,
    q.ns = some primitiveNamespace

theorem SelfContained.mem_outputNames {cs : List Change} {roots : List EntityId}
    (h : SelfContained (run (cs ++ [.refresh])) roots) {n : OutputName}
    (hn : n ∈ (schemaContext (run (cs ++ [.refresh])) roots).outputNames) :
    ∃ l ∈ (run (cs ++ [.refresh])).libraries, n = .library (Naming.libraryStem l) := by
  have hc : (schemaContext (run (cs ++ [.refresh])) roots).Closed := closed_context cs roots _
  obtain ⟨made, hemit, hunlinked, hmade⟩ := exists_librarySchemas cs roots h.all
  rw [foldlM_emit hc, List.nil_append, Except.ok.injEq] at hemit
  rcases GenerationContext.mem_outputNames.mp hn with
    ⟨format, hformat, ⟨l, hl, hn⟩ | ⟨e, he, hn⟩⟩ | hn
  · rw [List.mem_singleton.mp hformat] at hn
    exact ⟨l, mem_libraries.mpr ⟨_, ((mem_orderedLibraries hc.settled.wellFormed).mp hl).2⟩,
      List.mem_singleton.mp hn⟩
  · rw [List.mem_singleton.mp hformat] at hn
    exact absurd hn List.not_mem_nil
  · rw [← hemit] at hunlinked hmade
    rw [linkNames_eq_nil hunlinked] at hn
    · exact absurd hn List.not_mem_nil
    · rintro d hd i q hq ⟨hns, hprimitive, -⟩
      rw [h.references d ((hmade d).mp hd) q hq, Option.some.injEq] at hns
      exact hprimitive hns.symm

theorem SelfContained.mem_orderedLibraries {m : Model} {roots : List EntityId}
    (h : SelfContained m roots) (hm : m.WellFormed) {l : Library} (hl : l ∈ m.libraries)
    (huser : l.builtIn = false) : l ∈ (schemaContext m roots).orderedLibraries := by
  obtain ⟨id, hid⟩ := mem_libraries.mp hl
  rw [← hm.library_id hid] at hid
  exact (GenerationContext.mem_orderedLibraries hm).mpr
    ⟨(Scope.mem_order_iff hm).mpr ⟨h.all l hl huser, l, hid, huser⟩, hid⟩

/-- The schemas of such libraries are written into an empty tree. -/
theorem SelfContained.exists_generate {cs : List Change} {roots : List EntityId}
    (h : SelfContained (run (cs ++ [.refresh])) roots)
    (hopen : ∀ path ∈ (run (cs ++ [.refresh])).libraries.map (fun l =>
        (OutputName.library (Naming.libraryStem l)).path) ++
          [Manifest.manifestFile, Manifest.checksumFile],
      (({} : FileTree).putAt ["out"] .directory).Open (Files.join "out" path))
    (generatedAt : String) :
    let g : Generator := { model := run (cs ++ [.refresh]) }
    ∃ t' report files,
      g.generate schemaOptions roots false generatedAt {} = (t', .ok report) ∧
      g.outputFiles schemaOptions roots false = .ok files ∧
      g.scope roots = .ok (Scope.build g.model roots none) ∧
      (files.map OutputFile.path).Perm
        ((schemaContext g.model roots).outputNames.map OutputName.path) ∧
      ∀ f ∈ files, ∃ l ∈ g.model.libraries,
        f.path = (OutputName.library (Naming.libraryStem l)).path := by
  intro g
  have hscope : g.scope roots = .ok (Scope.build g.model roots none) := by
    rw [Generator.scope, h.live]
    dsimp only
    rw [h.nonempty]
    rfl
  have hcheck : schemaOptions.check g.model = .ok () := rfl
  obtain ⟨files, hfiles⟩ := exists_outputFiles hcheck hscope
  obtain ⟨scope, -, hscope', -, hperm⟩ := perm_outputFiles rfl hfiles
  rw [hscope, Except.ok.injEq] at hscope'
  subst hscope'
  have hpaths : ∀ f ∈ files, ∃ l ∈ g.model.libraries,
      f.path = (OutputName.library (Naming.libraryStem l)).path := by
    intro f hf
    obtain ⟨n, hn, hpath⟩ := List.mem_map.mp (hperm.mem_iff.mp (List.mem_map_of_mem hf))
    obtain ⟨l, hl, rfl⟩ := h.mem_outputNames hn
    exact ⟨l, hl, hpath.symm⟩
  have hprepared : schemaOptions.prepareOutput {} =
      (({} : FileTree).putAt ["out"] .directory, .ok ()) := rfl
  obtain ⟨t', report, hgenerate⟩ := Generator.exists_generate generatedAt hprepared hfiles (by
    intro path hpath
    refine hopen path (List.mem_append.mpr ((List.mem_append.mp hpath).imp_left fun hfile => ?_))
    obtain ⟨f, hf, rfl⟩ := List.mem_map.mp hfile
    obtain ⟨l, hl, hlpath⟩ := hpaths f hf
    exact List.mem_map.mpr ⟨l, hl, hlpath.symm⟩)
  exact ⟨t', report, files, hgenerate, hfiles, hscope, hperm, hpaths⟩

theorem codesRun_selfContained :
    SelfContained (run (codesRun "1.0.0" ++ [.refresh])) [⟨0⟩, ⟨1⟩] ∧
      SelfContained (run (codesRun "2.0.0" ++ [.refresh])) [⟨0⟩, ⟨1⟩] := by
  refine ⟨⟨?_, ?_, ?_, ?_⟩, ⟨?_, ?_, ?_, ?_⟩⟩ <;> decide +kernel

/-- Where no errors were reported and no file name is chosen, a generation that succeeds
has two files with one path in the cases that `Overwrites` lists, and in no other. Right
after it the files that differ from the manifest are those whose place was written again;
with plain paths there are none unless two files have one path. -/
theorem generate_overwrites_iff (cs : List Change) (options : GenerationOptions)
    (roots : List EntityId) (generatedAt : String) (t t' : FileTree) (report : GenerationReport)
    (hclean : (run cs).refresh.2.hasErrors = false) (hoverrides : options.filenameOverrides = [])
    (h : ({ model := run (cs ++ [.refresh]) } : Generator).generate options roots false generatedAt
      t = (t', .ok report)) :
    let g : Generator := { model := run (cs ++ [.refresh]) }
    ∃ scope files, g.scope roots = .ok scope ∧ g.outputFiles options roots false = .ok files ∧
      (¬ (files.map OutputFile.path).Nodup ↔ (g.context options scope false).Overwrites) ∧
      report.manifest.verify t' options.outputDir =
        (files.filter fun f => (t.lastBytes? (writes options files generatedAt)
          (Files.join options.outputDir f.path)).any fun bytes =>
            Checksum.ofBytes bytes ≠ Checksum.ofBytes f.contents.toUTF8).map
              (fun f => Files.slashed f.path) ∧
      ((∀ f ∈ files, Files.Plain f.path) → ¬ (g.context options scope false).Overwrites →
        report.manifest.verify t' options.outputDir = []) := by
  intro g
  obtain ⟨t₁, files, hextends, hfiles, hwrite⟩ := generate_eq_ok h
  obtain ⟨scope, roots', hscope, rfl, hperm⟩ := perm_outputFiles hoverrides hfiles
  have hnodup := hperm.nodup_iff
  have hover := overwrites_iff (orderly_context cs hclean roots' options)
  refine ⟨_, files, hscope, hfiles, ?_, ?_, ?_⟩
  · rw [hnodup]
    exact hover
  · have hverify := verify_writeAll hwrite
    simp only [FileTree.lastBytes?_congr hextends.workDir] at hverify
    exact hverify
  · intro hplain hnone
    refine verify_writeAll_eq_nil hwrite hplain (List.nodup_append.mpr ⟨?_, by decide, ?_⟩)
    · rw [hnodup]
      exact Decidable.not_not.mp (mt hover.mp hnone)
    · -- the manifest and the checksums are written last, to paths of their own
      rintro path hpath other hother rfl
      obtain ⟨n, -, rfl⟩ := List.mem_map.mp (hperm.mem_iff.mp hpath)
      obtain ⟨hmanifest, hchecksum⟩ := n.path_ne_manifest
      simp only [List.mem_cons, List.not_mem_nil, or_false] at hother
      exact hother.elim hmanifest hchecksum

/-- Two libraries of one name and different versions have a file each. -/
theorem codesRun_verified :
    let g : Generator := { model := run (codesRun "2.0.0" ++ [.refresh]) }
    (run (codesRun "2.0.0")).refresh.2.hasErrors = false ∧ schemaOptions.filenameOverrides = [] ∧
      ∃ t' report, g.generate schemaOptions [⟨0⟩, ⟨1⟩] false "" {} = (t', .ok report) ∧
        report.manifest.verify t' schemaOptions.outputDir = [] := by
  intro g
  have hclean : (run (codesRun "2.0.0")).refresh.2.hasErrors = false := by decide +kernel
  have hplain : ∀ l ∈ g.model.libraries,
      Files.Plain (OutputName.library (Naming.libraryStem l)).path := by decide +kernel
  have hstems : ∀ l ∈ g.model.libraries, ∀ l' ∈ g.model.libraries, l.ns ≠ l'.ns →
      Naming.libraryStem l ≠ Naming.libraryStem l' := by decide +kernel
  have hversioned : ∀ l ∈ g.model.libraries, Naming.Versioned l := by decide +kernel
  obtain ⟨t', report, files, hgenerate, hfiles, hscope, -, hpaths⟩ :=
    codesRun_selfContained.2.exists_generate (by decide +kernel) ""
  obtain ⟨scope, files', hscope', hfiles', -, -, hverify⟩ :=
    generate_overwrites_iff _ _ _ _ _ _ _ hclean rfl hgenerate
  rw [hscope, Except.ok.injEq] at hscope'
  rw [hfiles, Except.ok.injEq] at hfiles'
  subst hscope' hfiles'
  refine ⟨hclean, rfl, t', report, hgenerate, hverify ?_ fun hover => ?_⟩
  · intro f hf
    obtain ⟨l, hl, hpath⟩ := hpaths f hf
    rw [hpath]
    exact hplain l hl
  · have hmem : ∀ {l}, l ∈ (schemaContext g.model [⟨0⟩, ⟨1⟩]).orderedLibraries →
        l ∈ g.model.libraries := fun hl =>
      mem_libraries.mpr ⟨_, ((mem_orderedLibraries (wellFormed_run _)).mp hl).2⟩
    cases hover with
    | namesakes hl hl' hformat hns hname hstem => exact hstems _ (hmem hl) _ (hmem hl') hns hstem
    | versioned hl hl' hformat hbare => exact hbare (hversioned _ (hmem hl))
    | entities he he' hne hns hname hformat hn =>
      rw [List.mem_singleton.mp hformat] at hn
      exact absurd hn List.not_mem_nil
    | taken hl hformat hbare => exact hbare (hversioned _ (hmem hl))

/-- Two libraries of one name and version, in different namespaces, have one file. -/
theorem codesRun_overwritten :
    let g : Generator := { model := run (codesRun "1.0.0" ++ [.refresh]) }
    (run (codesRun "1.0.0")).refresh.2 = [] ∧ schemaOptions.filenameOverrides = [] ∧
      ∃ t' report files, g.generate schemaOptions [⟨0⟩, ⟨1⟩] false "" {} = (t', .ok report) ∧
        g.outputFiles schemaOptions [⟨0⟩, ⟨1⟩] false = .ok files ∧
        ¬ (files.map OutputFile.path).Nodup := by
  intro g
  have hclean : (run (codesRun "1.0.0")).refresh.2.hasErrors = false := by decide +kernel
  obtain ⟨t', report, files, hgenerate, hfiles, -, hperm, -⟩ :=
    codesRun_selfContained.1.exists_generate (by decide +kernel) ""
  refine ⟨by decide +kernel, rfl, t', report, files, hgenerate, hfiles, ?_⟩
  rw [hperm.nodup_iff]
  have horderly : (schemaContext g.model [⟨0⟩, ⟨1⟩]).Orderly := orderly_context _ hclean _ _
  rw [overwrites_iff horderly]
  obtain ⟨l, hl, l', hl', huser, huser', hns, hname, hstem⟩ : ∃ l ∈ g.model.libraries,
      ∃ l' ∈ g.model.libraries, l.builtIn = false ∧ l'.builtIn = false ∧ l.ns ≠ l'.ns ∧
        l.name = l'.name ∧ Naming.libraryStem l = Naming.libraryStem l' := by
    decide +kernel
  have hm : g.model.WellFormed := wellFormed_run _
  exact .namesakes (codesRun_selfContained.1.mem_orderedLibraries hm hl huser)
    (codesRun_selfContained.1.mem_orderedLibraries hm hl' huser')
    (Or.inl (List.mem_singleton_self _))
    hns hname hstem

end Generator

end TravelModel
