import Mathlib.Data.List.Nodup
import TravelModel.Generation.Run
import TravelModel.Proofs.FileTrees

/-!
# TravelModel — written files

A generation writes its files one after another, and the manifest after them. What is
read in the end is what was written last at a place, so that the files a manifest finds
changed right after it was written are those whose place was written again.

Main results:

* `FileTree.read?_of_wrote` — after some files were written, each path reads as what was
  written last at its place.
* `Generator.verify_writeAll` — the files that differ from the manifest right after a
  generation.
* `Generator.verify_writeAll_eq_nil` — with plain paths that all differ there are none.
* `Generator.exists_writeAll` — a generation whose paths are open is written.
-/

namespace TravelModel

namespace FileTree

/-- Files are written one after another; before each, directories may be made. -/
inductive Wrote : FileTree → List (String × ByteArray) → FileTree → Prop
  | nil (t : FileTree) : Wrote t [] t
  | cons {t t₁ t₂ t' : FileTree} {w : String × ByteArray} {ws : List (String × ByteArray)}
    (hmade : t.AddsDirectories t₁) (hwrite : t₁.write w.1 w.2 = .ok t₂)
    (hrest : Wrote t₂ ws t') : Wrote t (w :: ws) t'

/-- What was written last at the place of a path. -/
def lastBytes? (t : FileTree) (ws : List (String × ByteArray)) (path : String) :
    Option ByteArray :=
  (ws.reverse.find? fun w => t.spot w.1 = t.spot path).map Prod.snd

section

variable {t t' : FileTree} {ws : List (String × ByteArray)} {path : String} {bytes : ByteArray}

theorem lastBytes?_cons (w : String × ByteArray) :
    t.lastBytes? (w :: ws) path =
      (t.lastBytes? ws path).or (if t.spot w.1 = t.spot path then some w.2 else none) := by
  rw [lastBytes?, lastBytes?, List.reverse_cons, List.find?_append]
  cases ws.reverse.find? fun w => t.spot w.1 = t.spot path with
  | some found => rfl
  | none =>
    by_cases hsame : t.spot w.1 = t.spot path
    · simp [hsame]
    · simp [hsame]

theorem lastBytes?_congr (h : t'.workDir = t.workDir) :
    t'.lastBytes? ws path = t.lastBytes? ws path := by
  rw [lastBytes?, lastBytes?]
  simp only [spot_eq h]

theorem isSome_lastBytes? {w : String × ByteArray} (hw : w ∈ ws) :
    (t.lastBytes? ws w.1).isSome := by
  rw [lastBytes?, Option.isSome_map, List.find?_isSome]
  exact ⟨w, List.mem_reverse.mpr hw, by simp⟩

theorem Wrote.workDir (h : t.Wrote ws t') : t'.workDir = t.workDir := by
  induction h with
  | nil t => rfl
  | cons hmade hwrite _ ih => exact (ih.trans (grows_write hwrite).workDir).trans hmade.workDir

theorem Wrote.append {t'' : FileTree} {more : List (String × ByteArray)} (h : t.Wrote ws t')
    (hmore : t'.Wrote more t'') : t.Wrote (ws ++ more) t'' := by
  induction h with
  | nil t => exact hmore
  | cons hmade hwrite _ ih => exact .cons hmade hwrite (ih hmore)

/-- Where nothing is written, no file is made or changed. -/
theorem Wrote.file_iff (h : t.Wrote ws t') {place : List String}
    (hplace : ∀ w ∈ ws, placeText place ≠ t.spot w.1) (bytes : ByteArray) :
    t'.nodeAt? place = some (.file bytes) ↔ t.nodeAt? place = some (.file bytes) := by
  induction h with
  | nil t => exact Iff.rfl
  | @cons t t₁ t₂ t' w ws hmade hwrite _ ih =>
    have hdir := (grows_write hwrite).workDir.trans hmade.workDir
    have hrest : ∀ w ∈ ws, placeText place ≠ t₂.spot w.1 := by
      intro w hw
      rw [spot_eq hdir]
      exact hplace w (List.mem_cons_of_mem _ hw)
    refine (ih hrest).trans (Iff.trans ?_ (hmade.file_iff place bytes))
    rw [nodeAt?_write hwrite, if_neg]
    rw [spot_eq hmade.workDir]
    exact hplace w List.mem_cons_self

/-- A file that is there is changed by what is written at its place. -/
theorem read?_wrote (h : t.Wrote ws t') (hread : t.read? path = some bytes) :
    t'.read? path = some ((t.lastBytes? ws path).getD bytes) := by
  induction h generalizing bytes with
  | nil t => exact hread
  | @cons t t₁ t₂ t' w ws hmade hwrite hrest ih =>
    have hstep := read?_write hwrite (read?_extends hmade.toExtends hread)
    have hdir := (grows_write hwrite).workDir.trans hmade.workDir
    rw [ih hstep, lastBytes?_congr hdir, lastBytes?_cons, spot_eq hmade.workDir,
      spot_eq hmade.workDir]
    cases t.lastBytes? ws path with
    | some found => simp
    | none =>
      by_cases hsame : t.spot w.1 = t.spot path
      · simp [hsame]
      · simp [hsame]

/-- Each path that was written reads as what was written last at its place. -/
theorem read?_of_wrote (h : t.Wrote ws t') {w : String × ByteArray} (hw : w ∈ ws) :
    t'.read? w.1 = t.lastBytes? ws w.1 := by
  induction h with
  | nil t => exact absurd hw List.not_mem_nil
  | @cons t t₁ t₂ t' first ws hmade hwrite hrest ih =>
    have hdir := (grows_write hwrite).workDir.trans hmade.workDir
    rw [lastBytes?_cons]
    rcases List.mem_cons.mp hw with rfl | hw
    · rw [read?_wrote hrest (read?_write_self hwrite), lastBytes?_congr hdir]
      cases t.lastBytes? ws w.1 with
      | some found => rfl
      | none => simp
    · -- a later write at the same place hides this one
      rw [ih hw, lastBytes?_congr hdir]
      obtain ⟨found, hfound⟩ := Option.isSome_iff_exists.mp (isSome_lastBytes? (t := t) hw)
      rw [hfound]
      rfl

/-- If all places differ, each path was written once. -/
theorem lastBytes?_of_nodup (h : (ws.map fun w => t.spot w.1).Nodup) {w : String × ByteArray}
    (hw : w ∈ ws) : t.lastBytes? ws w.1 = some w.2 := by
  induction ws with
  | nil => exact absurd hw List.not_mem_nil
  | cons first rest ih =>
    rw [List.map_cons, List.nodup_cons] at h
    rw [lastBytes?_cons]
    rcases List.mem_cons.mp hw with rfl | hw
    · have hnone : t.lastBytes? rest w.1 = none := by
        rw [lastBytes?, Option.map_eq_none_iff, List.find?_eq_none]
        intro v hv hsame
        rw [List.mem_reverse] at hv
        rw [decide_eq_true_iff] at hsame
        exact h.1 (hsame ▸ List.mem_map_of_mem hv)
      simp [hnone]
    · rw [ih h.2 hw]
      rfl

end

end FileTree

/-! ## Plain paths -/

namespace Files

/-- A path that names a file below a directory in one way only: it is in the form that
manifests have, and goes neither up nor to the root. -/
structure Plain (path : String) : Prop where
  nonempty : path ≠ ""
  relative : isAbsolute path = false
  slashed : slashed path = path
  noDot : "." ∉ rawParts path
  noUp : ".." ∉ rawParts path

instance (path : String) : Decidable (Plain path) :=
  decidable_of_iff
    (path ≠ "" ∧ isAbsolute path = false ∧ Files.slashed path = path ∧ "." ∉ rawParts path ∧
      ".." ∉ rawParts path)
    ⟨fun ⟨h₁, h₂, h₃, h₄, h₅⟩ => ⟨h₁, h₂, h₃, h₄, h₅⟩,
      fun ⟨h₁, h₂, h₃, h₄, h₅⟩ => ⟨h₁, h₂, h₃, h₄, h₅⟩⟩

theorem Plain.intercalate_rawParts {path : String} (h : Plain path) :
    "/".intercalate (rawParts path) = path := by
  have hfilter : (rawParts path).filter (· ≠ ".") = rawParts path := by
    rw [List.filter_eq_self]
    intro part hpart
    simpa using fun hdot : part = "." => h.noDot (hdot ▸ hpart)
  have hcomponents : components path = rawParts path := by
    rw [components, h.relative, if_neg Bool.false_ne_true]
    split
    · next rest hparts => exact absurd (hparts ▸ List.mem_cons_self) h.noDot
    · exact hfilter
  rw [← hcomponents]
  exact h.slashed

end Files

namespace FileTree

theorem foldl_along_append {parts : List String} (hdot : "." ∉ parts) (hup : ".." ∉ parts)
    (place : List String) : parts.foldl along place = place ++ parts := by
  induction parts generalizing place with
  | nil => exact (List.append_nil place).symm
  | cons part rest ih =>
    rw [List.mem_cons, not_or] at hdot hup
    rw [List.foldl_cons, ih hdot.2 hup.2, along, if_neg (Ne.symm hdot.1), if_neg (Ne.symm hup.1),
      List.append_assoc]
    rfl

theorem placeText_append_parts (place : List String) {parts : List String} (h : parts ≠ []) :
    placeText (place ++ parts) = placeText place ++ "/" ++ "/".intercalate parts := by
  induction parts generalizing place with
  | nil => exact absurd rfl h
  | cons part rest ih =>
    cases rest with
    | nil => rw [placeText_append, String.intercalate_singleton]
    | cons next more =>
      have hstep := ih (place ++ [part]) (List.cons_ne_nil _ _)
      rw [List.append_assoc, List.singleton_append, placeText_append] at hstep
      rw [hstep, String.intercalate_cons_cons]
      simp only [String.append_assoc]

/-- The place of a plain path is below that of the directory. -/
theorem spot_join_plain (t : FileTree) (dir : String) {path : String} (h : Files.Plain path) :
    t.spot (Files.join dir path) =
      placeText ((Files.rawParts dir).foldl along (t.start dir)) ++ "/" ++ path := by
  have hparts : Files.rawParts path ≠ [] := fun hnil =>
    h.nonempty (Files.eq_empty_of_rawParts hnil h.relative)
  have hstart : t.start (Files.join dir path) = t.start dir := by
    rw [start, start, Files.isAbsolute_join, h.relative, Bool.or_false]
  rw [spot, placeOf, Files.rawParts_join, h.relative, hstart]
  simp only [Bool.false_eq_true, if_false]
  rw [List.foldl_append, foldl_along_append h.noDot h.noUp, placeText_append_parts _ hparts,
    h.intercalate_rawParts]

theorem spot_join_inj (t : FileTree) (dir : String) {path path' : String} (h : Files.Plain path)
    (h' : Files.Plain path') :
    t.spot (Files.join dir path) = t.spot (Files.join dir path') ↔ path = path' := by
  rw [spot_join_plain t dir h, spot_join_plain t dir h', String.append_right_inj]

/-! ## Paths that can be written -/

instance decidablePasses (t : FileTree) :
    (place parts : List String) → Decidable (t.Passes place parts)
  | place, [] => isTrue (.nil place)
  | place, component :: rest =>
    have := decidablePasses t (along place component) rest
    decidable_of_iff _ passes_cons.symm

/-- Directories that are there are not made again. -/
theorem makeAlong_of_passes {t : FileTree} {parts place : List String}
    (h : t.Passes place (parts ++ ["."])) : makeAlong parts t place = .ok t := by
  induction parts, t, place using makeAlong.induct with
  | case1 _ _ => rw [makeAlong]
  | case2 rest t place ih =>
    rw [makeAlong]
    exact ih (passes_cons.mp h).2.2
  | case3 rest t place ih =>
    rw [makeAlong]
    exact ih (passes_cons.mp h).2.2
  | case4 name rest t place hdot hup ihThere ihNew =>
    obtain ⟨hdir, husable, hrest⟩ := passes_cons.mp h
    have hnext : along place name = place ++ [name] := by
      rw [along, if_neg hdot, if_neg hup]
    have hnamed : named place name = .ok (place ++ [name]) := by
      have hstep := step_eq_ok.mpr ⟨hdir, husable, hnext.symm⟩
      rw [step, isDirAt_iff.mp hdir] at hstep
      dsimp only at hstep
      rwa [if_neg hdot, if_neg hup] at hstep
    rw [hnext] at hrest
    -- the way on starts at the next place, so that this is a directory
    have hthere : t.nodeAt? (place ++ [name]) = some .directory := by
      cases rest with
      | nil => exact isDirAt_iff.mp (passes_cons.mp hrest).1
      | cons part more => exact isDirAt_iff.mp (passes_cons.mp hrest).1
    rw [makeAlong.eq_4 t place name rest hdot hup, hnamed]
    dsimp only [bind, Except.bind]
    rw [hthere]
    exact ihThere _ hrest

/-- A file can be written at a path: the directories above are there, and none is in its
place. -/
structure Open (t : FileTree) (path : String) : Prop where
  nonempty : path ≠ ""
  above : t.Passes (t.start (Files.parent path)) (Files.rawParts (Files.parent path) ++ ["."])
  passes : t.Passes (t.start path) (Files.rawParts path)
  asks : asksDirectory path = false
  free : t.isDirAt (t.placeOf path) = false

instance (t : FileTree) (path : String) : Decidable (t.Open path) :=
  decidable_of_iff
    (path ≠ "" ∧
      t.Passes (t.start (Files.parent path)) (Files.rawParts (Files.parent path) ++ ["."]) ∧
      t.Passes (t.start path) (Files.rawParts path) ∧ asksDirectory path = false ∧
      t.isDirAt (t.placeOf path) = false)
    ⟨fun h => ⟨h.1, h.2.1, h.2.2.1, h.2.2.2.1, h.2.2.2.2⟩,
      fun h => ⟨h.nonempty, h.above, h.passes, h.asks, h.free⟩⟩

theorem Open.createDirAll {t : FileTree} {path : String} (h : t.Open path) :
    t.createDirAll (Files.parent path) = .ok t :=
  makeAlong_of_passes h.above

/-- A file is written at an open path, and all open paths stay so. -/
theorem Open.write {t : FileTree} {path : String} (h : t.Open path) (bytes : ByteArray) :
    ∃ t', t.write path bytes = .ok t' ∧ ∀ other, t.Open other → t'.Open other := by
  have hplace : t.locate path = .ok (t.placeOf path) := by
    refine locate_eq_ok.mpr ⟨h.nonempty, h.passes, rfl, fun hasks => ?_⟩
    rw [h.asks] at hasks
    cases hasks
  obtain ⟨t', hwrite⟩ : ∃ t', t.write path bytes = .ok t' :=
    ⟨_, write_eq_ok.mpr ⟨hplace, h.asks, h.free, rfl⟩⟩
  have hgrows := grows_write hwrite
  refine ⟨t', hwrite, fun other hother => ⟨hother.nonempty, ?_, ?_, hother.asks, ?_⟩⟩
  · rw [start, hgrows.workDir]
    exact passes_grows hgrows hother.above
  · rw [start, hgrows.workDir]
    exact passes_grows hgrows hother.passes
  · rw [placeOf_eq hgrows.workDir, Bool.eq_false_iff, Ne, isDirAt_iff, nodeAt?_write hwrite]
    split
    · exact fun hfile => by cases hfile
    · rw [← isDirAt_iff, ← Ne, ← Bool.eq_false_iff]
      exact hother.free

end FileTree

/-! ## Generations -/

namespace Generator

/-- What a generation writes, in order: its files, the manifest and the checksums. -/
def writes (options : GenerationOptions) (files : List OutputFile) (generatedAt : String) :
    List (String × ByteArray) :=
  let manifest := Manifest.ofFiles options.formats.targets
    (files.map fun f => (f.path, f.format, f.contents.toUTF8))
  files.map (fun f => (Files.join options.outputDir f.path, f.contents.toUTF8)) ++
    [ (Files.join options.outputDir Manifest.manifestFile, (manifest.text generatedAt).toUTF8),
      (Files.join options.outputDir Manifest.checksumFile, manifest.checksumLines.toUTF8) ]

theorem andThen_eq_ok {α β : Type} {r : TreeResult α} {next : FileTree → α → TreeResult β}
    {t' : FileTree} {b : β} (h : r.andThen next = (t', .ok b)) :
    ∃ t a, r = (t, .ok a) ∧ next t a = (t', .ok b) := by
  obtain ⟨t, e | a⟩ := r
  · cases h
  · exact ⟨t, a, rfl, h⟩

theorem writeFile_eq_ok {t t' : FileTree} {path result : String} {bytes : ByteArray}
    (h : Manifest.writeFile t path bytes = (t', .ok result)) :
    t.write path bytes = .ok t' ∧ result = path := by
  rw [Manifest.writeFile] at h
  cases hwrite : t.write path bytes with
  | error e =>
    rw [hwrite] at h
    cases h
  | ok t₁ =>
    rw [hwrite] at h
    cases h
    exact ⟨rfl, rfl⟩

theorem writeBelow_eq_ok {dir result : String} {f : OutputFile} {t t' : FileTree}
    (h : writeBelow dir f t = (t', .ok result)) :
    ∃ t₁, t.AddsDirectories t₁ ∧ t₁.write (Files.join dir f.path) f.contents.toUTF8 = .ok t' ∧
      result = Files.join dir f.path := by
  unfold writeBelow at h
  dsimp only at h
  generalize hmade : t.createDirAll (Files.parent (Files.join dir f.path)) = made at h
  cases made with
  | error e => cases h
  | ok t₁ => exact ⟨t₁, FileTree.addsDirectories_createDirAll hmade, writeFile_eq_ok h⟩

theorem wrote_writeFiles {dir : String} {files : List OutputFile} {t t' : FileTree}
    {paths : List String} (h : writeFiles dir files t = (t', .ok paths)) :
    t.Wrote (files.map fun f => (Files.join dir f.path, f.contents.toUTF8)) t' ∧
      paths = files.map fun f => Files.join dir f.path := by
  induction files generalizing t paths with
  | nil =>
    cases h
    exact ⟨.nil _, rfl⟩
  | cons f rest ih =>
    rw [writeFiles] at h
    obtain ⟨t₂, first, hfirst, h⟩ := andThen_eq_ok h
    obtain ⟨t₃, others, hothers, h⟩ := andThen_eq_ok h
    cases h
    obtain ⟨t₁, hmade, hwrite, rfl⟩ := writeBelow_eq_ok hfirst
    obtain ⟨hwrote, rfl⟩ := ih hothers
    exact ⟨.cons hmade hwrite hwrote, rfl⟩

theorem wrote_writeAll {options : GenerationOptions} {files : List OutputFile}
    {generatedAt : String} {t t' : FileTree} {report : GenerationReport}
    (h : writeAll options files generatedAt t = (t', .ok report)) :
    t.Wrote (writes options files generatedAt) t' ∧
      report.manifest = Manifest.ofFiles options.formats.targets
        (files.map fun f => (f.path, f.format, f.contents.toUTF8)) ∧
      report.files = (writes options files generatedAt).map Prod.fst := by
  rw [writeAll] at h
  obtain ⟨t₁, paths, hfiles, h⟩ := andThen_eq_ok h
  obtain ⟨t₂, more, hmanifest, h⟩ := andThen_eq_ok h
  cases h
  obtain ⟨hwrote, rfl⟩ := wrote_writeFiles hfiles
  rw [Manifest.write] at hmanifest
  obtain ⟨t₃, first, hfirst, hmanifest⟩ := andThen_eq_ok hmanifest
  obtain ⟨t₄, second, hsecond, hmanifest⟩ := andThen_eq_ok hmanifest
  cases hmanifest
  obtain ⟨hlisted, rfl⟩ := writeFile_eq_ok hfirst
  obtain ⟨hsummed, rfl⟩ := writeFile_eq_ok hsecond
  refine ⟨hwrote.append (.cons (.refl _) hlisted (.cons (.refl _) hsummed (.nil _))), rfl, ?_⟩
  rw [writes, List.map_append, List.map_map]
  rfl

/-- Right after a generation, a file differs from the manifest if its place was written
again, by another file, by the manifest or by the checksums, with contents of another
checksum. -/
theorem verify_writeAll {options : GenerationOptions} {files : List OutputFile}
    {generatedAt : String} {t t' : FileTree} {report : GenerationReport}
    (h : writeAll options files generatedAt t = (t', .ok report)) :
    report.manifest.verify t' options.outputDir =
      (files.filter fun f => (t.lastBytes? (writes options files generatedAt)
        (Files.join options.outputDir f.path)).any fun bytes =>
          Checksum.ofBytes bytes ≠ Checksum.ofBytes f.contents.toUTF8).map
            fun f => Files.slashed f.path := by
  obtain ⟨hwrote, hmanifest, -⟩ := wrote_writeAll h
  rw [hmanifest, Manifest.verify, Manifest.ofFiles]
  dsimp only
  rw [List.map_map, List.filter_map, List.map_map]
  have hread : ∀ f ∈ files, ∃ bytes,
      t.lastBytes? (writes options files generatedAt) (Files.join options.outputDir f.path) =
        some bytes ∧
      t'.read? (Files.join options.outputDir (Files.slashed f.path)) = some bytes := by
    intro f hf
    have hmem : (Files.join options.outputDir f.path, f.contents.toUTF8) ∈
        writes options files generatedAt := List.mem_append_left _ (List.mem_map_of_mem hf)
    obtain ⟨bytes, hbytes⟩ :=
      Option.isSome_iff_exists.mp (FileTree.isSome_lastBytes? (t := t) hmem)
    refine ⟨bytes, hbytes, FileTree.read?_slashed ?_⟩
    rw [FileTree.read?_of_wrote hwrote hmem, hbytes]
  refine congrArg _ (List.filter_congr fun f hf => ?_)
  obtain ⟨bytes, hlast, hfound⟩ := hread f hf
  simp [hlast, hfound, Checksum.verifies]

/-- Right after a generation whose plain paths all differ, and differ from those of the
manifest and the checksums, no file differs from the manifest. -/
theorem verify_writeAll_eq_nil {options : GenerationOptions} {files : List OutputFile}
    {generatedAt : String} {t t' : FileTree} {report : GenerationReport}
    (h : writeAll options files generatedAt t = (t', .ok report))
    (hplain : ∀ f ∈ files, Files.Plain f.path)
    (hnodup : (files.map OutputFile.path ++ [Manifest.manifestFile, Manifest.checksumFile]).Nodup) :
    report.manifest.verify t' options.outputDir = [] := by
  have hpaths : ∀ path ∈ files.map OutputFile.path ++
      [Manifest.manifestFile, Manifest.checksumFile], Files.Plain path := by
    intro path hpath
    rcases List.mem_append.mp hpath with hpath | hpath
    · obtain ⟨f, hf, rfl⟩ := List.mem_map.mp hpath
      exact hplain f hf
    · simp only [List.mem_cons, List.not_mem_nil, or_false] at hpath
      rcases hpath with rfl | rfl
      · decide +kernel
      · decide +kernel
  have hspots : ((writes options files generatedAt).map fun w => t.spot w.1).Nodup := by
    have hmap : (writes options files generatedAt).map (fun w => t.spot w.1) =
        (files.map OutputFile.path ++ [Manifest.manifestFile, Manifest.checksumFile]).map
          fun path => t.spot (Files.join options.outputDir path) := by
      rw [writes, List.map_append, List.map_map, List.map_append, List.map_map]
      rfl
    rw [hmap]
    exact hnodup.map_on fun path hpath path' hpath' hsame =>
      (t.spot_join_inj _ (hpaths path hpath) (hpaths path' hpath')).mp hsame
  rw [verify_writeAll h, List.map_eq_nil_iff, List.filter_eq_nil_iff]
  intro f hf
  have hmem : (Files.join options.outputDir f.path, f.contents.toUTF8) ∈
      writes options files generatedAt := List.mem_append_left _ (List.mem_map_of_mem hf)
  have hlast := FileTree.lastBytes?_of_nodup hspots hmem
  dsimp only at hlast
  rw [hlast]
  simp

theorem exists_writeFile {t : FileTree} {path : String} (h : t.Open path) (bytes : ByteArray) :
    ∃ t', Manifest.writeFile t path bytes = (t', .ok path) ∧
      ∀ other, t.Open other → t'.Open other := by
  obtain ⟨t', hwrite, hkeeps⟩ := h.write bytes
  refine ⟨t', ?_, hkeeps⟩
  rw [Manifest.writeFile, hwrite]

/-- Files with open paths are all written. -/
theorem exists_writeFiles {dir : String} {files : List OutputFile} {t : FileTree}
    (h : ∀ f ∈ files, t.Open (Files.join dir f.path)) :
    ∃ t' paths, writeFiles dir files t = (t', .ok paths) ∧
      ∀ path, t.Open path → t'.Open path := by
  induction files generalizing t with
  | nil => exact ⟨t, [], rfl, fun _ hpath => hpath⟩
  | cons f rest ih =>
    have hopen := h f List.mem_cons_self
    obtain ⟨t₁, hwrite, hkeeps⟩ := exists_writeFile hopen f.contents.toUTF8
    obtain ⟨t', paths, hrest, hkeeps'⟩ :=
      ih fun g hg => hkeeps _ (h g (List.mem_cons_of_mem _ hg))
    refine ⟨t', Files.join dir f.path :: paths, ?_, fun path hpath => hkeeps' _ (hkeeps _ hpath)⟩
    have hbelow : writeBelow dir f t = (t₁, .ok (Files.join dir f.path)) := by
      unfold writeBelow
      dsimp only
      rw [hopen.createDirAll]
      exact hwrite
    rw [writeFiles, hbelow]
    dsimp only [TreeResult.andThen]
    rw [hrest]

/-- A generation into a directory where all paths are open succeeds. -/
theorem exists_writeAll {options : GenerationOptions} {files : List OutputFile}
    (generatedAt : String) {t : FileTree}
    (h : ∀ path ∈ files.map OutputFile.path ++ [Manifest.manifestFile, Manifest.checksumFile],
      t.Open (Files.join options.outputDir path)) :
    ∃ t' report, writeAll options files generatedAt t = (t', .ok report) := by
  obtain ⟨t₁, paths, hfiles, hkeeps₁⟩ := exists_writeFiles
    fun f hf => h _ (List.mem_append_left _ (List.mem_map_of_mem hf))
  have hmore : ∀ path ∈ [Manifest.manifestFile, Manifest.checksumFile],
      t₁.Open (Files.join options.outputDir path) :=
    fun path hpath => hkeeps₁ _ (h path (List.mem_append_right _ hpath))
  rw [writeAll, hfiles]
  dsimp only [TreeResult.andThen]
  rw [Manifest.write]
  generalize Manifest.ofFiles options.formats.targets _ = manifest
  obtain ⟨t₂, hmanifest, hkeeps₂⟩ := exists_writeFile (hmore _ List.mem_cons_self)
    (manifest.text generatedAt).toUTF8
  obtain ⟨t₃, hchecksums, -⟩ := exists_writeFile
    (hkeeps₂ _ (hmore _ (List.mem_cons_of_mem _ (List.mem_singleton_self _))))
    manifest.checksumLines.toUTF8
  rw [hmanifest]
  dsimp only [TreeResult.andThen]
  rw [hchecksums]
  exact ⟨_, _, rfl⟩

end Generator

end TravelModel
