import TravelModel.Proofs.CleanNames
import TravelModel.Proofs.Lists
import TravelModel.Proofs.Locations

/-!
# TravelModel — names of generated files

The path of a generated file is made from a name of the model and an ending that tells
the kind of the file, and all files of a generation go to one directory. Namespaces have
no part in it.

Main results:

* `OutputName.path_eq_iff` — two files of different kinds have one path only if one is
  the schema of a library.
* `paths_outputFiles` — the paths of a generation, format by format.
* `overwrites_iff` — what it takes for two files of a generation to have one path.
-/

namespace TravelModel

open Xsd

/-- What a generated file is named for. -/
inductive OutputName where
  | library (stem : String)
  | messages (service : String)
  | requests (object : String)
  | consolidation (nsPrefix : String)
  | common
  | definitions (stem : String)
  | openApi (resource : String)
  | swagger (resource : String)
deriving DecidableEq

namespace OutputName

/-- The path of a generated file. -/
def path : OutputName → String
  | library stem => stem ++ ".xsd"
  | messages service => Naming.serviceFile service
  | requests object => Naming.requestResponseFile object
  | consolidation nsPrefix => Naming.consolidationFile nsPrefix
  | common => commonFile.path
  | definitions stem => stem ++ ".schema.json"
  | openApi resource => resource ++ ApiForm.openApi.ending
  | swagger resource => resource ++ ApiForm.swagger.ending

/-- The document name that a library would have to have for its schema to be in the
same file. -/
def stem? : OutputName → Option String
  | messages service => some (service ++ "_Messages")
  | requests object => some (object ++ "_RAS")
  | consolidation nsPrefix => some (nsPrefix ++ "_ImportConsolidation")
  | common => some "built-ins/OTM_Common"
  | library _ | definitions _ | openApi _ | swagger _ => none

/-- The part of the path that depends on the kind only. -/
def ending : OutputName → String
  | library _ => ".xsd"
  | messages _ => "_Messages.xsd"
  | requests _ => "_RAS.xsd"
  | consolidation _ => "_ImportConsolidation.xsd"
  | common => commonFile.path
  | definitions _ => ".schema.json"
  | openApi _ => ".openapi.json"
  | swagger _ => ".swagger.json"

theorem suffix_path (n : OutputName) : n.ending.toList <:+ n.path.toList := by
  cases n with
  | common => exact List.suffix_refl _
  | _ =>
    simp only [path, ending, Naming.serviceFile, Naming.requestResponseFile,
      Naming.consolidationFile, ApiForm.ending, String.toList_append]
    exact List.suffix_append _ _

theorem path_of_stem? {n : OutputName} {stem : String} (h : n.stem? = some stem) :
    n.path = (library stem).path := by
  apply String.toList_injective
  cases n <;> cases h <;>
    simp [path, Naming.serviceFile, Naming.requestResponseFile, Naming.consolidationFile,
      commonFile, Builtin.directory, Builtin.commonFile]

theorem path_eq_iff {a b : OutputName} :
    a.path = b.path ↔ a = b ∨ (∃ stem, a = library stem ∧ b.stem? = some stem) ∨
      ∃ stem, b = library stem ∧ a.stem? = some stem := by
  constructor
  · intro h
    have hsuffix : a.ending.toList <:+ b.ending.toList ∨ b.ending.toList <:+ a.ending.toList :=
      List.suffix_or_suffix_of_suffix a.suffix_path (h ▸ b.suffix_path)
    cases a <;> cases b
    case common.common => exact Or.inl rfl
    case library.library | messages.messages | requests.requests | consolidation.consolidation |
        definitions.definitions | openApi.openApi | swagger.swagger =>
      rw [(String.append_left_inj _).mp h]
      exact Or.inl rfl
    case library.messages | library.requests | library.consolidation | library.common =>
      have hstem := (String.append_left_inj _).mp (h.trans (path_of_stem? rfl))
      exact Or.inr (Or.inl ⟨_, rfl, congrArg some hstem.symm⟩)
    case messages.library | requests.library | consolidation.library | common.library =>
      have hstem := (String.append_left_inj _).mp ((path_of_stem? rfl).symm.trans h)
      exact Or.inr (Or.inr ⟨_, rfl, congrArg some hstem⟩)
    -- any two other kinds have endings of which none is one of the other
    all_goals
      dsimp only [ending] at hsuffix
      exact absurd hsuffix (by decide)
  · rintro (rfl | ⟨stem, rfl, hstem⟩ | ⟨stem, rfl, hstem⟩)
    · rfl
    · exact (path_of_stem? hstem).symm
    · exact path_of_stem? hstem

/-- The format that is asked for to get a file. -/
def format? : OutputName → Option TargetFormat
  | library _ => some .xmlSchema
  | messages _ | requests _ => some .serviceSchema
  | definitions _ => some .jsonSchema
  | openApi _ => some .openApi
  | swagger _ => some .swagger
  | consolidation _ | common => none

/-- The library whose schema or definitions a file holds, by document name. -/
def document? : OutputName → Option String
  | library stem | definitions stem => some stem
  | messages _ | requests _ | openApi _ | swagger _ | consolidation _ | common => none

/-- The entity that a file is for, by name. -/
def entity? : OutputName → Option String
  | messages name | requests name | openApi name | swagger name => some name
  | library _ | definitions _ | consolidation _ | common => none

theorem not_document_and_entity {n : OutputName} {stem name : String}
    (h : n.document? = some stem) (h' : n.entity? = some name) : False := by
  cases n with
  | library _ | definitions _ => cases h'
  | _ => cases h

/-- The paths of some files differ if no file is named twice and no schema of a library
has the name of a file that is made up. -/
theorem nodup_paths_iff {names : List OutputName} :
    (names.map path).Nodup ↔ names.Nodup ∧
      ∀ stem, library stem ∈ names → ∀ n ∈ names, n.stem? ≠ some stem := by
  constructor
  · intro h
    have hnodup := h.of_map
    rw [List.nodup_map_iff_inj_on hnodup] at h
    refine ⟨hnodup, fun stem hlibrary n hn hstem => ?_⟩
    have hsame := h n hn _ hlibrary (path_of_stem? hstem)
    rw [hsame] at hstem
    cases hstem
  · rintro ⟨hnodup, hfree⟩
    rw [List.nodup_map_iff_inj_on hnodup]
    intro a ha b hb hsame
    rcases path_eq_iff.mp hsame with heq | ⟨stem, rfl, hstem⟩ | ⟨stem, rfl, hstem⟩
    · exact heq
    · exact absurd hstem (hfree stem ha b hb)
    · exact absurd hstem (hfree stem hb a ha)

/-- The names that end in what is made up do not end in a digit. -/
theorem getLast?_of_stem? {n : OutputName} {stem : String} (h : n.stem? = some stem) :
    ∃ ch, stem.toList.getLast? = some ch ∧ ch.isDigit = false := by
  cases n with
  | messages service =>
    cases h
    exact ⟨'s', by simp, by decide⟩
  | requests object =>
    cases h
    exact ⟨'S', by simp, by decide⟩
  | consolidation nsPrefix =>
    cases h
    exact ⟨'n', by simp, by decide⟩
  | common =>
    cases h
    exact ⟨'n', by simp, by decide⟩
  | _ => cases h

/-- No generated file has the path of the manifest or of the checksums. -/
theorem path_ne_manifest (n : OutputName) :
    n.path ≠ Manifest.manifestFile ∧ n.path ≠ Manifest.checksumFile := by
  have hends : ¬ n.ending.toList <:+ Manifest.manifestFile.toList ∧
      ¬ n.ending.toList <:+ Manifest.checksumFile.toList := by
    cases n <;> dsimp only [ending] <;> decide
  exact ⟨fun h => hends.1 (h ▸ n.suffix_path), fun h => hends.2 (h ▸ n.suffix_path)⟩

end OutputName

/-! ## Document names of libraries -/

namespace Naming

/-- The version of a library can be read. -/
def Versioned (l : Library) : Prop :=
  ∃ v, VersionScheme.parseVersion l.version = .ok v

instance (l : Library) : Decidable (Versioned l) :=
  match h : VersionScheme.parseVersion l.version with
  | .ok v => isTrue ⟨v, h⟩
  | .error e => isFalse fun ⟨v, hv⟩ => by
    rw [h] at hv
    cases hv

theorem libraryStem_of_not_versioned {l : Library} (h : ¬ Versioned l) :
    libraryStem l = l.name := by
  unfold libraryStem
  split
  · next v hv => exact absurd ⟨v, hv⟩ h
  · rfl

theorem libraryStem_of_versioned {l : Library} (h : Versioned l) :
    ∃ major minor patch : Nat, libraryStem l =
      l.name ++ "_" ++ toString major ++ "_" ++ toString minor ++ "_" ++ toString patch := by
  obtain ⟨v, hv⟩ := h
  unfold libraryStem
  rw [hv]
  exact ⟨_, _, _, rfl⟩

theorem isDigit_of_mem_toString {n : Nat} {ch : Char} (h : ch ∈ (toString n).toList) :
    ch.isDigit = true := by
  rw [Nat.toString_eq_ofList_toDigits, String.toList_ofList] at h
  exact Nat.isDigit_of_mem_toDigits (by decide) (by decide) h

theorem getLast?_append_number (a : String) (n : Nat) :
    ∃ ch, (a ++ toString n).toList.getLast? = some ch ∧ ch.isDigit = true := by
  have hne : (toString n).toList ≠ [] := by
    rw [Nat.toString_eq_ofList_toDigits, String.toList_ofList]
    exact Nat.toDigits_ne_nil
  refine ⟨_, ?_, isDigit_of_mem_toString (List.getLast_mem hne)⟩
  rw [String.toList_append, List.getLast?_append_of_ne_nil _ hne,
    List.getLast?_eq_getLast_of_ne_nil]

/-- What stands before a number is determined by the whole. -/
theorem append_number_inj {a b : String} {m n : Nat}
    (h : a ++ "_" ++ toString m = b ++ "_" ++ toString n) : a = b := by
  have hmark : ∀ k : Nat, '_' ∉ (toString k).toList.reverse := by
    intro k hk
    exact absurd (isDigit_of_mem_toString (List.mem_reverse.mp hk)) (by decide)
  have hlist : (toString m).toList.reverse ++ '_' :: a.toList.reverse =
      (toString n).toList.reverse ++ '_' :: b.toList.reverse := by
    simpa using congrArg (fun s => s.toList.reverse) h
  have hrest : a.toList.reverse = b.toList.reverse := by
    rcases List.append_eq_append_iff.mp hlist with ⟨t, ht, hcons⟩ | ⟨t, ht, hcons⟩
    · cases t with
      | nil => exact (List.cons.inj hcons).2
      | cons ch rest =>
        rw [← (List.cons.inj hcons).1] at ht
        exact absurd (ht ▸ List.mem_append_right _ List.mem_cons_self) (hmark n)
    · cases t with
      | nil => exact (List.cons.inj hcons).2.symm
      | cons ch rest =>
        rw [← (List.cons.inj hcons).1] at ht
        exact absurd (ht ▸ List.mem_append_right _ List.mem_cons_self) (hmark m)
  exact String.toList_injective (List.reverse_injective hrest)

/-- The document name of a library with a version tells the name. -/
theorem name_of_libraryStem {l l' : Library} (hl : Versioned l) (hl' : Versioned l')
    (h : libraryStem l = libraryStem l') : l.name = l'.name := by
  obtain ⟨major, minor, patch, hstem⟩ := libraryStem_of_versioned hl
  obtain ⟨major', minor', patch', hstem'⟩ := libraryStem_of_versioned hl'
  rw [hstem, hstem'] at h
  exact append_number_inj (append_number_inj (append_number_inj h))

/-- No file that is made up has the document name of a library with a version. -/
theorem not_versioned_of_stem? {n : OutputName} {l : Library}
    (h : n.stem? = some (libraryStem l)) : ¬ Versioned l := by
  intro hl
  obtain ⟨major, minor, patch, hstem⟩ := libraryStem_of_versioned hl
  obtain ⟨ch, hlast, hletter⟩ := OutputName.getLast?_of_stem? h
  obtain ⟨ch', hlast', hdigit⟩ := getLast?_append_number
    (l.name ++ "_" ++ toString major ++ "_" ++ toString minor ++ "_") patch
  rw [hstem, hlast', Option.some.injEq] at hlast
  rw [hlast, hletter] at hdigit
  exact Bool.false_ne_true hdigit

end Naming

namespace GenerationContext

open Model

variable {c : GenerationContext}

/-! ## The names of a generation -/

/-- What the files of a library are named for. -/
def libraryNames (l : Library) : TargetFormat → List OutputName
  | .xmlSchema => [.library (Naming.libraryStem l)]
  | .jsonSchema => [.definitions (Naming.libraryStem l)]
  | .serviceSchema | .openApi | .swagger => []

/-- What the files of an entity are named for. -/
def entityNames (e : NamedEntity) : TargetFormat → List OutputName
  | .serviceSchema =>
    match e.body with
    | .service _ => [.messages e.name]
    | .businessObject _ => [.requests e.name]
    | _ => []
  | .openApi => (concreteResource? e).toList.map fun d => .openApi d.1.name
  | .swagger => (concreteResource? e).toList.map fun d => .swagger d.1.name
  | .xmlSchema | .jsonSchema => []

/-- What the files of a format are named for. -/
def formatNames (c : GenerationContext) (format : TargetFormat) : List OutputName :=
  (c.orderedLibraries.flatMap fun l => libraryNames l format) ++
    c.generatedEntities.flatMap fun e => entityNames e format

/-- What the files are named for that linking adds: those of namespaces with several
files, and that of the common library. -/
def linkNames (c : GenerationContext) (documents : List Document) : List OutputName :=
  ((spreadLocations (linkAll c documents)).map fun e =>
      .consolidation (((documentPrefixes c documents).find? e.1).getD "ns")) ++
    if ImportsCommon (linkedDocuments c documents).1 then [.common] else []

/-- What all files of a generation are named for. -/
def outputNames (c : GenerationContext) : List OutputName :=
  c.options.formats.targets.flatMap c.formatNames ++
    c.linkNames (c.options.formats.targets.flatMap c.formatDocuments)

theorem paths_libraryNames {l : Library} (hl : l.builtIn = false)
    (h : c.options.filenameOverrides = []) {format : TargetFormat}
    (hformat : format ≠ .serviceSchema) :
    (c.libraryFile? l format).toList = (libraryNames l format).map OutputName.path := by
  have htemplate : c.options.template? format = none := by
    rw [GenerationOptions.template?, h]
    rfl
  rw [libraryFile?, hl, if_neg Bool.false_ne_true, if_neg hformat]
  dsimp only
  rw [htemplate]
  cases format <;> rfl

/-- Without templates, the files of libraries are named for them. -/
theorem paths_libraryFiles (hc : c.Closed) (h : c.options.filenameOverrides = [])
    {format : TargetFormat} (hformat : format ≠ .serviceSchema) :
    (c.libraryFiles format).map Prod.snd =
      (c.orderedLibraries.flatMap fun l => libraryNames l format).map OutputName.path := by
  rw [libraryFiles, orderedLibraries, List.filterMap_eq_flatMap_toList, List.flatMap_assoc,
    List.map_flatMap, List.map_flatMap]
  refine List.flatMap_congr fun id hid => ?_
  obtain ⟨l, hl, huser⟩ := hc.user hid
  rw [hl, Option.toList_some, List.flatMap_singleton, List.flatMap_singleton, List.map_map,
    ← paths_libraryNames huser h hformat]
  exact List.map_id _

theorem path_servicesOf {e : NamedEntity} {l : Library}
    (hl : c.model.library? e.library = some l) :
    (c.servicesOf e).map Document.path = (entityNames e .serviceSchema).map OutputName.path := by
  rw [servicesOf, messageDocuments, requestResponseDocuments, entityNames]
  cases e.body <;> simp [serviceDocument?, hl, OutputName.path]

theorem path_apiOutput (e : NamedEntity) :
    ((concreteResource? e).toList.map (c.apiOutput .openApi)).map OutputFile.path =
        (entityNames e .openApi).map OutputName.path ∧
      ((concreteResource? e).toList.map (c.apiOutput .swagger)).map OutputFile.path =
        (entityNames e .swagger).map OutputName.path := by
  rw [entityNames, entityNames, List.map_map, List.map_map, List.map_map, List.map_map]
  exact ⟨rfl, rfl⟩

theorem flatMap_names_eq_nil {α : Type} {names : α → TargetFormat → List OutputName}
    {format : TargetFormat} (h : ∀ a, names a format = []) (as : List α) :
    as.flatMap (fun a => names a format) = [] := by
  simp [h]

/-- The documents and files of a format have the paths of its names. -/
theorem paths_format (hc : c.Closed) (h : c.options.filenameOverrides = [])
    (format : TargetFormat) :
    (c.formatFiles format).map OutputFile.path ++ (c.formatDocuments format).map Document.path =
      (c.formatNames format).map OutputName.path := by
  have hm := hc.settled.wellFormed
  rw [formatNames, List.map_append]
  cases format with
  | xmlSchema =>
    rw [← paths_libraryFiles hc h (by decide), formatFiles, formatDocuments, schemaDocuments,
      List.map_map, flatMap_names_eq_nil fun _ => rfl]
    exact (List.append_nil _).symm
  | jsonSchema =>
    rw [← paths_libraryFiles hc h (by decide), formatFiles, formatDocuments,
      List.map_map, flatMap_names_eq_nil fun _ => rfl]
    rfl
  | serviceSchema =>
    rw [formatFiles, formatDocuments, serviceSchemas, flatMap_names_eq_nil fun _ => rfl,
      generatedEntities, List.flatMap_assoc, List.map_flatMap, List.map_flatMap]
    refine List.flatMap_congr fun id _ => ?_
    rw [List.map_flatMap, List.map_flatMap]
    refine List.flatMap_congr fun e he => ?_
    obtain ⟨l, hl, -⟩ := hm.listed ((mem_emittedEntities hm).mp he).1
    exact path_servicesOf hl
  | openApi =>
    rw [formatFiles, formatDocuments, apiResources, flatMap_names_eq_nil fun _ => rfl,
      generatedEntities]
    simp only [List.map_flatMap, List.flatMap_assoc, (path_apiOutput _).1]
    exact List.append_nil _
  | swagger =>
    rw [formatFiles, formatDocuments, apiResources, flatMap_names_eq_nil fun _ => rfl,
      generatedEntities]
    simp only [List.map_flatMap, List.flatMap_assoc, (path_apiOutput _).2]
    exact List.append_nil _

theorem paths_linkNames (c : GenerationContext) (documents : List Document) :
    (consolidate c documents).map OutputFile.path =
      documents.map Document.path ++ (c.linkNames documents).map OutputName.path := by
  rw [paths_consolidate, linkNames, linkedDocuments_eq, consolidations, List.map_append,
    List.map_append, List.map_map, List.map_map, List.map_map, List.append_assoc]
  refine congrArg₂ (· ++ ·) (List.map_congr_left fun d _ => path_relink d)
    (congrArg₂ (· ++ ·) rfl ?_)
  split
  · rfl
  · rfl

/-- The files of a generation are its names, up to their order. -/
theorem paths_outputFiles (hc : c.Closed) (h : c.options.filenameOverrides = [])
    {files : List OutputFile} (hfiles : files =
      c.options.formats.targets.flatMap c.formatFiles ++
        consolidate c (c.options.formats.targets.flatMap c.formatDocuments)) :
    (files.map OutputFile.path).Perm (c.outputNames.map OutputName.path) := by
  have hformats : ((c.options.formats.targets.flatMap c.formatFiles).map OutputFile.path ++
      (c.options.formats.targets.flatMap c.formatDocuments).map Document.path).Perm
        ((c.options.formats.targets.flatMap c.formatNames).map OutputName.path) := by
    rw [List.map_flatMap, List.map_flatMap, List.map_flatMap]
    refine (List.flatMap_append_perm _ _ _).trans (List.Perm.of_eq ?_)
    exact List.flatMap_congr fun format _ => paths_format hc h format
  rw [hfiles, outputNames, List.map_append, List.map_append, paths_linkNames, ← List.append_assoc]
  exact hformats.append_right _

/-! ## Files with one path -/

theorem of_mem_libraryNames {l : Library} {format : TargetFormat} {n : OutputName}
    (h : n ∈ libraryNames l format) :
    n.format? = some format ∧ n.document? = some (Naming.libraryStem l) := by
  cases format with
  | xmlSchema | jsonSchema =>
    rw [libraryNames, List.mem_singleton] at h
    rw [h]
    exact ⟨rfl, rfl⟩
  | _ => exact absurd h List.not_mem_nil

theorem format_of_mem_libraryNames {l : Library} {format : TargetFormat} {n : OutputName}
    (h : n ∈ libraryNames l format) {targets : List TargetFormat} (hformat : format ∈ targets) :
    .xmlSchema ∈ targets ∨ .jsonSchema ∈ targets := by
  cases format with
  | xmlSchema => exact Or.inl hformat
  | jsonSchema => exact Or.inr hformat
  | _ => exact absurd h List.not_mem_nil

theorem fst_of_concreteResource? {e : NamedEntity} {d : NamedEntity × Resource}
    (h : concreteResource? e = some d) : d.1 = e := by
  rw [concreteResource?] at h
  split at h
  · split at h
    · cases h
    · rw [← Option.some.inj h]
  · cases h

theorem of_mem_entityNames {e : NamedEntity} {format : TargetFormat} {n : OutputName}
    (h : n ∈ entityNames e format) : n.format? = some format ∧ n.entity? = some e.name := by
  cases format with
  | serviceSchema =>
    rw [entityNames] at h
    split at h
    · rw [List.mem_singleton.mp h]
      exact ⟨rfl, rfl⟩
    · rw [List.mem_singleton.mp h]
      exact ⟨rfl, rfl⟩
    · exact absurd h List.not_mem_nil
  | openApi | swagger =>
    obtain ⟨d, hresource, rfl⟩ := List.mem_map.mp h
    rw [← fst_of_concreteResource? (Option.mem_toList.mp hresource)]
    exact ⟨rfl, rfl⟩
  | _ => exact absurd h List.not_mem_nil

theorem nodup_libraryNames (l : Library) (format : TargetFormat) :
    (libraryNames l format).Nodup := by
  cases format with
  | xmlSchema | jsonSchema => exact List.nodup_singleton _
  | _ => exact List.nodup_nil

theorem nodup_entityNames (e : NamedEntity) (format : TargetFormat) :
    (entityNames e format).Nodup := by
  cases format with
  | serviceSchema =>
    rw [entityNames]
    split
    · exact List.nodup_singleton _
    · exact List.nodup_singleton _
    · exact List.nodup_nil
  | openApi | swagger =>
    rw [entityNames]
    cases concreteResource? e with
    | none => exact List.nodup_nil
    | some d => exact List.nodup_singleton _
  | _ => exact List.nodup_nil

theorem format?_of_mem_formatNames {format : TargetFormat} {n : OutputName}
    (h : n ∈ c.formatNames format) : n.format? = some format := by
  rw [formatNames, List.mem_append, List.mem_flatMap, List.mem_flatMap] at h
  rcases h with ⟨l, -, h⟩ | ⟨e, -, h⟩
  · exact (of_mem_libraryNames h).1
  · exact (of_mem_entityNames h).1

theorem format?_of_mem_linkNames {documents : List Document} {n : OutputName}
    (h : n ∈ c.linkNames documents) : n.format? = none := by
  rw [linkNames, List.mem_append, List.mem_map] at h
  rcases h with ⟨e, -, rfl⟩ | h
  · rfl
  · split at h
    · rw [List.mem_singleton.mp h]
      rfl
    · exact absurd h List.not_mem_nil

/-- Namespaces with several files have different prefixes. -/
theorem nodup_linkNames (c : GenerationContext) (documents : List Document) :
    (c.linkNames documents).Nodup := by
  rw [linkNames, List.nodup_append]
  refine ⟨?_, ?_, ?_⟩
  · have hspaces := nodup_spreadLocations (linkAll c documents)
    rw [List.nodup_map_iff_inj_on hspaces.of_map]
    rintro ⟨ns, files⟩ he ⟨ns', files'⟩ he' hsame
    have hpath : consolidationPath (documentPrefixes c documents) ns =
        consolidationPath (documentPrefixes c documents) ns' := congrArg OutputName.path hsame
    exact List.inj_on_of_nodup_map hspaces he he' (consolidationPath_inj
      (mem_documentNamespaces_of_spread (mem_spreadLocations he).2.2)
      (mem_documentNamespaces_of_spread (mem_spreadLocations he').2.2) hpath)
  · split
    · exact List.nodup_singleton _
    · exact List.nodup_nil
  · rintro n hn n' hn' rfl
    obtain ⟨e, -, rfl⟩ := List.mem_map.mp hn
    split at hn'
    · cases List.mem_singleton.mp hn'
    · exact absurd hn' List.not_mem_nil

/-- No file of a generation is named twice if none of a format is. -/
theorem nodup_outputNames_iff (c : GenerationContext) :
    c.outputNames.Nodup ↔ ∀ format ∈ c.options.formats.targets, (c.formatNames format).Nodup := by
  rw [outputNames, List.nodup_append, List.nodup_flatMap]
  constructor
  · exact fun h => h.1.1
  · intro h
    refine ⟨⟨h, (nodup_targets _).imp fun hne n hn hn' => ?_⟩, nodup_linkNames c _, ?_⟩
    · exact hne (Option.some.inj ((format?_of_mem_formatNames hn).symm.trans
        (format?_of_mem_formatNames hn')))
    · rintro n hn n' hn' rfl
      obtain ⟨format, -, hn⟩ := List.mem_flatMap.mp hn
      have hformat := format?_of_mem_formatNames hn
      rw [format?_of_mem_linkNames hn'] at hformat
      cases hformat

theorem mem_outputNames {n : OutputName} :
    n ∈ c.outputNames ↔
      (∃ format ∈ c.options.formats.targets,
        (∃ l ∈ c.orderedLibraries, n ∈ libraryNames l format) ∨
          ∃ e ∈ c.generatedEntities, n ∈ entityNames e format) ∨
        n ∈ c.linkNames (c.options.formats.targets.flatMap c.formatDocuments) := by
  simp only [outputNames, formatNames, List.mem_append, List.mem_flatMap]

/-- The schemas of libraries are those that are asked for. -/
theorem library_mem_outputNames {stem : String} :
    .library stem ∈ c.outputNames ↔ .xmlSchema ∈ c.options.formats.targets ∧
      ∃ l ∈ c.orderedLibraries, Naming.libraryStem l = stem := by
  rw [mem_outputNames]
  constructor
  · rintro (⟨format, hformat, ⟨l, hl, h⟩ | ⟨e, he, h⟩⟩ | h)
    · obtain ⟨hkind, hstem⟩ := of_mem_libraryNames h
      cases hkind
      exact ⟨hformat, l, hl, (Option.some.inj hstem).symm⟩
    · cases (of_mem_entityNames h).2
    · cases format?_of_mem_linkNames h
  · rintro ⟨hformat, l, hl, rfl⟩
    exact Or.inl ⟨.xmlSchema, hformat, Or.inl ⟨l, hl, List.mem_singleton_self _⟩⟩

/-- No file of a format is named twice if no two libraries and no two entities have one
with the same name. -/
theorem Orderly.nodup_formatNames_iff (h : c.Orderly) (format : TargetFormat) :
    (c.formatNames format).Nodup ↔
      (∀ l ∈ c.orderedLibraries, ∀ l' ∈ c.orderedLibraries,
        ∀ n ∈ libraryNames l format, n ∈ libraryNames l' format → l = l') ∧
      ∀ e ∈ c.generatedEntities, ∀ e' ∈ c.generatedEntities,
        ∀ n ∈ entityNames e format, n ∈ entityNames e' format → e = e' := by
  rw [formatNames, List.nodup_append,
    nodup_flatMap_iff h.nodup_orderedLibraries fun l => nodup_libraryNames l format,
    nodup_flatMap_iff h.nodup_generatedEntities fun e => nodup_entityNames e format]
  refine ⟨fun hnodup => ⟨hnodup.1, hnodup.2.1⟩, fun hnodup => ⟨hnodup.1, hnodup.2, ?_⟩⟩
  rintro n hn n' hn' rfl
  obtain ⟨l, -, hn⟩ := List.mem_flatMap.mp hn
  obtain ⟨e, -, hn'⟩ := List.mem_flatMap.mp hn'
  exact OutputName.not_document_and_entity (of_mem_libraryNames hn).2 (of_mem_entityNames hn').2

/-- How two files of a generation can have one path. -/
inductive Overwrites (c : GenerationContext) : Prop
  /-- Two libraries in different namespaces have the same name and version. -/
  | namesakes {l l' : Library} (hl : l ∈ c.orderedLibraries) (hl' : l' ∈ c.orderedLibraries)
    (hformat : .xmlSchema ∈ c.options.formats.targets ∨ .jsonSchema ∈ c.options.formats.targets)
    (hns : l.ns ≠ l'.ns) (hname : l.name = l'.name)
    (hstem : Naming.libraryStem l = Naming.libraryStem l')
  /-- A library without a version is named like another one with its version. -/
  | versioned {l l' : Library} (hl : l ∈ c.orderedLibraries) (hl' : l' ∈ c.orderedLibraries)
    (hformat : .xmlSchema ∈ c.options.formats.targets ∨ .jsonSchema ∈ c.options.formats.targets)
    (hbare : ¬ Naming.Versioned l) (hversioned : Naming.Versioned l')
    (hstem : l.name = Naming.libraryStem l')
  /-- Two entities whose libraries declare no namespace in common have the same name and
  a file of the same kind. -/
  | entities {e e' : NamedEntity} {format : TargetFormat} {n : OutputName}
    (he : e ∈ c.generatedEntities) (he' : e' ∈ c.generatedEntities) (hne : e ≠ e')
    (hns : ∀ l l', c.model.library? e.library = some l → c.model.library? e'.library = some l' →
      l.ns = l'.ns → l.ns = none)
    (hname : e.name = e'.name) (hformat : format ∈ c.options.formats.targets)
    (hn : n ∈ entityNames e format) (hn' : n ∈ entityNames e' format)
  /-- A library without a version is named like a file that is made up. -/
  | taken {l : Library} {n : OutputName} (hl : l ∈ c.orderedLibraries)
    (hformat : .xmlSchema ∈ c.options.formats.targets) (hbare : ¬ Naming.Versioned l)
    (hn : n ∈ c.outputNames) (hstem : n.stem? = some l.name)

/-- Two libraries with one document name. -/
theorem Orderly.overwrites_of_libraryStem (h : c.Orderly) {l l' : Library}
    (hl : l ∈ c.orderedLibraries) (hl' : l' ∈ c.orderedLibraries) (hne : l ≠ l')
    (hformat : .xmlSchema ∈ c.options.formats.targets ∨ .jsonSchema ∈ c.options.formats.targets)
    (hstem : Naming.libraryStem l = Naming.libraryStem l') : c.Overwrites := by
  have hm := h.settled.wellFormed
  have hns : l.name = l'.name → l.ns ≠ l'.ns := by
    intro hname hns
    have hlive := ((mem_orderedLibraries hm).mp hl).2
    have hlive' := ((mem_orderedLibraries hm).mp hl').2
    have hid := h.consistent.key_unique _ _ l l' hlive hlive' hns hname
    rw [hid, hlive', Option.some.injEq] at hlive
    exact hne hlive.symm
  by_cases hread : Naming.Versioned l
  · by_cases hread' : Naming.Versioned l'
    · have hname := Naming.name_of_libraryStem hread hread' hstem
      exact .namesakes hl hl' hformat (hns hname) hname hstem
    · rw [Naming.libraryStem_of_not_versioned hread'] at hstem
      exact .versioned hl' hl hformat hread' hread hstem.symm
  · by_cases hread' : Naming.Versioned l'
    · rw [Naming.libraryStem_of_not_versioned hread] at hstem
      exact .versioned hl hl' hformat hread hread' hstem
    · have hname := hstem
      rw [Naming.libraryStem_of_not_versioned hread, Naming.libraryStem_of_not_versioned hread']
        at hname
      exact .namesakes hl hl' hformat (hns hname) hname hstem

/-- In a clean model, two entities of one name are in different namespaces. -/
theorem Orderly.ns_of_name (h : c.Orderly) {e e' : NamedEntity} (he : e ∈ c.generatedEntities)
    (he' : e' ∈ c.generatedEntities) (hne : e ≠ e') (hname : e.name = e'.name) {l l' : Library}
    (hl : c.model.library? e.library = some l) (hl' : c.model.library? e'.library = some l')
    (hns : l.ns = l'.ns) : l.ns = none := by
  have hm := h.settled.wellFormed
  cases hspace : l.ns with
  | none => rfl
  | some ns =>
    rw [hspace] at hns
    have hlive := ((mem_generatedEntities hm).mp he).1
    have hlive' := ((mem_generatedEntities hm).mp he').1
    have hnative : ∀ {x : NamedEntity} {k : Library}, c.model.entity? x.id = some x →
        c.model.library? x.library = some k → k.ns = some ns →
          c.model.native? ns x.name = some (.entity x.id) := by
      intro x k hx hk hkns
      refine h.clean.native? (List.mem_filter.mpr ⟨mem_libraries.mpr ⟨_, hk⟩, ?_⟩)
        (hm.mem_libraryEntities_iff.mpr ⟨hx, (hm.library_id hk).symm⟩) List.mem_cons_self
      exact decide_eq_true hkns
    have hsame := hnative hlive hl hspace
    rw [hname, hnative hlive' hl' hns.symm, Option.some.injEq, Symbol.entity.injEq] at hsame
    rw [hsame, hlive, Option.some.injEq] at hlive'
    exact absurd hlive' hne

theorem Orderly.eq_of_libraryStem (h : c.Orderly)
    (hformats : ∀ format ∈ c.options.formats.targets, (c.formatNames format).Nodup)
    {l l' : Library} (hl : l ∈ c.orderedLibraries) (hl' : l' ∈ c.orderedLibraries)
    (hformat : .xmlSchema ∈ c.options.formats.targets ∨ .jsonSchema ∈ c.options.formats.targets)
    (hstem : Naming.libraryStem l = Naming.libraryStem l') : l = l' := by
  rcases hformat with hformat | hformat
  · refine ((h.nodup_formatNames_iff _).mp (hformats _ hformat)).1 l hl l' hl'
      (.library (Naming.libraryStem l)) (List.mem_singleton_self _) ?_
    rw [hstem]
    exact List.mem_singleton_self _
  · refine ((h.nodup_formatNames_iff _).mp (hformats _ hformat)).1 l hl l' hl'
      (.definitions (Naming.libraryStem l)) (List.mem_singleton_self _) ?_
    rw [hstem]
    exact List.mem_singleton_self _

theorem overwrites_iff (h : c.Orderly) :
    ¬ (c.outputNames.map OutputName.path).Nodup ↔ c.Overwrites := by
  rw [OutputName.nodup_paths_iff, nodup_outputNames_iff]
  constructor
  · intro hclash
    by_contra hnone
    refine hclash ⟨fun format hformat => (h.nodup_formatNames_iff format).mpr ⟨?_, ?_⟩, ?_⟩
    · -- files of libraries have one path if the libraries have one document name
      intro l hl l' hl' n hn hn'
      by_contra hne
      have hstem := Option.some.inj
        ((of_mem_libraryNames hn).2.symm.trans (of_mem_libraryNames hn').2)
      exact hnone (h.overwrites_of_libraryStem hl hl' hne (format_of_mem_libraryNames hn hformat)
        hstem)
    · intro e he e' he' n hn hn'
      by_contra hne
      have hname := Option.some.inj
        ((of_mem_entityNames hn).2.symm.trans (of_mem_entityNames hn').2)
      exact hnone (.entities he he' hne
        (fun l l' hl hl' hns => h.ns_of_name he he' hne hname hl hl' hns) hname hformat hn hn')
    · -- no document name that ends in a version is one that is made up
      intro stem hlibrary n hn hstem
      obtain ⟨hformat, l, hl, rfl⟩ := library_mem_outputNames.mp hlibrary
      have hbare := Naming.not_versioned_of_stem? hstem
      rw [Naming.libraryStem_of_not_versioned hbare] at hstem
      exact hnone (.taken hl hformat hbare hn hstem)
  · rintro hover ⟨hformats, hfree⟩
    cases hover with
    | namesakes hl hl' hformat hns hname hstem =>
      exact hns (congrArg Library.ns (h.eq_of_libraryStem hformats hl hl' hformat hstem))
    | versioned hl hl' hformat hbare hversioned hstem =>
      rw [← Naming.libraryStem_of_not_versioned hbare] at hstem
      have hsame := h.eq_of_libraryStem hformats hl hl' hformat hstem
      rw [hsame] at hbare
      exact hbare hversioned
    | entities he he' hne hns hname hformat hn hn' =>
      exact hne (((h.nodup_formatNames_iff _).mp (hformats _ hformat)).2 _ he _ he' _ hn hn')
    | taken hl hformat hbare hn hstem =>
      rw [← Naming.libraryStem_of_not_versioned hbare] at hstem
      exact hfree _ (library_mem_outputNames.mpr ⟨hformat, _, hl, rfl⟩) _ hn hstem

end GenerationContext

end TravelModel
