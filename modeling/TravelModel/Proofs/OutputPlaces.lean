import TravelModel.Proofs.Overwriting

/-!
# TravelModel — places of generated files

A generation joins the directory it writes to and the path of each file, which starts with
a name of the model. The path is followed as it is: a slash in the name makes it a path of
several components, and these may go up.

Main results:

* `Files.Route` — what a path comes to: some levels up, and from there down.
* `FileTree.below_join_iff` — when a joined path leads to a place below the directory.
* `declared_outputFiles` — each file of a generation is named for something that the model
  declares, whatever transformers there are and whatever is in scope.
* `generate_places` — where a generation writes.
-/

namespace TravelModel

/-! ## Routes -/

namespace Files

/-- Where a path leads from a directory: some levels up, and from there down. -/
structure Route where
  ups : Nat := 0
  names : List String := []
deriving DecidableEq, Repr, Inhabited

namespace Route

/-- The route one component further. -/
def further (r : Route) (component : String) : Route :=
  if component = "." then r
  else if component = ".." then
    if r.names = [] then { r with ups := r.ups + 1 } else { r with names := r.names.dropLast }
  else { r with names := r.names ++ [component] }

/-- The place that a route leads to. -/
def endFrom (r : Route) (place : List String) : List String :=
  place.take (place.length - r.ups) ++ r.names

/-- A component leads on from the end of a route. -/
theorem along_endFrom (r : Route) (component : String) (place : List String) :
    FileTree.along (r.endFrom place) component = (r.further component).endFrom place := by
  rw [FileTree.along, further]
  split
  · rfl
  · split
    · split
      · next hnames =>
        -- nothing to take back, so that the place itself is left
        rw [endFrom, endFrom, hnames, List.append_nil, List.append_nil, List.dropLast_eq_take,
          List.take_take, List.length_take]
        dsimp only
        congr 1
        omega
      · next hnames => exact List.dropLast_append_of_ne_nil hnames
    · exact List.append_assoc _ _ _

theorem foldl_along (parts : List String) (r : Route) (place : List String) :
    parts.foldl FileTree.along (r.endFrom place) = (parts.foldl further r).endFrom place := by
  induction parts generalizing r with
  | nil => rfl
  | cons part rest ih => rw [List.foldl_cons, List.foldl_cons, along_endFrom, ih]

end Route

/-- The route of a path. -/
def route (path : String) : Route :=
  (rawParts path).foldl Route.further {}

/-- A route ends in the last component if that is a name. -/
theorem names_route {path last : String} {before : List String}
    (h : rawParts path = before ++ [last]) (hdot : last ≠ ".") (hup : last ≠ "..") :
    (route path).names = (before.foldl Route.further {}).names ++ [last] := by
  rw [route, h, List.foldl_append, List.foldl_cons, List.foldl_nil, Route.further, if_neg hdot,
    if_neg hup]

end Files

/-- A path that ends in neither a slash nor a point leads down at its end. -/
theorem Files.names_route_ne_nil {path : String} {cs : List Char} {c : Char}
    (h : path.toList = cs ++ [c]) (hslash : c ≠ '/') (hpoint : c ≠ '.') :
    (route path).names ≠ [] := by
  obtain ⟨before, last, hsplit⟩ := Text.splitChars_concat hslash cs
  have hparts : rawParts path = ((before.filter fun p => !p.isEmpty).map String.ofList) ++
      [String.ofList (last ++ [c])] := by
    rw [rawParts, h, hsplit, List.filter_append, List.map_append]
    simp
  have hends : ∀ s : String, s.toList.getLast? = some '.' → String.ofList (last ++ [c]) ≠ s := by
    rintro s hs rfl
    rw [String.toList_ofList, List.getLast?_concat, Option.some.injEq] at hs
    exact hpoint hs
  rw [names_route hparts (hends "." rfl) (hends ".." rfl)]
  exact List.append_ne_nil_of_right_ne_nil _ (List.cons_ne_nil _ _)

/-! ## Places below a directory -/

namespace FileTree

/-- A place is below another. -/
def Below (place dir : List String) : Prop :=
  dir <+: place ∧ place ≠ dir

instance (place dir : List String) : Decidable (Below place dir) :=
  inferInstanceAs (Decidable (_ ∧ _))

theorem below_append_iff (start place dir : List String) :
    Below (start ++ place) (start ++ dir) ↔ Below place dir := by
  rw [Below, Below, List.prefix_append_right_inj, Ne, List.append_cancel_left_eq]

variable (t : FileTree) (dir : String) {path : String}

theorem placeOf_join (path : String) :
    t.placeOf (Files.join dir path) =
      (Files.route path).endFrom (if Files.isAbsolute path then [] else t.placeOf dir) := by
  rw [placeOf, Files.rawParts_join, start, Files.isAbsolute_join]
  cases habsolute : Files.isAbsolute path with
  | true =>
    -- the directory is left out
    simp only [Bool.or_true, if_true]
    exact Files.Route.foldl_along (Files.rawParts path) {} []
  | false =>
    simp only [Bool.or_false, Bool.false_eq_true, if_false]
    have hroute := Files.Route.foldl_along (Files.rawParts path) {} (t.placeOf dir)
    rw [Files.Route.endFrom, Nat.sub_zero, List.take_length, List.append_nil] at hroute
    rw [List.foldl_append]
    exact hroute

/-- A joined path leads below the directory if the names it goes down to start with those
that it went up from; a path from the root has gone up from all of them. -/
theorem below_join_iff :
    Below (t.placeOf (Files.join dir path)) (t.placeOf dir) ↔
      Below (Files.route path).names
        (if Files.isAbsolute path then t.placeOf dir
          else (t.placeOf dir).drop ((t.placeOf dir).length - (Files.route path).ups)) := by
  rw [placeOf_join, Files.Route.endFrom]
  cases Files.isAbsolute path with
  | true => simp only [if_true, List.take_nil, List.nil_append]
  | false =>
    -- what is kept of the directory stands in front on both sides
    simp only [Bool.false_eq_true, if_false]
    generalize t.placeOf dir = place
    generalize place.length - (Files.route path).ups = kept
    have hsplit := below_append_iff (place.take kept) (Files.route path).names (place.drop kept)
    rwa [List.take_append_drop] at hsplit

/-- A path that neither starts at the root nor goes up stays below every directory. -/
theorem below_join (habsolute : Files.isAbsolute path = false) (hups : (Files.route path).ups = 0)
    (hnames : (Files.route path).names ≠ []) :
    Below (t.placeOf (Files.join dir path)) (t.placeOf dir) := by
  rw [below_join_iff, habsolute, hups, if_neg Bool.false_ne_true, Nat.sub_zero, List.drop_length]
  exact ⟨List.nil_prefix, hnames⟩

end FileTree

/-! ## Names of files -/

namespace OutputName

/-- The name that the path of a file starts with. -/
def source : OutputName → String
  | library stem | definitions stem => stem
  | messages service => service
  | requests object => object
  | consolidation nsPrefix => nsPrefix
  | openApi resource | swagger resource => resource
  | common => ""

theorem path_eq (n : OutputName) : n.path = n.source ++ n.ending := by
  cases n <;> rfl

/-- No path ends in a slash or a point. -/
theorem exists_last_path (n : OutputName) :
    ∃ cs c, n.path.toList = cs ++ [c] ∧ c ≠ '/' ∧ c ≠ '.' := by
  have hlast : n.ending.toList.getLast?.any (fun c => c ≠ '/' && c ≠ '.') = true := by
    cases n <;> dsimp only [ending] <;> decide
  rw [Option.any_eq_true] at hlast
  obtain ⟨c, hc, hends⟩ := hlast
  obtain ⟨cs, hcs⟩ := List.getLast?_eq_some_iff.mp hc
  refine ⟨n.source.toList ++ cs, c, ?_, by simpa using hends⟩
  rw [path_eq, String.toList_append, hcs, List.append_assoc]

/-- A file that is named for something without a slash stays below every directory. -/
theorem below_of_slashless {n : OutputName} (h : '/' ∉ n.source.toList) (t : FileTree)
    (dir : String) : FileTree.Below (t.placeOf (Files.join dir n.path)) (t.placeOf dir) := by
  obtain ⟨cs, c, hpath, hslash, hpoint⟩ := n.exists_last_path
  have hnames := Files.names_route_ne_nil hpath hslash hpoint
  by_cases hcommon : n = common
  · -- its path has a slash, but is a fixed one that goes down
    subst hcommon
    exact t.below_join dir rfl rfl hnames
  · have hending : '/' ∉ n.ending.toList := by
      cases n with
      | common => exact absurd rfl hcommon
      | _ =>
        dsimp only [ending]
        decide
    have hfree : '/' ∉ n.path.toList := by
      rw [path_eq, String.toList_append, List.mem_append, not_or]
      exact ⟨h, hending⟩
    have hne : ∀ s : String, s.toList.getLast? ≠ some c → n.path ≠ s := by
      rintro s hs rfl
      rw [hpath, List.getLast?_concat] at hs
      exact hs rfl
    -- the path is one component, and a name
    have hparts := Files.rawParts_part (hne "" fun hlast => Option.some_ne_none c hlast.symm) hfree
    refine t.below_join dir ?_ ?_ hnames
    · refine decide_eq_false fun hhead => hfree ?_
      exact List.mem_of_mem_head? hhead
    · rw [Files.route, hparts, List.foldl_cons, List.foldl_nil, Files.Route.further, if_neg, if_neg]
      · exact hne ".." fun hlast => hpoint (Option.some.inj hlast).symm
      · exact hne "." fun hlast => hpoint (Option.some.inj hlast).symm

/-- A model declares what a file is named for. The prefix of a namespace with several files
is one that a library asks for, or a made-up one, with a number if it is taken. -/
def DeclaredIn (m : Model) : OutputName → Prop
  | library stem | definitions stem => ∃ l ∈ m.libraries, Naming.libraryStem l = stem
  | messages service => ∃ e ∈ m.entities, e.kind = .service ∧ e.name = service
  | requests object => ∃ e ∈ m.entities, e.kind = .businessObject ∧ e.name = object
  | consolidation nsPrefix =>
    nsPrefix = "xsd" ∨ ∃ base used, (base = "ns" ∨ ∃ l ∈ m.libraries, l.nsPrefix = some base) ∧
      SymbolTable.freshPrefix base used = nsPrefix
  | openApi resource | swagger resource =>
    ∃ e ∈ m.entities, e.kind = .resource ∧ e.name = resource
  | common => True

end OutputName

namespace GenerationContext

open Xsd Model

/-- A path is that of a file which is named for something that a model declares. -/
def Named (m : Model) (path : String) : Prop :=
  ∃ n : OutputName, n.DeclaredIn m ∧ path = n.path

section

variable {c : GenerationContext}

theorem mem_entities_of_emitted {id : LibraryId} {e : NamedEntity}
    (h : e ∈ c.emittedEntities id) : e ∈ c.model.entities := by
  obtain ⟨-, -, x, -, hx⟩ := mem_libraryEntities.mp (List.mem_of_mem_filter h)
  exact mem_entities.mpr ⟨x, hx⟩

theorem named_libraryFile? (h : c.options.filenameOverrides = []) {l : Library}
    (hl : l ∈ c.model.libraries) {format : TargetFormat} {path : String}
    (hpath : c.libraryFile? l format = some path) : Named c.model path := by
  have htemplate : ∀ format, c.options.template? format = none := by
    intro format
    rw [GenerationOptions.template?, h]
    rfl
  rw [libraryFile?] at hpath
  split at hpath
  · -- of the built-in libraries only the common one has a file
    split at hpath
    · exact ⟨.common, trivial, (Option.some.inj hpath).symm⟩
    · cases hpath
  · dsimp only at hpath
    rw [htemplate] at hpath
    dsimp only at hpath
    split at hpath
    · exact ⟨.library _, ⟨l, hl, rfl⟩, (Option.some.inj hpath).symm⟩
    · exact ⟨.definitions _, ⟨l, hl, rfl⟩, (Option.some.inj hpath).symm⟩
    · cases hpath

theorem named_libraryDocuments (hoverrides : c.options.filenameOverrides = [])
    {documents : List Document} (h : libraryDocuments c = .ok documents) :
    ∀ d ∈ documents, Named c.model d.path := by
  intro d hd
  obtain ⟨id, made, hstep, hd⟩ := exists_part_of_mem h hd
  obtain ⟨-, -, hstep⟩ := exists_of_bind_eq_ok hstep
  split at hstep
  · next l hl =>
    rw [libraryDocument] at hstep
    split at hstep
    · cases hstep
      exact absurd hd List.not_mem_nil
    · next path hpath =>
      obtain ⟨components, -, hstep⟩ := exists_of_bind_eq_ok hstep
      cases hstep
      rw [List.mem_singleton.mp hd]
      exact named_libraryFile? hoverrides (mem_libraries.mpr ⟨id, hl⟩) hpath
  · cases hstep
    exact absurd hd List.not_mem_nil

theorem named_jsonFiles (hoverrides : c.options.filenameOverrides = [])
    {files : List OutputFile} (h : c.jsonFiles = .ok files) :
    ∀ f ∈ files, Named c.model f.path := by
  intro f hf
  obtain ⟨id, made, hstep, hf⟩ := exists_part_of_mem h hf
  obtain ⟨-, -, hstep⟩ := exists_of_bind_eq_ok hstep
  split at hstep
  · next l hl =>
    rw [libraryJsonFile] at hstep
    split at hstep
    · cases hstep
      exact absurd hf List.not_mem_nil
    · next path hpath =>
      obtain ⟨definitions, -, hstep⟩ := exists_of_bind_eq_ok hstep
      cases hstep
      rw [List.mem_singleton.mp hf]
      exact named_libraryFile? hoverrides (mem_libraries.mpr ⟨id, hl⟩) hpath
  · cases hstep
    exact absurd hf List.not_mem_nil

/-- Which transformer is asked makes no difference to the path. -/
theorem named_registeredServices {e : NamedEntity} (he : e ∈ c.model.entities)
    {documents : List Document} (h : c.registeredServices e = .ok documents) :
    ∀ d ∈ documents, Named c.model d.path := by
  intro d hd
  rw [registeredServices] at h
  split at h
  · rw [fittingServices] at h
    obtain ⟨transformer, -, h⟩ := exists_of_bind_eq_ok h
    split at h
    · cases h
      rw [messageDocuments] at hd
      split at hd
      · next s hbody =>
        rw [serviceDocument?, Option.mem_toList] at hd
        obtain ⟨l, -, rfl⟩ := Option.map_eq_some_iff.mp hd
        exact ⟨.messages e.name, ⟨e, he, by rw [NamedEntity.kind, hbody]; rfl, rfl⟩, rfl⟩
      · exact absurd hd List.not_mem_nil
    · cases h
      rw [requestResponseDocuments] at hd
      split at hd
      · next o hbody =>
        rw [serviceDocument?, Option.mem_toList] at hd
        obtain ⟨l, -, rfl⟩ := Option.map_eq_some_iff.mp hd
        exact ⟨.requests e.name, ⟨e, he, by rw [NamedEntity.kind, hbody]; rfl, rfl⟩, rfl⟩
      · exact absurd hd List.not_mem_nil
    · cases h
      exact absurd hd List.not_mem_nil
  · cases h
    exact absurd hd List.not_mem_nil

theorem named_registeredApi {form : ApiForm} {e : NamedEntity} (he : e ∈ c.model.entities)
    {files : List OutputFile} (h : c.registeredApi form e = .ok files) :
    ∀ f ∈ files, Named c.model f.path := by
  intro f hf
  rw [registeredApi] at h
  split at h
  · obtain ⟨transformer, -, h⟩ := exists_of_bind_eq_ok h
    rw [apiFile] at h
    split at h
    · next r hbody =>
      have hresource : e.kind = .resource := by
        rw [NamedEntity.kind, hbody]
        rfl
      split at h
      · cases h
        exact absurd hf List.not_mem_nil
      · obtain ⟨schemas, -, h⟩ := exists_of_bind_eq_ok h
        cases h
        rw [List.mem_singleton.mp hf]
        cases form with
        | openApi => exact ⟨.openApi e.name, ⟨e, he, hresource, rfl⟩, rfl⟩
        | swagger => exact ⟨.swagger e.name, ⟨e, he, hresource, rfl⟩, rfl⟩
    · cases h
      exact absurd hf List.not_mem_nil
  · cases h
    exact absurd hf List.not_mem_nil

/-- What is made entity by entity is named as what is made of each entity. -/
theorem named_entityParts {α : Type} {path : α → String} {format : TargetFormat}
    {part : NamedEntity → Except GenerationError (List α)}
    (hpart : ∀ e ∈ c.model.entities, ∀ made, part e = .ok made →
      ∀ x ∈ made, Named c.model (path x)) {all : List α}
    (h : (do
      let parts ← c.order.mapM fun id => do
        c.checkCancelled format id
        (c.emittedEntities id).mapM part
      return parts.flatten.flatten) = .ok all) :
    ∀ x ∈ all, Named c.model (path x) := by
  intro x hx
  obtain ⟨parts, hparts, h⟩ := exists_of_bind_eq_ok h
  cases h
  obtain ⟨made, hmade, hx⟩ := List.mem_flatten.mp hx
  obtain ⟨library, hlibrary, hmade⟩ := List.mem_flatten.mp hmade
  obtain ⟨id, -, hstep⟩ := exists_of_mem_mapM hparts hlibrary
  obtain ⟨-, -, hstep⟩ := exists_of_bind_eq_ok hstep
  obtain ⟨e, he, hstep⟩ := exists_of_mem_mapM hstep hmade
  exact hpart e (mem_entities_of_emitted he) made hstep x hx

/-! ## Linking -/

theorem find?_preferredPrefixes {ns nsPrefix : String}
    (h : (preferredPrefixes c).find? ns = some nsPrefix) :
    ∃ l ∈ c.model.libraries, l.nsPrefix = some nsPrefix := by
  refine List.foldlRecOn c.model.libraries _ (motive := fun table : Keyed String =>
    ∀ ns nsPrefix, table.find? ns = some nsPrefix →
      ∃ l ∈ c.model.libraries, l.nsPrefix = some nsPrefix)
    (fun ns nsPrefix h => by cases h) ?_ ns nsPrefix h
  intro table htable l hl ns nsPrefix h
  split at h
  · -- the first library of a namespace sets its prefix
    next own wanted _ hwanted =>
    rw [Keyed.insertNew] at h
    split at h
    · exact htable ns nsPrefix h
    · rw [Keyed.find?_insert] at h
      split at h
      · exact ⟨l, hl, hwanted.trans h⟩
      · exact htable ns nsPrefix h
  · exact htable ns nsPrefix h

theorem find?_assignPrefixes {preferred : Keyed String} {namespaces : List String}
    {ns nsPrefix : String} (h : (assignPrefixes preferred namespaces).find? ns = some nsPrefix) :
    nsPrefix = "xsd" ∨ ∃ base used, (base = "ns" ∨ ∃ o, preferred.find? o = some base) ∧
      SymbolTable.freshPrefix base used = nsPrefix := by
  rw [assignPrefixes_eq] at h
  refine List.foldlRecOn namespaces (assignOne preferred) (motive := fun table : Keyed String =>
    ∀ ns nsPrefix, table.find? ns = some nsPrefix → nsPrefix = "xsd" ∨
      ∃ base used, (base = "ns" ∨ ∃ o, preferred.find? o = some base) ∧
        SymbolTable.freshPrefix base used = nsPrefix) ?_ ?_ ns nsPrefix h
  · intro ns nsPrefix h
    rw [Keyed.find?_cons] at h
    split at h
    · exact Or.inl (Option.some.inj h).symm
    · cases h
  · intro table htable new _ ns nsPrefix h
    rw [assignOne] at h
    split at h
    · exact htable ns nsPrefix h
    · rw [Keyed.find?_insert] at h
      split at h
      · refine Or.inr ⟨_, _, ?_, Option.some.inj h⟩
        cases hwanted : preferred.find? new with
        | none => exact Or.inl rfl
        | some wanted => exact Or.inr ⟨new, hwanted⟩
      · exact htable ns nsPrefix h

theorem declared_linkNames {documents : List Document} {n : OutputName}
    (h : n ∈ c.linkNames documents) : n.DeclaredIn c.model := by
  rw [linkNames, List.mem_append, List.mem_map] at h
  rcases h with ⟨e, -, rfl⟩ | h
  · cases hfound : (documentPrefixes c documents).find? e.1 with
    | none => exact Or.inr ⟨"ns", [], Or.inl rfl, rfl⟩
    | some nsPrefix =>
      rcases find?_assignPrefixes hfound with hxsd | ⟨base, used, hbase, hfresh⟩
      · exact Or.inl hxsd
      · refine Or.inr ⟨base, used, hbase.imp_right ?_, hfresh⟩
        rintro ⟨o, ho⟩
        exact find?_preferredPrefixes ho
  · split at h
    · rw [List.mem_singleton.mp h]
      trivial
    · exact absurd h List.not_mem_nil

theorem named_consolidate {documents : List Document}
    (h : ∀ d ∈ documents, Named c.model d.path) :
    ∀ f ∈ consolidate c documents, Named c.model f.path := by
  intro f hf
  have hpath : f.path ∈ (consolidate c documents).map OutputFile.path := List.mem_map_of_mem hf
  rw [paths_linkNames, List.mem_append, List.mem_map, List.mem_map] at hpath
  -- linking keeps the paths of the documents and adds files of its own
  rcases hpath with ⟨d, hd, hpath⟩ | ⟨n, hn, hpath⟩
  · rw [← hpath]
    exact h d hd
  · exact ⟨n, declared_linkNames hn, hpath.symm⟩

end

end GenerationContext

/-! ## Generations -/

namespace Generator

open GenerationContext Xsd

/-- All that is made so far is named for something that a model declares. -/
def EmittedFrom (m : Model) (made : Emitted) : Prop :=
  (∀ d ∈ made.1, Named m d.path) ∧ ∀ f ∈ made.2, Named m f.path

theorem emittedFrom_emit {c : GenerationContext} (hoverrides : c.options.filenameOverrides = [])
    {made made' : Emitted} {format : TargetFormat} (hmade : EmittedFrom c.model made)
    (h : emit c made format = .ok made') : EmittedFrom c.model made' := by
  cases format with
  | xmlSchema =>
    obtain ⟨documents, hdocuments, h⟩ := exists_of_bind_eq_ok h
    cases h
    exact ⟨List.forall_mem_append.mpr ⟨hmade.1, named_libraryDocuments hoverrides hdocuments⟩,
      hmade.2⟩
  | serviceSchema =>
    obtain ⟨documents, hdocuments, h⟩ := exists_of_bind_eq_ok h
    cases h
    have hservices := named_entityParts (c := c)
      (fun e he made => named_registeredServices he) hdocuments
    exact ⟨List.forall_mem_append.mpr ⟨hmade.1, hservices⟩, hmade.2⟩
  | jsonSchema =>
    obtain ⟨files, hfiles, h⟩ := exists_of_bind_eq_ok h
    cases h
    exact ⟨hmade.1, List.forall_mem_append.mpr ⟨hmade.2, named_jsonFiles hoverrides hfiles⟩⟩
  | openApi | swagger =>
    obtain ⟨files, hfiles, h⟩ := exists_of_bind_eq_ok h
    cases h
    have hapis := named_entityParts (c := c) (fun e he made => named_registeredApi he) hfiles
    exact ⟨hmade.1, List.forall_mem_append.mpr ⟨hmade.2, hapis⟩⟩

theorem emittedFrom_foldlM {c : GenerationContext} (hoverrides : c.options.filenameOverrides = [])
    {formats : List TargetFormat} {made made' : Emitted} (hmade : EmittedFrom c.model made)
    (h : formats.foldlM (emit c) made = .ok made') : EmittedFrom c.model made' := by
  induction formats generalizing made with
  | nil =>
    cases h
    exact hmade
  | cons format rest ih =>
    rw [List.foldlM_cons] at h
    obtain ⟨next, hnext, h⟩ := exists_of_bind_eq_ok h
    exact ih (emittedFrom_emit hoverrides hmade hnext) h

section

variable {g : Generator} {options : GenerationOptions} {roots : List EntityId} {cancelled : Bool}

/-- Each file of a generation is named for something that the model declares. -/
theorem declared_outputFiles {files : List OutputFile} (hoverrides : options.filenameOverrides = [])
    (h : g.outputFiles options roots cancelled = .ok files) :
    ∀ f ∈ files, Named g.model f.path := by
  obtain ⟨scope, made, -, hmade, rfl⟩ := outputFiles_eq_ok h
  have hemitted : EmittedFrom g.model made :=
    emittedFrom_foldlM (c := g.context options scope cancelled) hoverrides
      ⟨List.forall_mem_nil _, List.forall_mem_nil _⟩ hmade
  exact List.forall_mem_append.mpr ⟨hemitted.2, named_consolidate hemitted.1⟩

/-- A generation writes the manifest, the checksums, and files that are named for something
that the model declares. All of them are there in the end, and no other file is made or
changed. -/
theorem generate_places {generatedAt : String} {t t' : FileTree} {report : GenerationReport}
    (hoverrides : options.filenameOverrides = [])
    (h : g.generate options roots cancelled generatedAt t = (t', .ok report)) :
    (∀ place, (∀ path ∈ report.files, FileTree.placeText place ≠ t.spot path) → ∀ bytes,
      t'.nodeAt? place = some (.file bytes) ↔ t.nodeAt? place = some (.file bytes)) ∧
    ∀ path ∈ report.files, (∃ bytes, t'.nodeAt? (t.placeOf path) = some (.file bytes)) ∧
      ∃ name, path = Files.join options.outputDir name ∧
        (name = Manifest.manifestFile ∨ name = Manifest.checksumFile ∨ Named g.model name) := by
  obtain ⟨t₁, files, hprepared, hfiles, hwrite⟩ := generate_eq_ok h
  obtain ⟨hwrote, -, hreport⟩ := wrote_writeAll hwrite
  rw [hreport]
  -- making the output directory changes no file, and neither does a write elsewhere
  refine ⟨fun place hplace bytes => ?_, fun path hpath => ⟨?_, ?_⟩⟩
  · refine (hwrote.file_iff (fun w hw => ?_) bytes).trans (hprepared.file_iff place bytes)
    rw [FileTree.spot_eq hprepared.workDir]
    exact hplace w.1 (List.mem_map_of_mem hw)
  · obtain ⟨w, hw, rfl⟩ := List.mem_map.mp hpath
    have hread := FileTree.read?_of_wrote hwrote hw
    obtain ⟨bytes, hbytes⟩ := Option.isSome_iff_exists.mp (FileTree.isSome_lastBytes? (t := t₁) hw)
    rw [hbytes] at hread
    obtain ⟨-, hfile⟩ := FileTree.read?_eq_some.mp hread
    rw [FileTree.placeOf_eq (hwrote.workDir.trans hprepared.workDir)] at hfile
    exact ⟨bytes, hfile⟩
  · rw [writes, List.map_append, List.map_map, List.mem_append, List.mem_map] at hpath
    rcases hpath with ⟨f, hf, rfl⟩ | hpath
    · exact ⟨f.path, rfl, Or.inr (Or.inr (declared_outputFiles hoverrides hfiles f hf))⟩
    · simp only [List.map_cons, List.map_nil, List.mem_cons, List.not_mem_nil, or_false] at hpath
      rcases hpath with rfl | rfl
      · exact ⟨_, rfl, Or.inl rfl⟩
      · exact ⟨_, rfl, Or.inr (Or.inl rfl)⟩

end

end Generator

end TravelModel
