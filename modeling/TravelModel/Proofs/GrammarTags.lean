import TravelModel.Model.Assembly
import TravelModel.Proofs.Refresh

/-!
# TravelModel — grammar tags

A library keeps the grammar that its module was read by. Nothing in a model is
computed from it: forgetting the tags commutes with adding a library and with a
refresh, so modules that differ in their tags assemble to models that differ in
theirs.

Main results:

* `buildSymbols_untagged`, `bindings_untagged` — names and targets do not depend
  on tags.
* `refresh_untagged`, `addLibrary_untagged` — nor do the steps of an assembly.
* `assemble_congr` — modules of the same content make the same model, apart from
  tags, with the same findings.
-/

namespace TravelModel

/-- A library without the tag of its grammar. -/
def Library.untagged (l : Library) : Library :=
  { l with grammar := none }

namespace Model

/-- A model whose libraries have no tags. -/
def untagged (m : Model) : Model :=
  { m with librarySlots := m.librarySlots.map (Option.map Library.untagged) }

/-! ## Libraries -/

theorem libraries_untagged (m : Model) :
    m.untagged.libraries = m.libraries.map Library.untagged := by
  rw [libraries, libraries, untagged, Array.toList_map, List.filterMap_map, List.map_filterMap]
  rfl

theorem library?_untagged (m : Model) (id : LibraryId) :
    m.untagged.library? id = (m.library? id).map Library.untagged := by
  rw [library?, library?, untagged, Array.getElem?_map]
  cases m.librarySlots[id.index]? <;> rfl

theorem owner?_untagged (m : Model) (id : EntityId) :
    m.untagged.owner? id = (m.owner? id).map Library.untagged := by
  rw [owner?, owner?, Option.map_bind]
  exact Option.bind_congr fun e _ => m.library?_untagged e.library

theorem libraryEntities_untagged (m : Model) (id : LibraryId) :
    m.untagged.libraryEntities id = m.libraryEntities id := by
  rw [libraryEntities, library?_untagged, Option.map_map]
  rfl

theorem broughtBy_untagged (m : Model) (id : LibraryId) :
    m.untagged.broughtBy id = m.broughtBy id := by
  rw [broughtBy, libraryEntities_untagged, broughtBy]

/-! ## Names -/

theorem hostsFor_untagged (m : Model) (c : Library) :
    m.untagged.hostsFor c.untagged = m.hostsFor c := by
  rw [hostsFor, libraries_untagged, List.filterMap_map]
  rfl

theorem chameleonHosts_untagged (m : Model) : m.untagged.chameleonHosts = m.chameleonHosts := by
  have hchameleons : (m.libraries.map Library.untagged).filter Library.isChameleon =
      (m.libraries.filter Library.isChameleon).map Library.untagged :=
    List.filter_map
  rw [chameleonHosts, libraries_untagged, hchameleons, List.map_map]
  have hhosts : (fun c => (c.id, m.untagged.hostsFor c)) ∘ Library.untagged =
      fun c => (c.id, m.hostsFor c) := by
    funext c
    exact congrArg (Prod.mk c.id) (m.hostsFor_untagged c)
  rw [hhosts, chameleonHosts]

theorem effectiveNamespaces_untagged (m : Model) (t : SymbolTable) (id : EntityId) :
    m.untagged.effectiveNamespaces t id = m.effectiveNamespaces t id := by
  rw [effectiveNamespaces, effectiveNamespaces, owner?_untagged]
  cases m.owner? id <;> rfl

theorem assignPrefixes_untagged (m : Model) (t : SymbolTable) :
    m.untagged.assignPrefixes t = m.assignPrefixes t := by
  rw [assignPrefixes, libraries_untagged, List.foldl_map]
  rfl

theorem nativeNames_untagged (m : Model) : m.untagged.nativeNames = m.nativeNames := by
  rw [nativeNames_eq, nativeNames_eq, libraries_untagged, List.flatMap_map,
    funext m.broughtBy_untagged]
  rfl

theorem contributorNames_untagged (m : Model) (given : List (LibraryId × Symbol))
    (native : Option Symbol) :
    m.untagged.contributorNames given native = m.contributorNames given native := by
  have hname : ∀ l : Option Library,
      (l.map Library.untagged).map Library.name = l.map Library.name :=
    fun l => Option.map_map ..
  have howner : ((native.bind fun s => m.untagged.owner? s.owner).map Library.name) =
      (native.bind fun s => m.owner? s.owner).map Library.name := by
    cases native with
    | none => rfl
    | some s => rw [Option.bind_some, owner?_untagged, hname, Option.bind_some]
  rw [contributorNames, contributorNames, howner]
  simp only [library?_untagged, hname]

theorem mergeHosted_untagged (m : Model) (t : SymbolTable) :
    m.untagged.mergeHosted t = m.mergeHosted t := by
  have hcontributions : m.untagged.contributions t.hosts = m.contributions t.hosts := by
    rw [contributions_eq, contributions_eq, funext m.broughtBy_untagged]
  have hmerge : m.untagged.mergeName = m.mergeName := by
    funext t ns name given
    unfold mergeName
    simp only [contributorNames_untagged]
  rw [mergeHosted, mergeHosted, hcontributions, hmerge]

theorem indexOperations_untagged (m : Model) (t : SymbolTable) :
    m.untagged.indexOperations t = m.indexOperations t := by
  have hspaces : m.untagged.effectiveNamespaces = m.effectiveNamespaces := by
    funext t id
    exact m.effectiveNamespaces_untagged t id
  rw [indexOperations, indexOperations, hspaces]
  rfl

/-- The table does not depend on tags. -/
theorem buildSymbols_untagged (m : Model) : m.untagged.buildSymbols = m.buildSymbols := by
  simp only [buildSymbols, assignPrefixes_untagged, chameleonHosts_untagged, nativeNames_untagged,
    mergeHosted_untagged, indexOperations_untagged]

/-! ## References -/

theorem candidates_untagged (m : Model) (t : SymbolTable) (l : Library) (id : EntityId)
    (r : Reference) : m.untagged.candidates t l.untagged id r = m.candidates t l id r := by
  rw [candidates, candidates, effectiveNamespaces_untagged]
  rfl

theorem resolve_untagged (m : Model) (t : SymbolTable) (l : Library) (id : EntityId)
    (r : Reference) : m.untagged.resolve t l.untagged id r = m.resolve t l id r := by
  rw [resolve, candidates_untagged, libraryEntities_untagged]
  rfl

theorem unresolvedFinding_untagged (m : Model) (t : SymbolTable) (l : Library) (e : NamedEntity)
    (r : Reference) :
    m.untagged.unresolvedFinding t l.untagged e r = m.unresolvedFinding t l e r := by
  rw [unresolvedFinding, candidates_untagged]
  rfl

/-- What references stand for does not depend on tags. -/
theorem bindings_untagged (m : Model) (t : SymbolTable) (e : NamedEntity) :
    m.untagged.bindings t e = m.bindings t e := by
  rw [bindings, bindings, owner?_untagged]
  cases m.owner? e.id with
  | none => rfl
  | some l =>
    simp only [Option.map_some, funext (m.resolve_untagged t l e.id),
      funext (m.unresolvedFinding_untagged t l e)]

theorem bindAll_untagged (m : Model) (t : SymbolTable) :
    m.untagged.bindAll t = (m.bindAll t).untagged := by
  have hbind : m.untagged.bindEntity t = m.bindEntity t := by
    funext e
    rw [bindEntity, bindEntity, bindings_untagged]
  rw [bindAll, hbind]
  rfl

/-! ## Ghosts and checks -/

theorem unseenFacets_untagged (m : Model) (owner : NamedEntity) (sources : List EntityId)
    (seen : List (ContextualKind × String)) :
    m.untagged.unseenFacets owner sources seen = m.unseenFacets owner sources seen := by
  induction sources generalizing seen with
  | nil => rfl
  | cons source rest ih =>
    rw [unseenFacets, unseenFacets]
    simp only [ih]
    rfl

theorem extensionChain_untagged (m : Model) (id : EntityId) :
    m.untagged.extensionChain id = m.extensionChain id :=
  have hsuper : ∀ id, m.untagged.supertype? id = m.supertype? id := fun _ => rfl
  extensionChain_congr hsuper id

theorem ghostNames_untagged (m : Model) : m.untagged.ghostNames = m.ghostNames := by
  have hghosts : m.untagged.ghostFacets = m.ghostFacets := by
    funext id
    rw [ghostFacets, ghostFacets, extensionChain_untagged]
    simp only [unseenFacets_untagged]
    rfl
  rw [ghostNames, hghosts]
  simp only [effectiveNamespaces_untagged]
  rfl

theorem checkStructure_untagged (m : Model) : m.untagged.checkStructure = m.checkStructure := by
  have hsource : m.untagged.entitySource = m.entitySource := by
    funext e
    rw [entitySource, entitySource, owner?_untagged, Option.map_map]
    rfl
  have hcircular : m.untagged.circularFindings = m.circularFindings := by
    funext e
    rw [circularFindings, circularFindings, hasCircularExtension, extensionChain_untagged, hsource]
    rfl
  have howner : m.untagged.ownerFindings = m.ownerFindings := by
    funext e
    unfold ownerFindings
    rw [hsource]
    rfl
  rw [checkStructure, hcircular, howner]
  rfl

/-! ## Assembly -/

theorem indexed_untagged (m : Model) : m.untagged.indexed = m.indexed.untagged := by
  rw [indexed, buildSymbols_untagged, bindAll_untagged]
  rfl

theorem refresh_untagged (m : Model) :
    m.untagged.refresh = (m.refresh.1.untagged, m.refresh.2) := by
  have hmodel : m.untagged.refresh.1 = m.refresh.1.untagged := by
    -- what is bound and indexed, with the names of ghosts entered
    rw [refresh_eq, refresh_eq, indexed_untagged, ghostNames_untagged]
    rfl
  refine Prod.ext hmodel ?_
  rw [findings_refresh, findings_refresh, buildSymbols_untagged, hmodel, checkStructure_untagged]
  simp only [bindings_untagged]
  rfl

theorem addLibrary_untagged (m : Model) (l : Library) (members : List MemberDecl) :
    m.untagged.addLibrary l.untagged members =
      ((m.addLibrary l members).1.untagged, (m.addLibrary l members).2) := by
  -- whether the name is taken is asked of the keys
  have hfound : m.untagged.findLibrary? l.untagged.ns l.untagged.name =
      m.findLibrary? l.ns l.name := rfl
  have hsize : m.untagged.librarySlots.size = m.librarySlots.size := Array.size_map
  rw [addLibrary, addLibrary, hfound, hsize]
  split
  · rfl
  · simp only [untagged, Array.map_push]
    rfl

/-- Modules that differ in their tags at most. -/
def SameContent (m m' : LibraryModule) : Prop :=
  ∃ g, m' = { m with grammar := g }

instance : Std.Refl SameContent :=
  ⟨fun m => ⟨m.grammar, rfl⟩⟩

/-- Two results agree apart from tags: the models do, and the findings are the
same. -/
def SameResult (r r' : Model × Findings) : Prop :=
  r.1.untagged = r'.1.untagged ∧ r.2 = r'.2

/-- Adds the library of a module to what has been assembled. -/
def joinModule (builtIn : Bool) (r : Model × Findings) (m : LibraryModule) : Model × Findings :=
  ((r.1.addModule m builtIn).1, r.2 ++ (r.1.addModule m builtIn).2.2)

namespace SameResult

theorem refl (r : Model × Findings) : SameResult r r :=
  ⟨rfl, rfl⟩

/-- One step of an assembly keeps results the same apart from tags. -/
theorem joinModule {r r' : Model × Findings} {m m' : LibraryModule} (builtIn : Bool)
    (hr : SameResult r r') (hm : SameContent m m') :
    SameResult (joinModule builtIn r m) (joinModule builtIn r' m') := by
  obtain ⟨g, rfl⟩ := hm
  have hadd := addLibrary_untagged r.1 (libraryOf m builtIn) m.members
  rw [hr.1] at hadd
  -- the libraries of the two modules are the same without their tags
  have hadd' := addLibrary_untagged r'.1 (libraryOf { m with grammar := g } builtIn) m.members
  obtain ⟨hmodel, hrest⟩ := Prod.mk.inj (hadd.symm.trans hadd')
  exact ⟨hmodel, congrArg₂ (fun fs more => fs ++ (namespaceFindings m builtIn ++ more)) hr.2
    (congrArg Prod.snd hrest)⟩

/-- So do its steps one after another. -/
theorem addModules (model : Model) {ms ms' : List LibraryModule} (builtIn : Bool)
    (hms : List.Forall₂ SameContent ms ms') :
    SameResult (model.addModules builtIn ms) (model.addModules builtIn ms') := by
  have hrun : ∀ r r', SameResult r r' →
      SameResult (ms.foldl (Model.joinModule builtIn) r)
        (ms'.foldl (Model.joinModule builtIn) r') := by
    induction hms with
    | nil => exact fun r r' hr => hr
    | cons hm _ ih => exact fun r r' hr => ih _ _ (hr.joinModule builtIn hm)
  exact hrun (model, []) (model, []) (refl _)

theorem refresh {m m' : Model} (h : m.untagged = m'.untagged) :
    SameResult m.refresh m'.refresh := by
  have hrefresh := refresh_untagged m
  rw [h, refresh_untagged] at hrefresh
  obtain ⟨hmodel, hfindings⟩ := Prod.mk.inj hrefresh
  exact ⟨hmodel.symm, hfindings.symm⟩

end SameResult

/-- Modules of the same content assemble to models that differ in tags at most, with
the same findings. -/
theorem assemble_congr {ms ms' : List LibraryModule} (builtIns : List LibraryModule)
    (h : List.Forall₂ SameContent ms ms') :
    SameResult (assemble ms builtIns) (assemble ms' builtIns) := by
  obtain ⟨hmodel, hfindings⟩ := SameResult.addModules (addModules {} true builtIns).1 false h
  obtain ⟨hrefresh, hmore⟩ := SameResult.refresh hmodel
  exact ⟨hrefresh, congrArg₂
    (fun second third => (addModules {} true builtIns).2 ++ second ++ third) hfindings hmore⟩

end Model

end TravelModel
