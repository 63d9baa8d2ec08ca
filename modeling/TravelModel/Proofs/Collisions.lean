import TravelModel.Proofs.Merging

/-!
# TravelModel — which collisions are reported

Merging the names of hosted libraries makes a name ambiguous where symbols
collide, and reports a collision in which an entity takes part. The report
looks at the first symbol of each hosted library only: an entity that is the
native symbol, or that its library declares after an alias of the same name,
loses its name without a finding.

Main results:

* `foldl_mergeName_snd` — the findings of merging are those of the single
  names, each with the symbol that stood there at the start.
* `collisionReports_buildSymbols` — what is reported on a name, by what hosted
  libraries bring and the native symbol.
* `collision_reported_once` — a name has one finding if it is ambiguous and a
  hosted library brings an entity first, and none otherwise.
* `silentRun_collision` — a native entity that collides without a finding.
-/

namespace TravelModel.Model

/-! ## One name -/

/-- The finding on a collision. -/
def collisionFinding (m : Model) (ns name : String) (given : List (LibraryId × Symbol))
    (native : Option Symbol) : Finding :=
  .report ns .duplicateChameleonSymbols
    [name, ns, ", ".intercalate (m.contributorNames given native)]

/-- What is reported on a name to which hosted libraries bring their symbols. -/
def collisionFindings (m : Model) (ns name : String) (given : List (LibraryId × Symbol))
    (native : Option Symbol) : Findings :=
  if collides given native && given.any fun g => g.2.isEntity then
    [m.collisionFinding ns name given native]
  else []

theorem collisionFindings_nil (m : Model) (ns name : String) (native : Option Symbol) :
    m.collisionFindings ns name [] native = [] :=
  rfl

/-- Merging a name reports by the symbol that stands there. -/
theorem findings_mergeName (m : Model) (t : SymbolTable) (ns name : String)
    {given : List (LibraryId × Symbol)} (hgiven : given ≠ []) :
    (m.mergeName t ns name given).2 = m.collisionFindings ns name given (t.lookup ns name) := by
  unfold mergeName collisionFindings
  generalize t.lookup ns name = native
  rcases given with - | ⟨g, - | ⟨g', rest⟩⟩
  · exact absurd rfl hgiven
  · -- one library alone collides with a native symbol only
    cases native with
    | none => rfl
    | some s => rfl
  · rfl

/-! ## All names -/

section

variable (m : Model) {all : List (String × String × List (LibraryId × Symbol))}
  (hkeys : all.Pairwise fun a b => ¬ (a.1 = b.1 ∧ a.2.1 = b.2.1)) (hgiven : ∀ x ∈ all, x.2.2 ≠ [])

include hkeys hgiven

/-- The findings of merging are those of the single names. -/
theorem foldl_mergeName_snd (t : SymbolTable) (fs : Findings) :
    (all.foldl (fun p x =>
      ((m.mergeName p.1 x.1 x.2.1 x.2.2).1, p.2 ++ (m.mergeName p.1 x.1 x.2.1 x.2.2).2))
      (t, fs)).2 =
      fs ++ all.flatMap fun x => m.collisionFindings x.1 x.2.1 x.2.2 (t.lookup x.1 x.2.1) := by
  induction all generalizing t fs with
  | nil => exact (List.append_nil fs).symm
  | cons x rest ih =>
    obtain ⟨hhead, hrest⟩ := List.pairwise_cons.mp hkeys
    have hx := hgiven x List.mem_cons_self
    -- merging this name leaves what stands under the later ones
    have hlater : ∀ y ∈ rest,
        m.collisionFindings y.1 y.2.1 y.2.2
            ((m.mergeName t x.1 x.2.1 x.2.2).1.lookup y.1 y.2.1) =
          m.collisionFindings y.1 y.2.1 y.2.2 (t.lookup y.1 y.2.1) := by
      intro y hy
      have hne : ¬ (y.1 = x.1 ∧ y.2.1 = x.2.1) := fun h => hhead y hy ⟨h.1.symm, h.2.symm⟩
      rw [m.lookup_mergeName t x.1 x.2.1 y.1 y.2.1 hx, if_neg hne]
    rw [List.foldl_cons, ih hrest fun y hy => hgiven y (List.mem_cons_of_mem _ hy),
      List.flatMap_congr hlater, m.findings_mergeName t x.1 x.2.1 hx, List.flatMap_cons,
      List.append_assoc]

end

theorem withCode_append (fs gs : Findings) (code : FindingCode) :
    Findings.withCode (fs ++ gs) code = fs.withCode code ++ gs.withCode code :=
  List.filter_append ..

theorem withCode_eq_nil {fs : Findings} {code : FindingCode} (h : ∀ f ∈ fs, f.code ≠ code) :
    fs.withCode code = [] :=
  List.filter_eq_nil_iff.mpr fun f hf => by simp [h f hf]

/-- The findings on collisions under a name of a namespace. -/
def collisionReports (fs : Findings) (ns name : String) : Findings :=
  (fs.withCode .duplicateChameleonSymbols).filter fun f => f.args.take 2 = [name, ns]

theorem collisionReports_append (fs gs : Findings) (ns name : String) :
    collisionReports (fs ++ gs) ns name =
      collisionReports fs ns name ++ collisionReports gs ns name := by
  unfold collisionReports
  rw [withCode_append, List.filter_append]

/-- What is reported on one name is about that name. -/
theorem collisionReports_one (m : Model) (ns name ns' name' : String)
    (given : List (LibraryId × Symbol)) (native : Option Symbol) :
    collisionReports (m.collisionFindings ns' name' given native) ns name =
      if ns = ns' ∧ name = name' then m.collisionFindings ns' name' given native else [] := by
  unfold collisionFindings
  split
  · by_cases hkey : ns = ns' ∧ name = name'
    · rw [if_pos hkey, hkey.1, hkey.2]
      simp [collisionReports, Findings.withCode, collisionFinding, Finding.report]
    · rw [if_neg hkey]
      have hnot : ¬ (name' = name ∧ ns' = ns) := fun h => hkey ⟨h.2.symm, h.1.symm⟩
      simpa [collisionReports, Findings.withCode, collisionFinding, Finding.report] using hnot
  · rw [ite_self]
    rfl

/-- Of all that is reported on names merged once, what is about one name is what
was reported when it was merged. -/
theorem collisionReports_flatMap (m : Model)
    {all : List (String × String × List (LibraryId × Symbol))}
    (hkeys : all.Pairwise fun a b => ¬ (a.1 = b.1 ∧ a.2.1 = b.2.1))
    (native : String → String → Option Symbol) (ns name : String) :
    collisionReports
        (all.flatMap fun x => m.collisionFindings x.1 x.2.1 x.2.2 (native x.1 x.2.1)) ns name =
      m.collisionFindings ns name (listed all ns name) (native ns name) := by
  induction all with
  | nil => rfl
  | cons x rest ih =>
    obtain ⟨hhead, hrest⟩ := List.pairwise_cons.mp hkeys
    rw [List.flatMap_cons, collisionReports_append, collisionReports_one, ih hrest, listed_cons]
    by_cases hkey : ns = x.1 ∧ name = x.2.1
    · -- the name does not come again
      have hlater : listed rest ns name = [] := by
        refine listed_eq_nil fun y hy hsame => hhead y hy ?_
        exact ⟨hkey.1.symm.trans hsame.1, hkey.2.symm.trans hsame.2⟩
      rw [if_pos hkey, if_pos hkey, hlater, collisionFindings_nil, List.append_nil, hkey.1, hkey.2]
    · rw [if_neg hkey, if_neg hkey, List.nil_append]

/-! ## The table of a model -/

/-- Native names are reported under another code, as errors. -/
theorem of_mem_enterNative {names : List (String × String × String × Symbol)}
    {t : SymbolTable} {f : Finding} (hf : f ∈ (enterNative names t).2) :
    f.code = .duplicateSymbol ∧ f.severity = .error := by
  fun_induction enterNative names t with
  | case1 t => exact absurd hf List.not_mem_nil
  | case2 source ns name s rest t hnew ih => exact ih hf
  | case3 source ns name s rest t existing hold t' fs heq ih =>
    rw [heq] at ih
    split at hf
    · exact ih hf
    · rcases List.mem_cons.mp hf with rfl | hf
      · exact ⟨rfl, rfl⟩
      · exact ih hf

/-- The table of a model before the names of hosted libraries are merged. -/
def nativeTable (m : Model) : SymbolTable :=
  (enterNative m.nativeNames { m.assignPrefixes {} with hosts := m.chameleonHosts }).1

theorem findings_buildSymbols (m : Model) :
    m.buildSymbols.2 =
      (enterNative m.nativeNames { m.assignPrefixes {} with hosts := m.chameleonHosts }).2 ++
        (m.mergeHosted m.nativeTable).2 :=
  rfl

theorem hosts_nativeTable (m : Model) : m.nativeTable.hosts = m.chameleonHosts := by
  obtain ⟨symbols, heq, -⟩ :=
    enterNative_frame m.nativeNames { m.assignPrefixes {} with hosts := m.chameleonHosts }
  rw [nativeTable, heq]

theorem lookup_nativeTable (m : Model) (ns name : String) :
    m.nativeTable.lookup ns name = m.native? ns name := by
  obtain ⟨prefixes, hprefixes, -⟩ := m.assignPrefixes_frame {}
  rw [nativeTable, hprefixes, lookup_enterNative, first?_nativeNames]
  rfl

/-- The findings on hosted names, name by name. -/
theorem findings_mergeHosted (m : Model) :
    (m.mergeHosted m.nativeTable).2 =
      (m.contributions m.chameleonHosts).triples.flatMap fun x =>
        m.collisionFindings x.1 x.2.1 x.2.2 (m.native? x.1 x.2.1) := by
  have hcollected := m.collected_contributions m.chameleonHosts
  have hgiven : ∀ x ∈ (m.contributions m.chameleonHosts).triples, x.2.2 ≠ [] := fun x hx =>
    hcollected.given x.1 x.2.1 x.2.2 ((Keyed.mem_triples hcollected.ordered).mp hx)
  have hfold := m.foldl_mergeName_snd (Keyed.pairwise_triples hcollected.ordered) hgiven
    m.nativeTable []
  simp only [lookup_nativeTable, List.nil_append] at hfold
  rw [← hfold, ← hosts_nativeTable]
  rfl

/-- What is reported on a name of the table of a consistent model. -/
theorem collisionReports_buildSymbols {m : Model} (hm : m.WellFormed) (ns name : String) :
    collisionReports m.buildSymbols.2 ns name =
      m.collisionFindings ns name (m.hosted ns name) (m.native? ns name) := by
  have hcollected := m.collected_contributions m.chameleonHosts
  have hnative : collisionReports (enterNative m.nativeNames
      { m.assignPrefixes {} with hosts := m.chameleonHosts }).2 ns name = [] := by
    rw [collisionReports, withCode_eq_nil, List.filter_nil]
    intro f hf
    rw [(of_mem_enterNative hf).1]
    decide
  rw [findings_buildSymbols, collisionReports_append, hnative, List.nil_append,
    findings_mergeHosted,
    m.collisionReports_flatMap (Keyed.pairwise_triples hcollected.ordered) m.native?,
    listed_triples hcollected, given_contributions hm]

theorem eq_of_mem_collisionFindings {m : Model} {ns name : String}
    {given : List (LibraryId × Symbol)} {native : Option Symbol} {f : Finding}
    (hf : f ∈ m.collisionFindings ns name given native) :
    f = m.collisionFinding ns name given native := by
  unfold collisionFindings at hf
  split at hf
  · exact List.mem_singleton.mp hf
  · exact absurd hf List.not_mem_nil

/-- Every finding of a table is on a native name or on the collision of a hosted
one. -/
theorem mem_findings_buildSymbols {m : Model} {f : Finding} (hf : f ∈ m.buildSymbols.2) :
    f.code = .duplicateSymbol ∨
      ∃ ns name given native, f = m.collisionFinding ns name given native := by
  rw [findings_buildSymbols, List.mem_append] at hf
  rcases hf with hf | hf
  · exact Or.inl (of_mem_enterNative hf).1
  · rw [findings_mergeHosted] at hf
    obtain ⟨x, -, hx⟩ := List.mem_flatMap.mp hf
    exact Or.inr ⟨_, _, _, _, eq_of_mem_collisionFindings hx⟩

/-- Every finding on a collision is about some name. -/
theorem exists_of_mem_collisions {m : Model} {f : Finding}
    (hf : f ∈ m.buildSymbols.2.withCode .duplicateChameleonSymbols) :
    ∃ ns name, f ∈ collisionReports m.buildSymbols.2 ns name := by
  obtain ⟨hmem, hcode⟩ := List.mem_filter.mp hf
  rcases mem_findings_buildSymbols hmem with hnative | ⟨ns, name, given, native, heq⟩
  · rw [hnative] at hcode
    cases hcode
  · refine ⟨ns, name, List.mem_filter.mpr ⟨hf, ?_⟩⟩
    rw [heq]
    simp [collisionFinding, Finding.report]

/-! ## Entities in collisions -/

/-- A hosted library brings an entity as its first symbol under a name. -/
def HostedEntity (m : Model) (ns name : String) : Prop :=
  ∃ c ∈ m.hostedIn ns, ∃ id, m.contributed? c name = some (.entity id)

/-- Among all symbols that meet under a name, the native one or any that a
hosted library brings, there is an entity. -/
def EntityMeets (m : Model) (ns name : String) : Prop :=
  (∃ id, m.native? ns name = some (.entity id)) ∨
    ∃ c ∈ m.hostedIn ns, ∃ e ∈ m.libraryEntities c.id, ∃ id, (name, .entity id) ∈ e.symbolNames

theorem isEntity_iff {s : Symbol} : s.isEntity = true ↔ ∃ id, s = .entity id := by
  cases s <;> simp [Symbol.isEntity]

theorem any_isEntity_iff {m : Model} {ns name : String} :
    ((m.hosted ns name).any fun g => g.2.isEntity) = true ↔ m.HostedEntity ns name := by
  rw [List.any_eq_true]
  constructor
  · rintro ⟨g, hg, hentity⟩
    obtain ⟨c, hc, hs, -⟩ := mem_hosted.mp hg
    obtain ⟨id, hid⟩ := isEntity_iff.mp hentity
    exact ⟨c, hc, id, hid ▸ hs⟩
  · rintro ⟨c, hc, id, hs⟩
    exact ⟨(c.id, .entity id), mem_hosted.mpr ⟨c, hc, hs, rfl⟩, rfl⟩

instance (m : Model) (ns name : String) : Decidable (m.HostedEntity ns name) :=
  decidable_of_iff _ any_isEntity_iff

theorem HostedEntity.entityMeets {m : Model} {ns name : String} (h : m.HostedEntity ns name) :
    m.EntityMeets ns name := by
  obtain ⟨c, hc, id, hs⟩ := h
  obtain ⟨e, he, hname⟩ := mem_of_contributed? hs
  exact Or.inr ⟨c, hc, e, he, id, hname⟩

/-- A name has exactly one finding, with the name, the namespace and the libraries
that collide, if it is ambiguous and some hosted library brings an entity first;
otherwise it has none. All findings on collisions are of this kind, and an
entity that a hosted library brings first is one of the symbols that meet. -/
theorem collision_reported_once (cs : List Change) (ns name : String) :
    let m := run cs
    let t := m.buildSymbols.1
    collisionReports m.buildSymbols.2 ns name =
      (if t.isAmbiguous ns name = true ∧ m.HostedEntity ns name then
        [m.collisionFinding ns name (m.hosted ns name) (m.native? ns name)]
      else []) ∧
    (∀ f ∈ m.buildSymbols.2.withCode .duplicateChameleonSymbols, ∃ ns' name',
      t.isAmbiguous ns' name' = true ∧ m.HostedEntity ns' name' ∧
        f = m.collisionFinding ns' name' (m.hosted ns' name') (m.native? ns' name')) ∧
    (m.HostedEntity ns name → m.EntityMeets ns name) := by
  intro m t
  have hm : m.WellFormed := wellFormed_run cs
  have ht : Built m t := built_buildSymbols hm
  have hreports : ∀ ns' name', collisionReports m.buildSymbols.2 ns' name' =
      if t.isAmbiguous ns' name' = true ∧ m.HostedEntity ns' name' then
        [m.collisionFinding ns' name' (m.hosted ns' name') (m.native? ns' name')]
      else [] := by
    intro ns' name'
    rw [collisionReports_buildSymbols hm, collisionFindings, ht.isAmbiguous]
    simp only [Bool.and_eq_true, any_isEntity_iff]
  refine ⟨hreports ns name, ?_, HostedEntity.entityMeets⟩
  intro f hf
  obtain ⟨ns', name', hmem⟩ := exists_of_mem_collisions hf
  rw [hreports] at hmem
  split at hmem
  · next h => exact ⟨ns', name', h.1, h.2, List.mem_singleton.mp hmem⟩
  · exact absurd hmem List.not_mem_nil

/-- In the sample two hosted libraries bring an entity under one name, which is
reported once. -/
theorem sampleRun_collision :
    let m := run sampleRun
    m.HostedEntity "urn:host" "Shared" ∧ m.EntityMeets "urn:host" "Shared" ∧
      (collisionReports m.buildSymbols.2 "urn:host" "Shared").length = 1 := by
  intro m
  have hentity : m.HostedEntity "urn:host" "Shared" := by decide +kernel
  obtain ⟨hreports, -, hmeets⟩ := collision_reported_once sampleRun "urn:host" "Shared"
  refine ⟨hentity, hmeets hentity, ?_⟩
  rw [hreports, if_pos ⟨by decide +kernel, hentity⟩]
  rfl

/-- A namespace declares a type, and the library it hosts an object with an alias
of that name. -/
def silentRun : List Change :=
  [.add (sampleLibrary "Host" (some "urn:host") ["Left.otm"])
      [sampleMember "Code" (.simpleType {})],
    .add (sampleLibrary "Left" none [])
      [sampleMember "Money" (.coreObject { (default : CoreObject) with aliases := ["Code"] })]]

/-- The native entity loses its name, and no finding says so. -/
theorem silentRun_collision :
    let m := run silentRun
    m.buildSymbols.1.isAmbiguous "urn:host" "Code" = true ∧
      m.EntityMeets "urn:host" "Code" ∧
      m.buildSymbols.1.lookup "urn:host" "Code" = none ∧
      collisionReports m.buildSymbols.2 "urn:host" "Code" = [] := by
  intro m
  have hnative : m.native? "urn:host" "Code" = some (.entity ⟨0⟩) := by decide +kernel
  exact ⟨by decide +kernel, Or.inl ⟨⟨0⟩, hnative⟩, by decide +kernel, by decide +kernel⟩

end TravelModel.Model
