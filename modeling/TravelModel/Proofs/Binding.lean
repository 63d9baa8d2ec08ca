import Mathlib.Data.List.Forall2
import TravelModel.Proofs.Collisions
import TravelModel.Proofs.Faithful
import TravelModel.Proofs.Lists
import TravelModel.Proofs.Ownership
import TravelModel.Proofs.Refresh

/-!
# TravelModel — what references are bound to

A refresh binds every reference against the table of the libraries and
reports the ones that stand for nothing. Ghosts get their names afterwards:
they depend on supertypes, and so on bound references. Binding is therefore
exact for the model, and agrees with the table that a refresh leaves unless
a reference names a ghost.

Main results:

* `target_refresh` — after a refresh the target of a reference is what it
  resolves to in the table without ghosts.
* `resolve_spec` — what a reference resolves to is there and has its name.
* `binding_exact` — bound references lead to entities that are there, and the
  unbound ones are reported one by one, in order.
* `target_eq_resolve_iff` — a reference is bound as the final table says if
  and only if that is not a ghost.
* `ghostRun_unbound` — a reference to a ghost that is left unbound.
-/

namespace TravelModel

/-- Whether a symbol stands for an inherited facet. -/
def Symbol.isGhost : Symbol → Bool
  | ghost _ _ => true
  | _ => false

namespace Model

/-! ## What a reference can stand for -/

theorem not_isGhost_of_symbolNames {e : NamedEntity} {name : String} {s : Symbol}
    (h : (name, s) ∈ e.symbolNames) : s.isGhost = false := by
  rw [NamedEntity.symbolNames, List.mem_cons, List.mem_append, List.mem_map, List.mem_map] at h
  rcases h with h | ⟨_, -, h⟩ | ⟨_, -, h⟩
  · rw [(Prod.mk.inj h).2]
    rfl
  · rw [← (Prod.mk.inj h).2]
    rfl
  · rw [← (Prod.mk.inj h).2]
    rfl

/-- No library brings a ghost. -/
theorem not_isGhost_of_lookup {m : Model} {t : SymbolTable} (ht : Built m t) {ns name : String}
    {s : Symbol} (h : t.lookup ns name = some s) : s.isGhost = false := by
  rw [ht.lookup] at h
  obtain ⟨l, -, hs⟩ := provided_of_merged h
  obtain ⟨e, -, hname⟩ := mem_of_contributed? hs
  exact not_isGhost_of_symbolNames hname

/-- What is found for a reference in the namespaces in which it is looked up. -/
def found? (m : Model) (t : SymbolTable) (l : Library) (id : EntityId) (r : Reference) :
    Option Symbol :=
  (m.candidates t l id r).findSome? fun ns => t.lookup ns r.localName

/-- A reference for which nothing is found falls back on the members of a library without
a namespace. -/
theorem resolve_eq (m : Model) (t : SymbolTable) (l : Library) (id : EntityId) (r : Reference) :
    m.resolve t l id r = (m.found? t l id r).or
      (if l.isChameleon then
        ((m.libraryEntities l.id).find? fun e => e.name = r.localName).map fun e => .entity e.id
      else none) := by
  rw [resolve, ← found?]
  cases m.found? t l id r with
  | none => rfl
  | some s => rfl

/-- What a reference resolves to belongs to an entity that is there and has the
name of the reference. -/
theorem resolve_spec {m : Model} (hm : m.WellFormed) {t : SymbolTable} (ht : Built m t)
    {l : Library} {id : EntityId} {r : Reference} {s : Symbol} (h : m.resolve t l id r = some s) :
    (∃ e, m.entity? s.owner = some e) ∧ m.localName? s = some r.localName ∧ s.isGhost = false := by
  rw [resolve] at h
  split at h
  · next s' hfound =>
    obtain ⟨ns, -, hlookup⟩ := List.exists_of_findSome?_eq_some hfound
    rw [Option.some.inj h] at hlookup
    obtain ⟨hlive, -, hname, -⟩ := lookup_built_spec hm ht hlookup
    exact ⟨hlive, hname, not_isGhost_of_lookup ht hlookup⟩
  · split at h
    · -- a member of a library without a namespace, found by its own name
      obtain ⟨e, hfind, rfl⟩ := Option.map_eq_some_iff.mp h
      obtain ⟨hlive, -⟩ := hm.mem_libraryEntities_iff.mp (List.mem_of_find?_eq_some hfind)
      have hname := List.find?_some hfind
      rw [decide_eq_true_eq] at hname
      refine ⟨⟨e, hlive⟩, ?_, rfl⟩
      rw [localName?, Symbol.owner, hlive, ← hname]
      rfl
    · cases h

/-! ## References after a refresh -/

/-- Binding keeps the names of the references and replaces their targets. -/
theorem refs_bindEntity {m : Model} (hm : m.WellFormed) (t : SymbolTable) {id : EntityId}
    {e : NamedEntity} {l : Library} (he : m.entity? id = some e) (hl : m.owner? id = some l) :
    refs (m.bindEntity t e).body =
      (refs e.body).map fun r => { name := r.name, target := m.resolve t l id r } := by
  have htargets : (m.bindings t e).1 = (refs e.body).map (m.resolve t l id) := by
    rw [bindings, hm.entity_id he, hl]
  have hassign := EntityBody.refs_assign (length_bindings hm t he)
  rw [htargets, EntityBody.refNames, List.zipWith_map, List.zipWith_self] at hassign
  rw [bindEntity, htargets]
  exact hassign

/-- The target of a reference is what it resolves to in the table of the
libraries. -/
theorem target_refresh {m : Model} (hm : m.WellFormed) {id : EntityId} {e : NamedEntity}
    {l : Library} (he : m.refresh.1.entity? id = some e) (hl : m.refresh.1.owner? id = some l)
    {r : Reference} (hr : r ∈ refs e.body) :
    r.target = m.refresh.1.resolve m.buildSymbols.1 l id r := by
  have hsame := sameDeclarations_refresh hm
  rw [entity?_refresh] at he
  obtain ⟨e₀, he₀, rfl⟩ := Option.map_eq_some_iff.mp he
  rw [← hsame.owner?] at hl
  rw [refs_bindEntity hm _ he₀ hl] at hr
  obtain ⟨r₀, -, rfl⟩ := List.mem_map.mp hr
  -- resolving looks at the name of a reference only
  exact hsame.resolve m.buildSymbols.1 l id r₀

/-- A bound reference leads to an entity that is there. -/
theorem live_of_target {m : Model} (hm : m.WellFormed) {id : EntityId} {e : NamedEntity}
    (he : m.refresh.1.entity? id = some e) {r : Reference} (hr : r ∈ refs e.body) {s : Symbol}
    (hs : r.target = some s) :
    (∃ e', m.refresh.1.entity? s.owner = some e') ∧
      m.refresh.1.localName? s = some r.localName := by
  obtain ⟨l, hl, -⟩ := (wellFormed_refresh hm).owner?_eq he
  rw [target_refresh hm he hl hr] at hs
  obtain ⟨hlive, hname, -⟩ := resolve_spec (wellFormed_refresh hm) (built_refresh hm) hs
  exact ⟨hlive, hname⟩

/-! ## Findings on references -/

/-- The references without a target, in the order of entities and declarations. -/
def unbound (m : Model) : List (NamedEntity × Reference) :=
  m.entities.flatMap fun e =>
    ((refs e.body).filter fun r => r.target.isNone).map fun r => (e, r)

/-- A finding names a reference by its text, and the library and entity that
declare it. -/
def Reports (m : Model) (f : Finding) (x : NamedEntity × Reference) : Prop :=
  ∃ l, m.library? x.1.library = some l ∧ f.source = l.name ++ ":" ++ x.1.name ∧
    f.args.head? = some x.2.name

theorem entities_refresh (m : Model) :
    m.refresh.1.entities = m.entities.map (m.bindEntity m.buildSymbols.1) := by
  rw [entities, entitySlots_refresh, Array.toList_map, List.filterMap_map, entities,
    List.map_filterMap]
  rfl

theorem code_of_mem_bindings {m : Model} {t : SymbolTable} {e : NamedEntity} {f : Finding}
    (hf : f ∈ (m.bindings t e).2) : f.code = .unresolvedReference := by
  rw [bindings] at hf
  split at hf
  · exact absurd hf List.not_mem_nil
  · obtain ⟨r, -, rfl⟩ := List.mem_map.mp hf
    rfl

theorem code_of_mem_ownerFindings {m : Model} {e : NamedEntity} {f : Finding}
    (hf : f ∈ m.ownerFindings e) : f.code = .invalidFacetOwner := by
  unfold ownerFindings at hf
  split at hf
  · split at hf
    · split at hf
      · exact absurd hf List.not_mem_nil
      · rw [List.mem_singleton.mp hf]
        rfl
    · exact absurd hf List.not_mem_nil
  · exact absurd hf List.not_mem_nil

theorem code_of_mem_checkStructure {m : Model} {f : Finding} (hf : f ∈ m.checkStructure) :
    f.code = .circularExtension ∨ f.code = .invalidFacetOwner := by
  obtain ⟨e, -, hf⟩ := List.mem_flatMap.mp hf
  rcases List.mem_append.mp hf with hf | hf
  · left
    rw [circularFindings] at hf
    split at hf
    · rw [List.mem_singleton.mp hf]
      rfl
    · exact absurd hf List.not_mem_nil
  · exact Or.inr (code_of_mem_ownerFindings hf)

/-! The three parts of a refresh report under codes of their own. -/

theorem withCode_buildSymbols {m : Model} {code : FindingCode} (hnative : .duplicateSymbol ≠ code)
    (hhosted : .duplicateChameleonSymbols ≠ code) : m.buildSymbols.2.withCode code = [] := by
  refine withCode_eq_nil fun f hf => ?_
  rcases mem_findings_buildSymbols hf with hcode | ⟨ns, name, given, native, heq⟩
  · rwa [hcode]
  · rw [heq]
    exact hhosted

theorem withCode_bindings {m : Model} {t : SymbolTable} {code : FindingCode}
    (h : .unresolvedReference ≠ code) (es : List NamedEntity) :
    Findings.withCode (es.flatMap fun e => (m.bindings t e).2) code = [] := by
  refine withCode_eq_nil fun f hf => ?_
  obtain ⟨e, -, hf⟩ := List.mem_flatMap.mp hf
  rwa [code_of_mem_bindings hf]

theorem withCode_checkStructure_eq_nil {m : Model} {code : FindingCode}
    (hcircular : .circularExtension ≠ code) (howner : .invalidFacetOwner ≠ code) :
    m.checkStructure.withCode code = [] := by
  refine withCode_eq_nil fun f hf => ?_
  rcases code_of_mem_checkStructure hf with hcode | hcode
  · rwa [hcode]
  · rwa [hcode]

/-- Of the findings of a refresh, those on references come from binding. -/
theorem withCode_refresh (m : Model) :
    m.refresh.2.withCode .unresolvedReference =
      m.entities.flatMap fun e => (m.bindings m.buildSymbols.1 e).2 := by
  have hbind : Findings.withCode (m.entities.flatMap fun e => (m.bindings m.buildSymbols.1 e).2)
      .unresolvedReference = m.entities.flatMap fun e => (m.bindings m.buildSymbols.1 e).2 := by
    refine List.filter_eq_self.mpr fun f hf => ?_
    obtain ⟨e, -, hf⟩ := List.mem_flatMap.mp hf
    exact decide_eq_true (code_of_mem_bindings hf)
  have hall := findings_refresh m
  rw [List.flatMap_map] at hall
  simp only [bindings_declared] at hall
  rw [hall, withCode_append, withCode_append, hbind,
    withCode_buildSymbols (by decide) (by decide),
    withCode_checkStructure_eq_nil (by decide) (by decide), List.nil_append, List.append_nil]

/-- The findings on one entity name its unbound references, in order. -/
theorem reports_bindings {m : Model} (hm : m.WellFormed) {id : EntityId} {e : NamedEntity}
    (he : m.entity? id = some e) :
    List.Forall₂ m.refresh.1.Reports (m.bindings m.buildSymbols.1 e).2
      (((refs (m.bindEntity m.buildSymbols.1 e).body).filter fun r => r.target.isNone).map
        fun r => (m.bindEntity m.buildSymbols.1 e, r)) := by
  obtain ⟨l, hl, hlibrary⟩ := hm.owner?_eq he
  rw [refs_bindEntity hm _ he hl, List.filter_map, List.map_map, bindings, hm.entity_id he, hl]
  rw [List.forall₂_map_left_iff, List.forall₂_map_right_iff]
  -- both sides go through the references that resolve to nothing
  refine List.forall₂_same.mpr fun r _ => ⟨l, hlibrary, rfl, rfl⟩

/-- The findings on references name the unbound ones, in order. -/
theorem reports_unbound {m : Model} (hm : m.WellFormed) :
    List.Forall₂ m.refresh.1.Reports (m.refresh.2.withCode .unresolvedReference)
      m.refresh.1.unbound := by
  rw [withCode_refresh, unbound, entities_refresh, List.flatMap_map]
  exact forall₂_flatMap fun e he => reports_bindings hm (hm.entity?_of_mem he)

/-! ## Removed libraries -/

/-- The entities of a library that was removed are not there at any later point. -/
theorem entity?_of_removed {past cs : List Change} {id : LibraryId} {l : Library}
    (hremoved : past ++ [.remove id] <+: cs) (hl : (run past).library? id = some l) {x : EntityId}
    (hx : x ∈ l.members) : (run cs).entity? x = none := by
  obtain ⟨e, he, -⟩ := (wellFormed_run past).member hl hx
  have hgone : (run (past ++ [.remove id])).entity? x = none := by
    rw [run_append]
    show ((run past).removeLibrary id).1.entity? x = none
    rw [entity?_removeLibrary hl, if_pos hx]
  exact (numbersOnce cs).entity_gone past _ ⟨_, rfl⟩ hremoved x e he hgone

/-- Binding is exact along every run. A bound reference leads to an entity that is
there and has its name; the findings of the refresh on references name the
unbound ones, one by one and in order; and no reference leads to an entity of a
library that was removed. -/
theorem binding_exact (cs : List Change) :
    let m := (run cs).refresh.1
    (∀ id e, m.entity? id = some e → ∀ r ∈ refs e.body, ∀ s, r.target = some s →
      (∃ e', m.entity? s.owner = some e') ∧ m.localName? s = some r.localName) ∧
    List.Forall₂ m.Reports ((run cs).refresh.2.withCode .unresolvedReference) m.unbound ∧
    (∀ past id l, past ++ [.remove id] <+: cs → (run past).library? id = some l →
      ∀ k e, m.entity? k = some e → ∀ r ∈ refs e.body, ∀ x ∈ l.members, r.entity? ≠ some x) := by
  intro m
  have hm := wellFormed_run cs
  refine ⟨fun id e he r hr s hs => live_of_target hm he hr hs, reports_unbound hm, ?_⟩
  intro past id l hremoved hl k e he r hr x hx heq
  obtain ⟨s, hs, rfl⟩ := Option.map_eq_some_iff.mp heq
  obtain ⟨⟨e', he'⟩, -⟩ := live_of_target hm he hr hs
  -- a refresh brings no entity back
  rw [entity?_refresh, entity?_of_removed hremoved hl hx] at he'
  cases he'

/-- A library that refers to a type of another one in its namespace, which is
removed after a refresh. -/
def orphanRun : List Change :=
  [.add (sampleLibrary "Codes" (some "urn:host") []) [sampleMember "Code" (.simpleType {})],
    .add (sampleLibrary "Orders" (some "urn:host") [])
      [sampleMember "Number" (.simpleType { base := some (.unbound "Code") }),
        sampleMember "Item" (.simpleType { base := some (.unbound "Number") })],
    .refresh, .remove ⟨0⟩]

/-- The reference to the removed type is unbound and reported, the other one is
bound. -/
theorem orphanRun_binding :
    let m := (run orphanRun).refresh.1
    (∃ e, m.entity? (Symbol.entity ⟨1⟩).owner = some e) ∧
      m.unbound.map (fun x => (x.1.id, x.2.name)) = [(⟨1⟩, "Code")] ∧
      ((run orphanRun).refresh.2.withCode .unresolvedReference).length = 1 ∧
      ∀ k e, m.entity? k = some e → ∀ r ∈ refs e.body, r.entity? ≠ some ⟨0⟩ := by
  intro m
  obtain ⟨hlive, hreports, hremoved⟩ := binding_exact orphanRun
  have hunbound : m.unbound.map (fun x => (x.1.id, x.2.name)) = [(⟨1⟩, "Code")] := by
    decide +kernel
  let item : NamedEntity :=
    { id := ⟨2⟩, library := ⟨1⟩, name := "Item", documentation := none
      body := .simpleType { base := some { name := "Number", target := some (.entity ⟨1⟩) } } }
  have hitem : m.entity? ⟨2⟩ = some item := by decide +kernel
  have hcodes : (run (orphanRun.take 3)).library? ⟨0⟩ =
      some { sampleLibrary "Codes" (some "urn:host") [] with id := ⟨0⟩, members := [⟨0⟩] } := by
    decide +kernel
  refine ⟨?_, hunbound, ?_, ?_⟩
  · exact (hlive ⟨2⟩ item hitem _ (List.mem_singleton.mpr rfl) (.entity ⟨1⟩) rfl).1
  · have hlength := congrArg List.length hunbound
    rw [List.length_map] at hlength
    exact hreports.length_eq.trans hlength
  · intro k e he r hr
    exact hremoved (orphanRun.take 3) ⟨0⟩ _ ⟨[], rfl⟩ hcodes k e he r hr ⟨0⟩
      (List.mem_singleton.mpr rfl)

/-! ## The final table -/

theorem isGhost_of_mem_ghostNames {m : Model} {x : String × String × Symbol}
    (h : x ∈ m.ghostNames) : x.2.2.isGhost = true := by
  obtain ⟨e, -, h⟩ := List.mem_flatMap.mp h
  obtain ⟨g, -, h⟩ := List.mem_flatMap.mp h
  obtain ⟨ns, -, rfl⟩ := List.mem_map.mp h
  rfl

/-- References are bound against the final table without its ghosts. -/
theorem lookup_buildSymbols {m : Model} (hm : m.WellFormed) (ns name : String) :
    m.buildSymbols.1.lookup ns name =
      (m.refresh.1.symbols.lookup ns name).filter fun s => !s.isGhost := by
  rw [lookup_refresh]
  cases hbuilt : m.buildSymbols.1.lookup ns name with
  | some s =>
    rw [Option.some_or, Option.filter_some, not_isGhost_of_lookup (built_buildSymbols hm) hbuilt]
    rfl
  | none =>
    rw [Option.none_or]
    split
    · rfl
    · -- whatever was added is a ghost
      cases hfind : m.indexed.ghostNames.find? fun x => x.1 = ns ∧ x.2.1 = name with
      | none => rfl
      | some x =>
        rw [Option.map_some, Option.filter_some,
          isGhost_of_mem_ghostNames (List.mem_of_find?_eq_some hfind)]
        rfl

/-- What a name stands for in a namespace, ghosts apart. -/
def plainLookup (m : Model) (ns name : String) : Option Symbol :=
  (m.symbols.lookup ns name).filter fun s => !s.isGhost

theorem plainLookup_refresh {m : Model} (hm : m.WellFormed) (ns name : String) :
    m.refresh.1.plainLookup ns name = m.buildSymbols.1.lookup ns name :=
  (lookup_buildSymbols hm ns name).symm

theorem prefixFor_refresh (m : Model) (ns : String) :
    m.refresh.1.symbols.prefixFor ns = m.buildSymbols.1.prefixFor ns := by
  obtain ⟨symbols, facets, htable, -⟩ := m.symbols_refresh
  rw [htable]
  rfl

theorem isAmbiguous_refresh (m : Model) (ns name : String) :
    m.refresh.1.symbols.isAmbiguous ns name = m.buildSymbols.1.isAmbiguous ns name := by
  obtain ⟨symbols, facets, htable, -⟩ := m.symbols_refresh
  rw [htable]
  rfl

theorem candidates_refresh (m : Model) (l : Library) (id : EntityId) (r : Reference) :
    m.refresh.1.candidates m.refresh.1.symbols l id r =
      m.refresh.1.candidates m.buildSymbols.1 l id r := by
  obtain ⟨symbols, facets, htable, -⟩ := m.symbols_refresh
  have hspaces : m.refresh.1.effectiveNamespaces m.refresh.1.symbols id =
      m.refresh.1.effectiveNamespaces m.buildSymbols.1 id :=
    m.refresh.1.effectiveNamespaces_congr (by rw [htable]) id
  unfold candidates
  rw [hspaces, htable]
  rfl

/-- A reference that the final table does not lead to a ghost resolves alike
without the ghosts. -/
theorem resolve_refresh {m : Model} (hm : m.WellFormed) {l : Library} {id : EntityId}
    {r : Reference}
    (h : ∀ s, m.refresh.1.resolve m.refresh.1.symbols l id r = some s → s.isGhost = false) :
    m.refresh.1.resolve m.buildSymbols.1 l id r =
      m.refresh.1.resolve m.refresh.1.symbols l id r := by
  have hfound : ∀ s, ((m.refresh.1.candidates m.buildSymbols.1 l id r).findSome? fun ns =>
      m.refresh.1.symbols.lookup ns r.localName) = some s → (!s.isGhost) = true := by
    intro s hs
    rw [h s (by rw [resolve, candidates_refresh, hs])]
    rfl
  rw [resolve, resolve, candidates_refresh]
  simp only [lookup_buildSymbols hm]
  rw [findSome?_filter hfound]

/-- After a refresh references are bound against the final table without its
ghosts. So a reference is bound as the final table says if and only if that is
not a ghost; and where an unbound reference has a name that can be looked up, it
is the name of a ghost. -/
theorem target_eq_resolve_iff (cs : List Change) :
    let m := run (cs ++ [.refresh])
    let t := (run cs).buildSymbols.1
    (∀ ns name, t.lookup ns name = (m.symbols.lookup ns name).filter fun s => !s.isGhost) ∧
    ∀ id e l, m.entity? id = some e → m.owner? id = some l → ∀ r ∈ refs e.body,
      r.target = m.resolve t l id r ∧
      (r.target = m.resolve m.symbols l id r ↔
        ∀ s, m.resolve m.symbols l id r = some s → s.isGhost = false) ∧
      (r.target = none → ∀ ns ∈ m.candidates m.symbols l id r, ∀ s,
        m.symbols.lookup ns r.localName = some s → s.isGhost = true) := by
  intro m t
  have hm := wellFormed_run cs
  have hrun : m = (run cs).refresh.1 := run_append cs [.refresh]
  rw [hrun]
  refine ⟨lookup_buildSymbols hm, ?_⟩
  intro id e l he hl r hr
  have htarget := target_refresh hm he hl hr
  refine ⟨htarget, ⟨?_, ?_⟩, ?_⟩
  · -- a target is never a ghost
    intro heq s hs
    rw [← heq, htarget] at hs
    exact (resolve_spec (wellFormed_refresh hm) (built_refresh hm) hs).2.2
  · intro h
    rw [htarget, resolve_refresh hm h]
  · intro hnone ns hns s hs
    rw [htarget, resolve] at hnone
    rw [candidates_refresh] at hns
    -- nothing was found in the table without ghosts, there neither
    have hmiss : t.lookup ns r.localName = none := by
      split at hnone
      · cases hnone
      · next hfind => exact List.findSome?_eq_none_iff.mp hfind ns hns
    rw [lookup_buildSymbols hm, hs, Option.filter_some] at hmiss
    by_contra hghost
    rw [Bool.eq_false_iff.mpr hghost] at hmiss
    cases hmiss

/-- In the sample the reference of the first type is bound as the final table
says. -/
theorem sampleRun_bound :
    let m := run (sampleRun ++ [.refresh])
    let host := { sampleLibrary "Host" (some "urn:host") ["Left.otm", "Right.otm"] with
      id := ⟨0⟩, members := [⟨0⟩, ⟨1⟩, ⟨2⟩, ⟨3⟩] }
    m.owner? ⟨0⟩ = some host ∧
      some (.entity ⟨5⟩) = m.resolve m.symbols host ⟨0⟩ ⟨"Alone", some (.entity ⟨5⟩)⟩ := by
  intro m host
  let native : NamedEntity :=
    { id := ⟨0⟩, library := ⟨0⟩, name := "Native", documentation := none
      body := .simpleType { base := some ⟨"Alone", some (.entity ⟨5⟩)⟩ } }
  have he : m.entity? ⟨0⟩ = some native := by decide +kernel
  have hl : m.owner? ⟨0⟩ = some host := by decide +kernel
  have hr : (⟨"Alone", some (.entity ⟨5⟩)⟩ : Reference) ∈ refs native.body := by decide
  have hresolve : (m.resolve m.symbols host ⟨0⟩ ⟨"Alone", some (.entity ⟨5⟩)⟩).all
      (fun s => !s.isGhost) = true := by
    decide +kernel
  refine ⟨hl, ((target_eq_resolve_iff sampleRun).2 ⟨0⟩ native host he hl _ hr).2.1.mpr ?_⟩
  intro s hs
  rw [hs] at hresolve
  simpa using hresolve

/-- A type based on the facet that an object inherits. -/
def ghostRun : List Change :=
  [.add (sampleLibrary "Host" (some "urn:host") [])
      [sampleMember "Base" (.choiceObject default),
        sampleMember "" (.contextualFacet
          { facetKind := .choice, facetName := "Red", owner := .unbound "Base", context := none
            content := default }),
        sampleMember "Derived" (.choiceObject { (default : ChoiceObject) with
          extension := some (.unbound "Base") }),
        sampleMember "Shade" (.simpleType { base := some (.unbound "Derived_Choice_Red") })]]

/-- The reference is reported as standing for nothing, although the table of the
refreshed model has its name. -/
theorem ghostRun_unbound :
    let m := run (ghostRun ++ [.refresh])
    let r := Reference.unbound "Derived_Choice_Red"
    m.unbound.map (fun x => (x.1.id, x.2)) = [(⟨3⟩, r)] ∧
      (∃ l, m.owner? ⟨3⟩ = some l ∧ "urn:host" ∈ m.candidates m.symbols l ⟨3⟩ r ∧
        m.resolve m.symbols l ⟨3⟩ r = some (.ghost ⟨2⟩ ⟨1⟩)) ∧
      m.symbols.lookup "urn:host" "Derived_Choice_Red" = some (.ghost ⟨2⟩ ⟨1⟩) ∧
      ((run ghostRun).refresh.2.withCode .unresolvedReference).map Finding.args =
        [["Derived_Choice_Red"]] := by
  refine ⟨by decide +kernel, ?_, by decide +kernel, by decide +kernel⟩
  exact ⟨{ sampleLibrary "Host" (some "urn:host") [] with
    id := ⟨0⟩, members := [⟨0⟩, ⟨1⟩, ⟨2⟩, ⟨3⟩] }, by decide +kernel, by decide +kernel,
    by decide +kernel⟩

end Model

end TravelModel
