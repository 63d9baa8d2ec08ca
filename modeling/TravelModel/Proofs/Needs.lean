import TravelModel.Generation.Context
import TravelModel.Proofs.Binding
import TravelModel.Proofs.RootScope

/-!
# TravelModel — what generated content needs

The content written for an entity is not all its own: it is inherited along the
chain of supertypes, taken from the owner of a contextual facet, or from a
contextual facet that a supertype has. Wherever a reference in it comes from, the
entity reaches the place along dependencies, and so reaches what the reference
is bound to.

Main results:

* `settled_run` — after a refresh a bound reference leads to a name of an entity
  that is there, and that is seen outside of its library or is in the same one.
* `reaches_of_mem_extensionChain`, `reaches_of_mem_ghostFacets` — the chain of
  supertypes and the inherited facets are along dependencies.
* `needs_of_facetContent`, `needs_of_contextualContent` — the references in
  flattened content are needed by the entity it is written for.
-/

namespace TravelModel

/-! ## References of the parts of a body -/

section

variable {α β : Type} [References α] [References β] {r : Reference}

theorem mem_refs_pair {p : α × β} : r ∈ refs p ↔ r ∈ refs p.1 ∨ r ∈ refs p.2 :=
  List.mem_append

theorem mem_refs_list {as : List α} : r ∈ refs as ↔ ∃ a ∈ as, r ∈ refs a := by
  induction as with
  | nil => simp [refs, References.refsAll]
  | cons a rest ih =>
    rw [References.refsAll_cons, List.mem_append, ih, List.exists_mem_cons_iff]

theorem mem_refs_option {a : Option α} : r ∈ refs a ↔ ∃ b, a = some b ∧ r ∈ refs b := by
  cases a with
  | none => simp [refs]
  | some b => simp [refs]

theorem mem_refs_reference {r' : Reference} : r ∈ refs r' ↔ r = r' :=
  List.mem_singleton

end

namespace FacetContent

theorem mem_refs {content : FacetContent} {r : Reference} :
    r ∈ refs content ↔
      (∃ a ∈ content.attributes, r = a.type) ∨ ∃ e ∈ content.elements, r = e.type := by
  show r ∈ refs (content.attributes, content.elements) ↔ _
  rw [mem_refs_pair, mem_refs_list, mem_refs_list]
  exact or_congr (exists_congr fun a => and_congr_right fun _ => mem_refs_reference)
    (exists_congr fun e => and_congr_right fun _ => mem_refs_reference)

theorem mem_refs_append {a b : FacetContent} {r : Reference} :
    r ∈ refs (a.append b) ↔ r ∈ refs a ∨ r ∈ refs b := by
  simp only [mem_refs, append, List.mem_append, or_and_right, exists_or]
  exact or_or_or_comm

theorem mem_refs_concat {cs : List FacetContent} {r : Reference} :
    r ∈ refs (concat cs) ↔ ∃ c ∈ cs, r ∈ refs c := by
  have hfold : ∀ start : FacetContent, r ∈ refs (cs.foldl append start) ↔
      r ∈ refs start ∨ ∃ c ∈ cs, r ∈ refs c := by
    induction cs with
    | nil => simp
    | cons c rest ih =>
      intro start
      rw [List.foldl_cons, ih, mem_refs_append, List.exists_mem_cons_iff, or_assoc]
  rw [concat, hfold]
  simp [mem_refs]

end FacetContent

namespace EntityBody

theorem mem_refs_of_extension? {b : EntityBody} {r : Reference} (h : b.extension? = some r) :
    r ∈ refs b := by
  cases b with
  | coreObject o =>
    exact mem_refs_pair.mpr (Or.inl (mem_refs_option.mpr ⟨r, h, mem_refs_reference.mpr rfl⟩))
  | businessObject o =>
    exact mem_refs_pair.mpr (Or.inl (mem_refs_option.mpr ⟨r, h, mem_refs_reference.mpr rfl⟩))
  | choiceObject o =>
    exact mem_refs_pair.mpr (Or.inl (mem_refs_option.mpr ⟨r, h, mem_refs_reference.mpr rfl⟩))
  | enumeration x => exact mem_refs_option.mpr ⟨r, h, mem_refs_reference.mpr rfl⟩
  | _ => cases h

theorem mem_refs_of_fixedFacets {b : EntityBody} {p : FacetKind × FacetContent}
    (hp : p ∈ b.fixedFacets) {r : Reference} (hr : r ∈ refs p.2) : r ∈ refs b := by
  cases b with
  | coreObject o =>
    simp only [fixedFacets, List.mem_cons, List.not_mem_nil, or_false] at hp
    show r ∈ refs (o.extension, o.simpleType, o.summary, o.detail)
    rw [mem_refs_pair, mem_refs_pair, mem_refs_pair]
    rcases hp with rfl | rfl
    · exact Or.inr (Or.inr (Or.inl hr))
    · exact Or.inr (Or.inr (Or.inr hr))
  | businessObject o =>
    simp only [fixedFacets, List.mem_cons, List.not_mem_nil, or_false] at hp
    show r ∈ refs (o.extension, o.id, o.summary, o.detail)
    rw [mem_refs_pair, mem_refs_pair, mem_refs_pair]
    rcases hp with rfl | rfl | rfl
    · exact Or.inr (Or.inl hr)
    · exact Or.inr (Or.inr (Or.inl hr))
    · exact Or.inr (Or.inr (Or.inr hr))
  | choiceObject o =>
    simp only [fixedFacets, List.mem_cons, List.not_mem_nil, or_false] at hp
    show r ∈ refs (o.extension, o.shared)
    rw [mem_refs_pair]
    rw [hp] at hr
    exact Or.inr hr
  | _ => exact absurd hp List.not_mem_nil

end EntityBody

namespace Model

/-! ## Refreshed models -/

/-- A model whose references are bound: what one is bound to is a name of an
entity that is there, and that entity is seen in some namespace or belongs to the
same library. -/
structure Settled (m : Model) : Prop where
  wellFormed : m.WellFormed
  target : ∀ {id e}, m.entity? id = some e → ∀ {r}, r ∈ refs e.body → ∀ {s}, r.target = some s →
    ∃ o, m.entity? s.owner = some o ∧ (∃ name, (name, s) ∈ o.symbolNames) ∧
      (m.effectiveNamespaces m.symbols o.id ≠ [] ∨ o.library = e.library)

theorem hosts_refresh (m : Model) : m.refresh.1.symbols.hosts = m.buildSymbols.1.hosts := by
  obtain ⟨symbols, facets, heq, -⟩ := symbols_refresh m
  rw [heq]

theorem settled_refresh {m : Model} (hm : m.WellFormed) : m.refresh.1.Settled := by
  have hm' := wellFormed_refresh hm
  have ht := built_refresh hm
  refine ⟨hm', ?_⟩
  intro id e he r hr s hs
  obtain ⟨l, hl, hlibrary⟩ := hm'.owner?_eq he
  rw [target_refresh hm he hl hr, resolve] at hs
  split at hs
  · next s' hfound =>
    -- a name of some namespace; the entity that brings it is seen there
    obtain ⟨ns, -, hlookup⟩ := List.exists_of_findSome?_eq_some hfound
    rw [Option.some.inj hs] at hlookup
    have hns := (lookup_built_spec hm' ht hlookup).2.1
    rw [ht.lookup] at hlookup
    obtain ⟨k, -, hbrought⟩ := provided_of_merged hlookup
    obtain ⟨o, ho, hname⟩ := mem_of_contributed? hbrought
    have hlive := (hm'.mem_libraryEntities_iff.mp ho).1
    have howner := (localName?_of_symbolNames hlive hname).1
    refine ⟨o, howner ▸ hlive, ⟨_, hname⟩, Or.inl ?_⟩
    rw [effectiveNamespaces_congr _ (hosts_refresh m), ← howner]
    exact List.ne_nil_of_mem hns
  · split at hs
    · -- a member of the same library
      obtain ⟨o, hfind, rfl⟩ := Option.map_eq_some_iff.mp hs
      obtain ⟨hlive, hsame⟩ := hm'.mem_libraryEntities_iff.mp (List.mem_of_find?_eq_some hfind)
      refine ⟨o, hlive, ⟨o.name, List.mem_cons_self⟩, Or.inr ?_⟩
      rw [hsame, hm'.library_id hlibrary]
    · cases hs

theorem settled_run (cs : List Change) : (run (cs ++ [.refresh])).Settled := by
  rw [run_append]
  exact settled_refresh (wellFormed_run cs)

/-! ## Along dependencies -/

section

variable {m : Model}

theorem reaches_of_mem_dependencies {id x : EntityId}
    (h : x ≠ id → x ∈ m.dependencies id) : m.Reaches id x := by
  by_cases hx : x = id
  · rw [hx]
    exact .refl
  · exact .single (h hx)

/-- An entity reaches what its references are bound to. -/
theorem reaches_of_target {id : EntityId} {e : NamedEntity} (he : m.entity? id = some e)
    {r : Reference} (hr : r ∈ refs e.body) {s : Symbol} (hs : r.target = some s) :
    m.Reaches id s.owner := by
  refine reaches_of_mem_dependencies fun hne => ?_
  rw [dependencies, he]
  refine List.mem_filter.mpr ⟨List.mem_append_left _ (List.mem_flatMap.mpr ⟨s, ?_, ?_⟩), ?_⟩
  · exact List.mem_filterMap.mpr ⟨r, hr, hs⟩
  · cases s <;> simp [symbolEntities, Symbol.owner]
  · simpa using hne

theorem reaches_of_supertype? {id up : EntityId} (h : m.supertype? id = some up) :
    m.Reaches id up := by
  obtain ⟨r, hr, hup⟩ := Option.bind_eq_some_iff.mp h
  obtain ⟨e, he, hextension⟩ := Option.bind_eq_some_iff.mp hr
  obtain ⟨s, hs, rfl⟩ := Option.map_eq_some_iff.mp hup
  exact reaches_of_target he (EntityBody.mem_refs_of_extension? hextension) hs

/-- An entity reaches its supertypes. -/
theorem reaches_of_mem_extensionChain {id x : EntityId} (h : x ∈ m.extensionChain id) :
    m.Reaches id x := by
  -- neither the budget nor what was met matters: each step is to a supertype
  have hchain : ∀ (budget : Nat) (met : List EntityId) (current : EntityId),
      x ∈ m.chainFrom budget met current → m.Reaches current x := by
    intro budget
    induction budget with
    | zero => exact fun met current hx => absurd hx List.not_mem_nil
    | succ budget ih =>
      intro met current hx
      rw [chainFrom] at hx
      split at hx
      · exact absurd hx List.not_mem_nil
      · next up hup =>
        split at hx
        · exact absurd hx List.not_mem_nil
        · rcases List.mem_cons.mp hx with rfl | hx
          · exact reaches_of_supertype? hup
          · exact (reaches_of_supertype? hup).trans (ih _ _ hx)
  exact hchain _ _ _ h

theorem isObject_of_mem_ghostFacets {id : EntityId} {g : GhostFacet} (h : g ∈ m.ghostFacets id) :
    ∃ e, m.entity? id = some e ∧ e.kind.isObject = true := by
  rw [ghostFacets] at h
  split at h
  · exact absurd h List.not_mem_nil
  · next e he =>
    split at h
    · next hkind => exact ⟨e, he, hkind⟩
    · exact absurd h List.not_mem_nil

/-- An object reaches the contextual facets it inherits. -/
theorem reaches_of_mem_ghostFacets {id : EntityId} {g : GhostFacet} (h : g ∈ m.ghostFacets id) :
    m.Reaches id g.source := by
  obtain ⟨e, he, hkind⟩ := isObject_of_mem_ghostFacets h
  refine reaches_of_mem_dependencies fun hne => ?_
  rw [dependencies, he]
  dsimp only
  rw [if_pos hkind]
  refine List.mem_filter.mpr ⟨List.mem_append_right _ (List.mem_append_right _ ?_), by simpa using hne⟩
  exact List.mem_map_of_mem h

/-- A reference is needed by an entity: one that it reaches declares it. -/
def Needs (m : Model) (id : EntityId) (r : Reference) : Prop :=
  ∃ x e, m.Reaches id x ∧ m.entity? x = some e ∧ r ∈ refs e.body

theorem needs_of_mem {id : EntityId} {e : NamedEntity} (he : m.entity? id = some e)
    {r : Reference} (hr : r ∈ refs e.body) : m.Needs id r :=
  ⟨id, e, .refl, he, hr⟩

theorem Reaches.needs {id x : EntityId} {r : Reference} (h : m.Reaches id x) (hx : m.Needs x r) :
    m.Needs id r := by
  obtain ⟨y, e, hy, he, hr⟩ := hx
  exact ⟨y, e, Relation.ReflTransGen.trans h hy, he, hr⟩

/-- What a needed reference is bound to is there and reached. -/
theorem Needs.target (hm : m.Settled) {id : EntityId} {r : Reference} (h : m.Needs id r)
    {s : Symbol} (hs : r.target = some s) :
    ∃ o, m.entity? s.owner = some o ∧ s.owner = o.id ∧ m.Reaches id o.id ∧
      ∃ name, (name, s) ∈ o.symbolNames := by
  obtain ⟨x, e, hx, he, hr⟩ := h
  obtain ⟨o, ho, hname, -⟩ := hm.target he hr hs
  have hid := hm.wellFormed.entity_id ho
  refine ⟨o, ho, hid.symm, ?_, hname⟩
  rw [hid]
  exact Relation.ReflTransGen.trans hx (reaches_of_target he hr hs)

end

end Model

/-! ## Flattened content -/

namespace GenerationContext

open Model

variable {c : GenerationContext}

theorem mem_refs_of_ownContents {kind : FacetKind} {id : EntityId} {content : FacetContent}
    (h : content ∈ c.ownContents kind id) {r : Reference} (hr : r ∈ refs content) :
    ∃ e, c.model.entity? id = some e ∧ r ∈ refs e.body := by
  rw [ownContents] at h
  split at h
  · exact absurd h List.not_mem_nil
  · next e he =>
    obtain ⟨p, hp, rfl⟩ := List.mem_map.mp h
    exact ⟨e, he, EntityBody.mem_refs_of_fixedFacets (List.mem_filter.mp hp).1 hr⟩

/-- The references in the content of a facet are needed by its entity. -/
theorem needs_of_facetContent {id : EntityId} {kind : FacetKind} {r : Reference}
    (h : r ∈ refs (c.facetContent id kind)) : c.model.Needs id r := by
  obtain ⟨content, hcontent, hr⟩ := FacetContent.mem_refs_concat.mp h
  obtain ⟨x, hx, hown⟩ := List.mem_flatMap.mp hcontent
  obtain ⟨e, he, hr⟩ := mem_refs_of_ownContents hown hr
  have hreach : c.model.Reaches id x := by
    rcases List.mem_append.mp hx with hx | hx
    · exact reaches_of_mem_extensionChain (List.mem_reverse.mp hx)
    · rw [List.mem_singleton.mp hx]
      exact .refl
  exact hreach.needs (needs_of_mem he hr)

/-- The references in the content of a contextual facet are its own or needed by
the owner it is seen on. -/
theorem needs_of_contextualContent {owner : Option NamedEntity} {f : ContextualFacet}
    {r : Reference} (h : r ∈ refs (c.contextualContent owner f)) :
    (∃ o, owner = some o ∧ c.model.Needs o.id r) ∨ r ∈ refs f.content := by
  cases owner with
  | none =>
    rcases FacetContent.mem_refs_append.mp h with h | h
    · simp [FacetContent.mem_refs] at h
    · exact Or.inr h
  | some o =>
    rcases FacetContent.mem_refs_append.mp h with h | h
    · -- inherited from the default facet of the owner
      dsimp only at h
      split at h
      · exact Or.inl ⟨o, rfl, needs_of_facetContent h⟩
      · simp [FacetContent.mem_refs] at h
    · exact Or.inr h

/-- The references in an inherited facet are needed by the object it is written
for. -/
theorem needs_of_ghostFacet {e source : NamedEntity} {g : GhostFacet} {f : ContextualFacet}
    (hg : g ∈ c.model.ghostFacets e.id) (hsource : c.model.entity? g.source = some source)
    (hbody : source.body = .contextualFacet f) {r : Reference}
    (hr : r ∈ refs (c.contextualContent (some e) f)) : c.model.Needs e.id r := by
  rcases needs_of_contextualContent hr with ⟨o, ho, hneeds⟩ | hown
  · rw [Option.some.inj ho]
    exact hneeds
  · refine (reaches_of_mem_ghostFacets hg).needs (needs_of_mem hsource ?_)
    rw [hbody]
    exact mem_refs_pair.mpr (Or.inr hown)

/-- The references in a contextual facet are needed by it. -/
theorem needs_of_contextualFacet (hm : c.model.WellFormed) {e : NamedEntity}
    {f : ContextualFacet} (he : c.model.entity? e.id = some e)
    (hbody : e.body = .contextualFacet f) {r : Reference}
    (hr : r ∈ refs (c.contextualContent (f.owner.entity?.bind c.model.entity?) f)) :
    c.model.Needs e.id r := by
  rcases needs_of_contextualContent hr with ⟨o, ho, hneeds⟩ | hown
  · -- the owner is what the facet refers to first
    obtain ⟨x, hx, ho⟩ := Option.bind_eq_some_iff.mp ho
    obtain ⟨s, hs, rfl⟩ := Option.map_eq_some_iff.mp hx
    have howner : f.owner ∈ refs e.body := by
      rw [hbody]
      exact mem_refs_pair.mpr (Or.inl (mem_refs_reference.mpr rfl))
    have hreach := reaches_of_target he howner hs
    rw [← hm.entity_id ho] at hreach
    exact hreach.needs hneeds
  · refine needs_of_mem he ?_
    rw [hbody]
    exact mem_refs_pair.mpr (Or.inr hown)

end GenerationContext

end TravelModel
