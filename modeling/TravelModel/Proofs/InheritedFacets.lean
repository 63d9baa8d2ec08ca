import TravelModel.Proofs.ExtensionChain

/-!
# TravelModel — inherited facets

An object sees the contextual facets of its supertypes unless it has one of the
same kind and name itself, or a nearer supertype has. The facets of the chain
are looked through from the nearest supertype on, with the keys seen so far. So
an inherited facet is the first of its key, and what it hides is determined by
what is attached where.

Main results:

* `facetsOf_refresh` — after a refresh the facets of an owner are the entities
  attached to it, in order.
* `first_of_mem_unseenFacets`, `exists_mem_unseenFacets_iff`,
  `nodup_keys_unseenFacets`, `sources_unseenFacets_sublist` — of some facets
  those are kept whose key is new, the first of each key, in order.
* `inherited_facets_exact` — the inherited facets of an object, for refreshed
  models.
-/

namespace TravelModel

/-! ## Attached facets -/

/-- What a contextual facet is attached to. -/
def NamedEntity.attachedTo? (e : NamedEntity) : Option EntityId :=
  match e.body with
  | .contextualFacet f => f.owner.entity?
  | _ => none

/-- Kind and name of an inherited facet. -/
def GhostFacet.key (g : GhostFacet) : ContextualKind × String :=
  (g.kind, g.facetName)

namespace Model

/-- A contextual facet with a key is attached to an owner: the owner it declares is
bound to a symbol of that one. -/
def Attached (m : Model) (facet owner : EntityId) (key : ContextualKind × String) : Prop :=
  ∃ e f, m.entity? facet = some e ∧ e.body = .contextualFacet f ∧ f.owner.entity? = some owner ∧
    (f.facetKind, f.facetName) = key

/-- The facets of an owner in an index. -/
def indexedUnder (index : List (EntityId × List EntityId)) (owner : EntityId) : List EntityId :=
  ((index.find? fun x => x.1 = owner).map Prod.snd).getD []

/-- Attaching adds at the end of the owner's facets and nowhere else. -/
theorem indexedUnder_attach (index : List (EntityId × List EntityId)) (owner facet o : EntityId) :
    indexedUnder (attach index owner facet) o =
      indexedUnder index o ++ if owner = o then [facet] else [] := by
  induction index with
  | nil =>
    by_cases ho : owner = o
    · simp [attach, indexedUnder, ho]
    · simp [attach, indexedUnder, ho]
  | cons x rest ih =>
    obtain ⟨x, facets⟩ := x
    unfold indexedUnder at ih ⊢
    rw [attach]
    by_cases hx : x = owner
    · -- the owner has an entry, so the rest stays as it is
      subst hx
      by_cases ho : x = o <;> simp [ho]
    · rw [if_neg hx]
      by_cases ho : x = o
      · have hne : owner ≠ o := fun h => hx (ho.trans h.symm)
        simp [ho, hne]
      · simpa [List.find?_cons, ho] using ih

/-- An index with one more entity. -/
def indexEntity (index : List (EntityId × List EntityId)) (e : NamedEntity) :
    List (EntityId × List EntityId) :=
  match e.attachedTo? with
  | some o => attach index o e.id
  | none => index

theorem facetIndex_eq (m : Model) : m.facetIndex = m.entities.foldl indexEntity [] := by
  have hstep : ∀ index e, indexEntity index e =
      match e.body with
      | .contextualFacet f =>
        match f.owner.entity? with
        | some o => attach index o e.id
        | none => index
      | _ => index := by
    intro index e
    rw [indexEntity, NamedEntity.attachedTo?]
    cases e.body <;> rfl
  rw [facetIndex]
  exact congrArg (fun step => m.entities.foldl step []) (funext fun _ => funext fun _ =>
    (hstep _ _).symm)

/-- Indexing entities one after another lists those attached to each owner. -/
theorem indexedUnder_foldl (es : List NamedEntity) (index : List (EntityId × List EntityId))
    (o : EntityId) :
    indexedUnder (es.foldl indexEntity index) o =
      indexedUnder index o ++ (es.filter fun e => e.attachedTo? = some o).map NamedEntity.id := by
  induction es generalizing index with
  | nil => simp
  | cons e rest ih =>
    rw [List.foldl_cons, ih, indexEntity]
    cases hattached : e.attachedTo? with
    | none =>
      -- an entity that is attached to nothing leaves the index
      rw [List.filter_cons_of_neg (by simp [hattached])]
    | some owner =>
      dsimp only
      rw [indexedUnder_attach, List.append_assoc]
      by_cases ho : owner = o
      · rw [List.filter_cons_of_pos (by simp [hattached, ho]), if_pos ho]
        rfl
      · rw [List.filter_cons_of_neg (by simp [hattached, ho]), if_neg ho]
        rfl

/-- After a refresh the facets of an owner are those attached to it, in the order of
the entities. -/
theorem facetsOf_refresh (m : Model) (o : EntityId) :
    m.refresh.1.symbols.facetsOf o =
      (m.refresh.1.entities.filter fun e => e.attachedTo? = some o).map NamedEntity.id := by
  -- naming ghosts keeps the index, which was made of the same entities
  obtain ⟨symbols, htable, -⟩ := enterDerived_frame m.indexed.symbols m.indexed.ghostNames
  have hfacets : m.refresh.1.symbols.facets = m.indexed.facetIndex := by
    rw [refresh_eq]
    show (enterDerived _ _).facets = _
    rw [htable]
    rfl
  show indexedUnder m.refresh.1.symbols.facets o = _
  rw [hfacets, facetIndex_eq, indexedUnder_foldl]
  rfl

theorem facetKey?_eq_some_iff {m : Model} {id : EntityId} {key : ContextualKind × String} :
    m.facetKey? id = some key ↔
      ∃ e f, m.entity? id = some e ∧ e.body = .contextualFacet f ∧
        (f.facetKind, f.facetName) = key := by
  rw [facetKey?]
  constructor
  · intro h
    split at h
    · next f hbody =>
      obtain ⟨e, he, hbody⟩ := Option.map_eq_some_iff.mp hbody
      exact ⟨e, f, he, hbody, Option.some.inj h⟩
    · cases h
  · rintro ⟨e, f, he, hbody, rfl⟩
    rw [he, Option.map_some, hbody]

/-- A model whose table lists the facets of each owner. -/
def FacetsListed (m : Model) : Prop :=
  ∀ o, m.symbols.facetsOf o =
    (m.entities.filter fun e => e.attachedTo? = some o).map NamedEntity.id

theorem facetsListed_run (cs : List Change) : (run (cs ++ [.refresh])).FacetsListed := by
  rw [run_append]
  exact facetsOf_refresh (run cs)

section

variable {m : Model}

/-- The facets of an owner with a key are those attached to it. -/
theorem attached_iff (hm : m.WellFormed) (hlisted : m.FacetsListed) {facet o : EntityId}
    {key : ContextualKind × String} :
    m.Attached facet o key ↔ facet ∈ m.symbols.facetsOf o ∧ m.facetKey? facet = some key := by
  rw [hlisted o, List.mem_map, facetKey?_eq_some_iff]
  constructor
  · rintro ⟨e, f, he, hbody, howner, hkey⟩
    refine ⟨⟨e, List.mem_filter.mpr ⟨mem_entities.mpr ⟨facet, he⟩, ?_⟩, hm.entity_id he⟩,
      e, f, he, hbody, hkey⟩
    rw [NamedEntity.attachedTo?, hbody]
    exact decide_eq_true howner
  · rintro ⟨⟨e, hmem, rfl⟩, e', f, he', hbody, hkey⟩
    obtain ⟨he, howner⟩ := List.mem_filter.mp hmem
    rw [hm.entity?_of_mem he] at he'
    obtain rfl := Option.some.inj he'
    rw [NamedEntity.attachedTo?, hbody] at howner
    exact ⟨e, f, hm.entity?_of_mem he, hbody, of_decide_eq_true howner, hkey⟩

/-- Each facet that is listed has a key. -/
theorem exists_attached_of_mem (hm : m.WellFormed) (hlisted : m.FacetsListed)
    {facet o : EntityId} (h : facet ∈ m.symbols.facetsOf o) : ∃ key, m.Attached facet o key := by
  rw [hlisted o] at h
  obtain ⟨e, hmem, rfl⟩ := List.mem_map.mp h
  obtain ⟨he, howner⟩ := List.mem_filter.mp hmem
  have howner := of_decide_eq_true howner
  unfold NamedEntity.attachedTo? at howner
  split at howner
  · next f hbody => exact ⟨_, e, f, hm.entity?_of_mem he, hbody, howner, rfl⟩
  · cases howner

/-- A facet is attached to one owner. -/
theorem Attached.owner_unique {facet o o' : EntityId} {key key' : ContextualKind × String}
    (h : m.Attached facet o key) (h' : m.Attached facet o' key') : o = o' := by
  obtain ⟨e, f, he, hbody, howner, -⟩ := h
  obtain ⟨e', f', he', hbody', howner', -⟩ := h'
  rw [he] at he'
  rw [← Option.some.inj he', hbody] at hbody'
  rw [← EntityBody.contextualFacet.inj hbody', howner] at howner'
  exact Option.some.inj howner'

/-- The facets of an owner come in the order of their numbers. -/
theorem pairwise_facetsOf (hm : m.WellFormed) (hlisted : m.FacetsListed) (o : EntityId) :
    (m.symbols.facetsOf o).Pairwise fun f f' => f.index < f'.index := by
  have hentities : m.entities.Pairwise fun e e' => e.id.index < e'.id.index := by
    refine pairwise_slots (fun e => e.id.index) m.entitySlots.toList 0 fun i e he => ?_
    rw [Array.getElem?_toList] at he
    have hid : e.id = ⟨i⟩ := hm.entity_id he
    rw [hid, Nat.zero_add]
  rw [hlisted o, List.pairwise_map]
  exact hentities.sublist List.filter_sublist

end

/-! ## Keys that were not seen -/

section

variable {m : Model} {owner : NamedEntity}

/-- A facet that is kept is the first of its key, and the key was not seen. -/
theorem first_of_mem_unseenFacets {sources : List EntityId} {seen : List (ContextualKind × String)}
    {g : GhostFacet} (hg : g ∈ m.unseenFacets owner sources seen) :
    g.key ∉ seen ∧ ∃ before after, sources = before ++ g.source :: after ∧
      ∀ s ∈ before, m.facetKey? s ≠ some g.key := by
  fun_induction unseenFacets m owner sources seen with
  | case1 => exact absurd hg List.not_mem_nil
  | case2 source rest seen hkey ih =>
    obtain ⟨hnew, before, after, rfl, hfirst⟩ := ih hg
    refine ⟨hnew, source :: before, after, rfl, List.forall_mem_cons.mpr ⟨?_, hfirst⟩⟩
    rw [hkey]
    exact (Option.some_ne_none _).symm
  | case3 source rest seen key hkey hseen ih =>
    obtain ⟨hnew, before, after, rfl, hfirst⟩ := ih hg
    refine ⟨hnew, source :: before, after, rfl, List.forall_mem_cons.mpr ⟨?_, hfirst⟩⟩
    -- a key that was seen is not that of a facet kept later
    rw [hkey]
    intro heq
    rw [List.contains_iff_mem, Option.some.inj heq] at hseen
    exact hnew hseen
  | case4 source rest seen key hkey hseen ih =>
    rcases List.mem_cons.mp hg with rfl | hg
    · rw [List.contains_iff_mem] at hseen
      exact ⟨hseen, [], rest, rfl, fun s hs => absurd hs List.not_mem_nil⟩
    · obtain ⟨hnew, before, after, rfl, hfirst⟩ := ih hg
      rw [List.mem_cons, not_or] at hnew
      refine ⟨hnew.2, source :: before, after, rfl, List.forall_mem_cons.mpr ⟨?_, hfirst⟩⟩
      rw [hkey]
      exact fun heq => hnew.1 (Option.some.inj heq).symm

/-- A key is kept if and only if a facet has it and it was not seen. -/
theorem exists_mem_unseenFacets_iff {sources : List EntityId}
    {seen : List (ContextualKind × String)} {key : ContextualKind × String} :
    (∃ g ∈ m.unseenFacets owner sources seen, g.key = key) ↔
      (∃ s ∈ sources, m.facetKey? s = some key) ∧ key ∉ seen := by
  fun_induction unseenFacets m owner sources seen with
  | case1 => simp
  | case2 source rest seen hkey ih => simp [ih, hkey]
  | case3 source rest seen key' hkey hseen ih =>
    rw [List.contains_iff_mem] at hseen
    rw [ih, List.exists_mem_cons_iff, hkey, Option.some.injEq]
    refine and_congr_left fun hnew => ⟨Or.inr, ?_⟩
    rintro (rfl | h)
    · exact absurd hseen hnew
    · exact h
  | case4 source rest seen key' hkey hseen ih =>
    rw [List.contains_iff_mem] at hseen
    rw [List.exists_mem_cons_iff, List.exists_mem_cons_iff, ih, hkey, Option.some.injEq,
      List.mem_cons, not_or]
    show key' = key ∨ _ ↔ _
    by_cases heq : key' = key
    · rw [← heq]
      simp [hseen]
    · simp [heq, Ne.symm heq]

/-- No key is kept twice. -/
theorem nodup_keys_unseenFacets (m : Model) (owner : NamedEntity) (sources : List EntityId)
    (seen : List (ContextualKind × String)) :
    ((m.unseenFacets owner sources seen).map GhostFacet.key).Nodup := by
  fun_induction unseenFacets m owner sources seen with
  | case1 => exact List.nodup_nil
  | case2 source rest seen hkey ih => exact ih
  | case3 source rest seen key hkey hseen ih => exact ih
  | case4 source rest seen key hkey hseen ih =>
    refine List.nodup_cons.mpr ⟨fun hmem => ?_, ih⟩
    -- what is kept later is kept with this key among the seen ones
    obtain ⟨g, hg, heq⟩ := List.mem_map.mp hmem
    refine (first_of_mem_unseenFacets hg).1 ?_
    rw [heq]
    exact List.mem_cons_self

/-- Facets are kept in their order. -/
theorem sources_unseenFacets_sublist (m : Model) (owner : NamedEntity) (sources : List EntityId)
    (seen : List (ContextualKind × String)) :
    ((m.unseenFacets owner sources seen).map GhostFacet.source).Sublist sources := by
  fun_induction unseenFacets m owner sources seen with
  | case1 => exact List.nil_sublist _
  | case2 source rest seen hkey ih => exact ih.cons source
  | case3 source rest seen key hkey hseen ih => exact ih.cons source
  | case4 source rest seen key hkey hseen ih => exact ih.cons_cons source

end

/-! ## The facets of the chain -/

theorem ghostFacets_eq {m : Model} {o : EntityId} {e : NamedEntity} (he : m.entity? o = some e)
    (hobject : e.kind.isObject = true) :
    m.ghostFacets o =
      m.unseenFacets e ((m.extensionChain o).flatMap m.symbols.facetsOf)
        ((m.symbols.facetsOf o).filterMap m.facetKey?) := by
  rw [ghostFacets, he]
  exact if_pos hobject

section

variable {m : Model} {o : EntityId} {e : NamedEntity}

/-- A key is inherited if and only if it is attached to the chain and not to the
object. -/
theorem exists_mem_ghostFacets_iff (hm : m.WellFormed) (hlisted : m.FacetsListed)
    (he : m.entity? o = some e) (hobject : e.kind.isObject = true)
    (key : ContextualKind × String) :
    (∃ g ∈ m.ghostFacets o, g.key = key) ↔
      (∃ a ∈ m.extensionChain o, ∃ facet, m.Attached facet a key) ∧
        ¬ ∃ facet, m.Attached facet o key := by
  simp only [attached_iff hm hlisted]
  rw [ghostFacets_eq he hobject, exists_mem_unseenFacets_iff, List.mem_filterMap]
  refine and_congr_left fun _ => ?_
  constructor
  · rintro ⟨s, hs, hkey⟩
    obtain ⟨a, ha, hs⟩ := List.mem_flatMap.mp hs
    exact ⟨a, ha, s, hs, hkey⟩
  · rintro ⟨a, ha, s, hs, hkey⟩
    exact ⟨s, List.mem_flatMap.mpr ⟨a, ha, hs⟩, hkey⟩

/-- An inherited facet is attached to the nearest of the chain that has one with its
key, and is the first one there. -/
theorem nearest_of_mem_ghostFacets (hm : m.WellFormed) (hlisted : m.FacetsListed)
    (he : m.entity? o = some e) (hobject : e.kind.isObject = true) {g : GhostFacet}
    (hg : g ∈ m.ghostFacets o) :
    ∃ nearer a farther, m.extensionChain o = nearer ++ a :: farther ∧
      m.Attached g.source a g.key ∧ (∀ b ∈ nearer, ∀ facet, ¬ m.Attached facet b g.key) ∧
      ∀ facet, m.Attached facet a g.key → g.source.index ≤ facet.index := by
  have hkey : m.facetKey? g.source = some g.key := (ghostFacets_spec hm hg).2
  rw [ghostFacets_eq he hobject] at hg
  obtain ⟨-, before, after, hsources, hfirst⟩ := first_of_mem_unseenFacets hg
  obtain ⟨nearer, a, farther, front, back, hchain, hfacets, rfl⟩ := exists_of_flatMap_eq hsources
  refine ⟨nearer, a, farther, hchain, ?_, ?_, ?_⟩
  · rw [attached_iff hm hlisted, hfacets]
    exact ⟨List.mem_append_right _ List.mem_cons_self, hkey⟩
  · intro b hb facet hfacet
    obtain ⟨hmem, hfacet⟩ := (attached_iff hm hlisted).mp hfacet
    exact hfirst facet (List.mem_append_left _ (List.mem_flatMap.mpr ⟨b, hb, hmem⟩)) hfacet
  · -- of the facets of one owner with the key, none stands before the first
    intro facet hfacet
    obtain ⟨hmem, hfacet⟩ := (attached_iff hm hlisted).mp hfacet
    have horder := pairwise_facetsOf hm hlisted a
    rw [hfacets] at hmem horder
    rcases List.mem_append.mp hmem with hmem | hmem
    · exact absurd hfacet (hfirst facet (List.mem_append_right _ hmem))
    · rcases List.mem_cons.mp hmem with rfl | hmem
      · exact Nat.le_refl _
      · have hback := (List.pairwise_append.mp horder).2.1
        exact Nat.le_of_lt ((List.pairwise_cons.mp hback).1 facet hmem)

/-- Inherited facets come from nearer supertypes first, and those of one supertype in
the order of the entities. -/
theorem pairwise_ghostFacets (hm : m.WellFormed) (hlisted : m.FacetsListed)
    (he : m.entity? o = some e) (hobject : e.kind.isObject = true) :
    (m.ghostFacets o).Pairwise fun g g' => ∀ a a', m.Attached g.source a g.key →
      m.Attached g'.source a' g'.key →
        [a, a'].Sublist (m.extensionChain o) ∨ (a = a' ∧ g.source.index < g'.source.index) := by
  have hsources : ((m.extensionChain o).flatMap m.symbols.facetsOf).Pairwise fun s s' =>
      ∀ a a' key key', m.Attached s a key → m.Attached s' a' key' →
        [a, a'].Sublist (m.extensionChain o) ∨ (a = a' ∧ s.index < s'.index) := by
    have hlisted_at : ∀ {x s a key}, s ∈ m.symbols.facetsOf x → m.Attached s a key → a = x := by
      intro x s a key hs hattached
      obtain ⟨key', hattached'⟩ := exists_attached_of_mem hm hlisted hs
      exact hattached.owner_unique hattached'
    refine List.pairwise_flatMap.mpr ⟨fun x _ => ?_, ?_⟩
    · refine (pairwise_facetsOf hm hlisted x).imp_of_mem ?_
      intro s s' hs hs' hlt a a' key key' ha ha'
      exact Or.inr ⟨(hlisted_at hs ha).trans (hlisted_at hs' ha').symm, hlt⟩
    · refine List.pairwise_iff_forall_sublist.mpr fun {x x'} hsub => ?_
      intro s hs s' hs' a a' key key' ha ha'
      rw [hlisted_at hs ha, hlisted_at hs' ha']
      exact Or.inl hsub
  rw [ghostFacets_eq he hobject]
  have hkept := hsources.sublist (sources_unseenFacets_sublist m e _
    ((m.symbols.facetsOf o).filterMap m.facetKey?))
  rw [List.pairwise_map] at hkept
  exact hkept.imp fun h a a' ha ha' => h a a' _ _ ha ha'

end

/-- Inherited facets are exactly the contextual facets of the chain that an object
does not have itself. After a refresh an object inherits a key if and only if a facet
with it is attached to one of its chain and none to the object; the facet is the first
one at the nearest of the chain that has one; no key is inherited twice; nearer facets
come first, and those of one supertype in the order of the entities; and a facet is
local if and only if the object's library declares it. -/
theorem inherited_facets_exact (cs : List Change) :
    let m := run (cs ++ [.refresh])
    ∀ o e, m.entity? o = some e → e.kind.isObject = true →
      let chain := m.extensionChain o
      let ghosts := m.ghostFacets o
      (∀ key, (∃ g ∈ ghosts, g.key = key) ↔
        (∃ a ∈ chain, ∃ facet, m.Attached facet a key) ∧ ¬ ∃ facet, m.Attached facet o key) ∧
      (∀ g ∈ ghosts, ∃ nearer a farther, chain = nearer ++ a :: farther ∧
        m.Attached g.source a g.key ∧ (∀ b ∈ nearer, ∀ facet, ¬ m.Attached facet b g.key) ∧
        ∀ facet, m.Attached facet a g.key → g.source.index ≤ facet.index) ∧
      (ghosts.map GhostFacet.key).Nodup ∧
      (ghosts.Pairwise fun g g' => ∀ a a', m.Attached g.source a g.key →
        m.Attached g'.source a' g'.key →
          [a, a'].Sublist chain ∨ (a = a' ∧ g.source.index < g'.source.index)) ∧
      ∀ g ∈ ghosts, g.owner = o ∧
        (g.sameLibrary = true ↔ ∃ s, m.entity? g.source = some s ∧ s.library = e.library) := by
  intro m o e he hobject chain ghosts
  have hm : m.WellFormed := wellFormed_run (cs ++ [.refresh])
  have hlisted : m.FacetsListed := facetsListed_run cs
  have hghosts := ghostFacets_eq he hobject
  refine ⟨exists_mem_ghostFacets_iff hm hlisted he hobject,
    fun g hg => nearest_of_mem_ghostFacets hm hlisted he hobject hg, ?_,
    pairwise_ghostFacets hm hlisted he hobject, fun g hg => ⟨(ghostFacets_spec hm hg).1, ?_⟩⟩
  · show ((m.ghostFacets o).map GhostFacet.key).Nodup
    rw [hghosts]
    exact nodup_keys_unseenFacets m e _ _
  · have hg : g ∈ m.ghostFacets o := hg
    rw [hghosts] at hg
    exact (unseenFacets_spec m e _ _ hg).2.2

/-- Two objects that extend each other and a third one in another library that extends
one of them, with facets on all three. -/
def shadeRun : List Change :=
  let object (name extension : String) : MemberDecl :=
    sampleMember name (.choiceObject { (default : ChoiceObject) with
      extension := some (.unbound extension) })
  let facet (name owner : String) : MemberDecl :=
    sampleMember "" (.contextualFacet
      { facetKind := .choice, facetName := name, owner := .unbound owner, context := none
        content := default })
  [.add (sampleLibrary "Host" (some "urn:host") [])
      [object "Root" "Middle", facet "Red" "Root", facet "Blue" "Root", facet "Green" "Root",
        object "Middle" "Root", facet "Red" "Middle"],
    .add (sampleLibrary "Shop" (some "urn:host") [])
      [facet "Red" "Middle", object "Leaf" "Middle", facet "Green" "Leaf"]]

/-- The third object inherits the red facet of the nearer one, the first of two, and
the blue one of the farther. The green one is hidden by its own. -/
theorem shadeRun_inherited :
    let m := run (shadeRun ++ [.refresh])
    m.extensionChain ⟨7⟩ = [⟨4⟩, ⟨0⟩] ∧
      (m.ghostFacets ⟨7⟩).map (fun g => (g.facetName, g.source)) = [("Red", ⟨5⟩), ("Blue", ⟨2⟩)] ∧
      (∃ g ∈ m.ghostFacets ⟨7⟩, g.key = (.choice, "Blue")) ∧
      m.Attached ⟨3⟩ ⟨0⟩ (.choice, "Green") ∧
      ¬ ∃ g ∈ m.ghostFacets ⟨7⟩, g.key = (.choice, "Green") := by
  intro m
  obtain ⟨leaf, hleaf, hobject⟩ : ∃ e, m.entity? ⟨7⟩ = some e ∧ e.kind.isObject = true :=
    (Option.any_eq_true ..).mp (by decide +kernel)
  obtain ⟨hkeys, -⟩ := inherited_facets_exact shadeRun ⟨7⟩ leaf hleaf hobject
  have hm : m.WellFormed := wellFormed_run _
  have hlisted : m.FacetsListed := facetsListed_run shadeRun
  obtain ⟨hchain, hghosts, hroot, hown, hblue, hgreen, hgreen'⟩ :
      m.extensionChain ⟨7⟩ = [⟨4⟩, ⟨0⟩] ∧
        (m.ghostFacets ⟨7⟩).map (fun g => (g.facetName, g.source)) =
          [("Red", ⟨5⟩), ("Blue", ⟨2⟩)] ∧
        m.symbols.facetsOf ⟨0⟩ = [⟨1⟩, ⟨2⟩, ⟨3⟩] ∧ m.symbols.facetsOf ⟨7⟩ = [⟨8⟩] ∧
        m.facetKey? ⟨2⟩ = some (.choice, "Blue") ∧ m.facetKey? ⟨3⟩ = some (.choice, "Green") ∧
        m.facetKey? ⟨8⟩ = some (.choice, "Green") := by
    decide +kernel
  have hgreen : m.Attached ⟨3⟩ ⟨0⟩ (.choice, "Green") :=
    (attached_iff hm hlisted).mpr ⟨by simp [hroot], hgreen⟩
  have hfar : ⟨0⟩ ∈ m.extensionChain ⟨7⟩ := by simp [hchain]
  refine ⟨hchain, hghosts, (hkeys (.choice, "Blue")).mpr ⟨⟨⟨0⟩, hfar, ⟨2⟩, ?_⟩, ?_⟩, hgreen,
    fun h => ((hkeys (.choice, "Green")).mp h).2 ⟨⟨8⟩, ?_⟩⟩
  · exact (attached_iff hm hlisted).mpr ⟨by simp [hroot], hblue⟩
  · -- the only facet of the object is the green one
    rintro ⟨facet, hfacet⟩
    obtain ⟨hmem, hkey⟩ := (attached_iff hm hlisted).mp hfacet
    rw [hown, List.mem_singleton] at hmem
    rw [hmem, hgreen'] at hkey
    exact absurd hkey (by decide)
  · exact (attached_iff hm hlisted).mpr ⟨by simp [hown], hgreen'⟩

end Model

end TravelModel
