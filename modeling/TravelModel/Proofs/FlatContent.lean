import Mathlib.Data.List.Flatten
import Mathlib.Data.List.Infix
import TravelModel.Proofs.InheritedFacets
import TravelModel.Xsd.Components

/-!
# TravelModel — what inheritance adds to content

The content of a facet is flat: that of all supertypes comes first, the farthest
before the others, and within each entity the lower facets come before the
higher ones. So a higher facet has all that a lower one has, and the content of
a supertype opens that of whatever extends it. A contextual facet starts from
the default facet of the owner it is seen on; inherited, it has all that it has
on its own owner.

Main results:

* `facetContent_within` — the content of a facet is within that of every facet
  of the same or a higher rank.
* `facetContent_opens` — the content of a supertype opens that of an entity.
* `contextualContent_within` — a contextual facet on a supertype is within the
  same facet on an object of the same kind.
* `inheritance_adds_content` — the three together, for what is written for
  refreshed models.
-/

namespace TravelModel

/-! ## Contents in contents -/

namespace FacetContent

/-- Each list of one content is a sublist of that of another. -/
structure Within (a b : FacetContent) : Prop where
  attributes : a.attributes.Sublist b.attributes
  elements : a.elements.Sublist b.elements
  indicators : a.indicators.Sublist b.indicators

/-- Each list of one content is at the start of that of another. -/
structure Opens (a b : FacetContent) : Prop where
  attributes : a.attributes <+: b.attributes
  elements : a.elements <+: b.elements
  indicators : a.indicators <+: b.indicators

theorem foldl_append (cs : List FacetContent) (start : FacetContent) :
    cs.foldl append start =
      { attributes := start.attributes ++ cs.flatMap attributes
        elements := start.elements ++ cs.flatMap elements
        indicators := start.indicators ++ cs.flatMap indicators } := by
  induction cs generalizing start with
  | nil => simp
  | cons c rest ih => simp [ih, append]

/-- Contents are joined list by list. -/
theorem concat_eq (cs : List FacetContent) :
    concat cs =
      { attributes := cs.flatMap attributes, elements := cs.flatMap elements
        indicators := cs.flatMap indicators } :=
  foldl_append cs {}

theorem within_concat {cs cs' : List FacetContent} (h : cs.Sublist cs') :
    (concat cs).Within (concat cs') := by
  rw [concat_eq, concat_eq]
  exact ⟨h.flatMap _, h.flatMap _, h.flatMap _⟩

theorem opens_concat {cs cs' : List FacetContent} (h : cs <+: cs') :
    (concat cs).Opens (concat cs') := by
  rw [concat_eq, concat_eq]
  exact ⟨h.flatMap _, h.flatMap _, h.flatMap _⟩

theorem Within.refl (a : FacetContent) : a.Within a :=
  ⟨.refl _, .refl _, .refl _⟩

/-- What opens a content stays within it when both are followed by the same. -/
theorem Opens.within_append {a b : FacetContent} (h : a.Opens b) (own : FacetContent) :
    (a.append own).Within (b.append own) :=
  ⟨h.attributes.sublist.append_right _, h.elements.sublist.append_right _,
    h.indicators.sublist.append_right _⟩

end FacetContent

/-- The default facet of a body depends on its kind only. -/
theorem EntityBody.defaultFacet_eq (b : EntityBody) :
    b.defaultFacet = if b.kind = .choiceObject then .shared else .summary := by
  cases b <;> rfl

namespace GenerationContext

open Model Xsd

variable {c : GenerationContext}

/-! ## Fixed facets -/

theorem ownContents_sublist {j k : FacetKind} (h : j.rank ≤ k.rank) (id : EntityId) :
    (c.ownContents j id).Sublist (c.ownContents k id) := by
  rw [ownContents, ownContents]
  cases c.model.entity? id with
  | none => exact .refl _
  | some e =>
    -- a facet that is low enough for one rank is so for a higher one
    refine (List.monotone_filter_right _ fun p hp => ?_).map Prod.snd
    simp only [Bool.and_eq_true, decide_eq_true_eq] at hp ⊢
    exact ⟨hp.1.trans h, hp.2⟩

/-- A facet has all that a facet of the same or a lower rank has. -/
theorem facetContent_within {j k : FacetKind} (h : j.rank ≤ k.rank) (o : EntityId) :
    (c.facetContent o j).Within (c.facetContent o k) :=
  FacetContent.within_concat (List.Sublist.flatMap_right _ fun id _ => ownContents_sublist h id)

/-- Without a circle the content of a supertype opens that of the entity. -/
theorem facetContent_opens {o a : EntityId} (hcircle : c.model.hasCircularExtension o = false)
    (ha : a ∈ c.model.extensionChain o) (k : FacetKind) :
    (c.facetContent a k).Opens (c.facetContent o k) := by
  obtain ⟨nearer, farther, hchain⟩ := List.append_of_mem ha
  have hfarther := extensionChain_of_append hcircle hchain
  refine FacetContent.opens_concat (List.IsPrefix.flatMap ?_ _)
  -- from the farthest on, the way comes to the supertype before the nearer ones
  refine ⟨nearer.reverse ++ [o], ?_⟩
  rw [hchain, hfarther]
  simp

/-! ## Contextual facets -/

/-- A contextual facet on a supertype is within the same facet on an object of the
same kind. -/
theorem contextualContent_within {o a : EntityId} {e owner : NamedEntity}
    (hcircle : c.model.hasCircularExtension o = false) (ha : a ∈ c.model.extensionChain o)
    (he : e.id = o) (howner : owner.id = a) (hkind : owner.kind = e.kind) (f : ContextualFacet) :
    (c.contextualContent (some owner) f).Within (c.contextualContent (some e) f) := by
  have hdefault : owner.body.defaultFacet = e.body.defaultFacet := by
    rw [EntityBody.defaultFacet_eq, EntityBody.defaultFacet_eq]
    rw [NamedEntity.kind, NamedEntity.kind] at hkind
    rw [hkind]
  unfold contextualContent
  dsimp only
  rw [hkind, he, howner, hdefault]
  split
  · exact (facetContent_opens hcircle ha _).within_append f.content
  · exact .refl _

/-- A query has its own fields only. -/
theorem contextualContent_query {f : ContextualFacet} (h : f.facetKind = .query)
    (owner : Option NamedEntity) : c.contextualContent owner f = f.content := by
  have hempty : FacetContent.append {} f.content = f.content := rfl
  unfold contextualContent
  cases owner with
  | none => exact hempty
  | some o =>
    simp only [h, ne_eq, not_true_eq_false, decide_false, Bool.false_and]
    exact hempty

/-! ## What is written -/

/-- A type with a name and a content is written for an entity. -/
def WritesType (c : GenerationContext) (e : NamedEntity) (name : String) (content : FacetContent) :
    Prop :=
  ∃ documentation kind,
    .complexType (c.facetType name documentation content kind e.library) ∈ c.components e

theorem writesType_contextual {source owner : NamedEntity} {f : ContextualFacet}
    (hbody : source.body = .contextualFacet f)
    (howner : f.owner.entity?.bind c.model.entity? = some owner) :
    c.WritesType source source.name (c.contextualContent (some owner) f) := by
  rw [WritesType, components, hbody]
  dsimp only
  rw [contextualComponents, howner]
  exact ⟨source.documentation, _, List.mem_cons_self⟩

theorem writesType_ghost {e source : NamedEntity} (hobject : e.kind.isObject = true)
    {g : GhostFacet} (hg : g ∈ c.model.ghostFacets e.id)
    (hsource : c.model.entity? g.source = some source) {f : ContextualFacet}
    (hbody : source.body = .contextualFacet f) :
    c.WritesType e (c.model.ghostName g) (c.contextualContent (some e) f) := by
  have hghost : .complexType (c.facetType (c.model.ghostName g) source.documentation
      (c.contextualContent (some e) f) (extensionKind e g.kind.facetKind) e.library) ∈
        c.allGhostComponents e := by
    refine List.mem_flatMap.mpr ⟨g, hg, ?_⟩
    rw [ghostComponents, hsource]
    dsimp only
    rw [hbody]
    exact List.mem_cons_self
  refine ⟨source.documentation, extensionKind e g.kind.facetKind, ?_⟩
  -- the components of each kind of object end in those of its inherited facets
  rw [components]
  rw [NamedEntity.kind] at hobject
  cases hkind : e.body with
  | coreObject _ => exact List.mem_append_right _ hghost
  | businessObject _ => exact List.mem_append_right _ hghost
  | choiceObject _ => exact List.mem_append_right _ hghost
  | _ =>
    rw [hkind] at hobject
    cases hobject

/-- Inheritance only adds content. In a refreshed model a facet of an object has, in
order, all that a facet of the same or a lower rank has. If the extension of the object
is not circular, what its supertype has in a facet opens what it has itself. If besides
all supertypes are objects of its kind, the type written for a contextual facet that it
inherits has all that the type of the facet on its own owner has, and the same for a
query. -/
theorem inheritance_adds_content (cs : List Change) (c : GenerationContext)
    (hmodel : c.model = run (cs ++ [.refresh])) (o : EntityId) (e : NamedEntity)
    (he : c.model.entity? o = some e) (hobject : e.kind.isObject = true) :
    (∀ j k, j.rank ≤ k.rank → (c.facetContent o j).Within (c.facetContent o k)) ∧
    (c.model.hasCircularExtension o = false →
      (∀ p, c.model.Extends o p → ∀ k, (c.facetContent p k).Opens (c.facetContent o k)) ∧
      ((∀ a ∈ c.model.extensionChain o, ∃ e', c.model.entity? a = some e' ∧ e'.kind = e.kind) →
        ∀ g ∈ c.model.ghostFacets o, ∃ source f owner,
          c.model.entity? g.source = some source ∧ source.body = .contextualFacet f ∧
          f.owner.entity?.bind c.model.entity? = some owner ∧
          owner.id ∈ c.model.extensionChain o ∧
          c.WritesType source source.name (c.contextualContent (some owner) f) ∧
          c.WritesType e (c.model.ghostName g) (c.contextualContent (some e) f) ∧
          (c.contextualContent (some owner) f).Within (c.contextualContent (some e) f) ∧
          (g.kind = .query →
            c.contextualContent (some owner) f = c.contextualContent (some e) f))) := by
  have hm : c.model.WellFormed := hmodel ▸ wellFormed_run (cs ++ [.refresh])
  have hlisted : c.model.FacetsListed := hmodel ▸ facetsListed_run cs
  refine ⟨fun j k h => facetContent_within h o, fun hcircle => ⟨fun p hp => ?_, ?_⟩⟩
  · have hmem : p ∈ c.model.extensionChain o := by
      rw [extensionChain_of_extends hcircle hp]
      exact List.mem_cons_self
    exact facetContent_opens hcircle hmem
  · intro hkinds g hg
    -- the facet is attached to one of the chain, which is an object of the same kind
    obtain ⟨nearer, a, farther, hchain, hattached, -⟩ :=
      nearest_of_mem_ghostFacets hm hlisted he hobject hg
    have ha : a ∈ c.model.extensionChain o := by
      rw [hchain]
      exact List.mem_append_right _ List.mem_cons_self
    obtain ⟨source, f, hsource, hbody, hfowner, hkey⟩ := hattached
    obtain ⟨owner, howner, hkind⟩ := hkinds a ha
    have hid : e.id = o := hm.entity_id he
    have hownerid : owner.id = a := hm.entity_id howner
    have hbound : f.owner.entity?.bind c.model.entity? = some owner := by
      rw [hfowner]
      exact howner
    refine ⟨source, f, owner, hsource, hbody, hbound, hownerid ▸ ha, writesType_contextual hbody
      hbound, writesType_ghost hobject (hid ▸ hg) hsource hbody,
      contextualContent_within hcircle ha hid hownerid hkind f, fun hquery => ?_⟩
    have hfacet : f.facetKind = .query := (Prod.mk.inj hkey).1.trans hquery
    rw [contextualContent_query hfacet, contextualContent_query hfacet]

/-- A business object with two contextual facets, one of them a query, and another one
that extends it. -/
def orderRun : List Change :=
  let content (names : List String) : FacetContent :=
    { attributes := names.map fun name =>
        { name, type := .unbound "Text", mandatory := false, documentation := none } }
  let object (extension : Option Reference) (id summary : List String) : EntityBody :=
    .businessObject
      { extension, id := content id, summary := content summary, detail := {}, aliases := []
        notExtendable := false }
  let facet (facetKind : ContextualKind) (facetName field : String) : EntityBody :=
    .contextualFacet
      { facetKind, facetName, owner := .unbound "Base", context := none, content := content [field] }
  [.add (sampleLibrary "Orders" (some "urn:orders") [])
    [sampleMember "Text" (.simpleType {}), sampleMember "Base" (object none ["number"] ["title"]),
      sampleMember "" (facet .custom "Web" "channel"), sampleMember "" (facet .query "Find" "term"),
      sampleMember "Order" (object (some (.unbound "Base")) [] ["total"])]]

/-- The content of the base opens that of the order, which adds a field of its own. The
custom facet has that field too where it is inherited, and the query does not. -/
theorem orderRun_content :
    let c : GenerationContext :=
      { model := run (orderRun ++ [.refresh]), scope := {}, options := default }
    c.model.hasCircularExtension ⟨4⟩ = false ∧ c.model.extensionChain ⟨4⟩ = [⟨1⟩] ∧
      (c.facetContent ⟨4⟩ .summary).attributes.map Attribute.name = ["number", "title", "total"] ∧
      (c.facetContent ⟨1⟩ .summary).Opens (c.facetContent ⟨4⟩ .summary) ∧
      (c.facetContent ⟨4⟩ .id).Within (c.facetContent ⟨4⟩ .summary) ∧
      (c.model.ghostFacets ⟨4⟩).map GhostFacet.kind = [.custom, .query] ∧
      ∀ g ∈ c.model.ghostFacets ⟨4⟩, ∃ e f owner, c.model.entity? ⟨4⟩ = some e ∧
        (c.contextualContent (some owner) f).Within (c.contextualContent (some e) f) ∧
        (g.kind = .query → c.contextualContent (some owner) f = c.contextualContent (some e) f) := by
  intro c
  obtain ⟨order, horder, hkind⟩ : ∃ e, c.model.entity? ⟨4⟩ = some e ∧
      e.kind = .businessObject := by
    have htest : (c.model.entity? ⟨4⟩).any (fun e => e.kind = .businessObject) = true := by
      decide +kernel
    obtain ⟨e, he, hkind⟩ := (Option.any_eq_true ..).mp htest
    exact ⟨e, he, of_decide_eq_true hkind⟩
  obtain ⟨hcircle, hchain, hnames, hghosts, hbase⟩ :
      c.model.hasCircularExtension ⟨4⟩ = false ∧ c.model.extensionChain ⟨4⟩ = [⟨1⟩] ∧
        (c.facetContent ⟨4⟩ .summary).attributes.map Attribute.name =
          ["number", "title", "total"] ∧
        (c.model.ghostFacets ⟨4⟩).map GhostFacet.kind = [.custom, .query] ∧
        (c.model.entity? ⟨1⟩).any (fun e => e.kind = .businessObject) = true := by
    decide +kernel
  obtain ⟨base, hbase, hbasekind⟩ := (Option.any_eq_true ..).mp hbase
  obtain ⟨hranks, hadds⟩ :=
    inheritance_adds_content orderRun c rfl ⟨4⟩ order horder (by rw [hkind]; rfl)
  obtain ⟨hopens, hinherited⟩ := hadds hcircle
  refine ⟨hcircle, hchain, hnames, hopens ⟨1⟩ (extends_of_extensionChain hchain) .summary,
    hranks .id .summary (by decide), hghosts, fun g hg => ?_⟩
  have hkinds : ∀ a ∈ c.model.extensionChain ⟨4⟩, ∃ e', c.model.entity? a = some e' ∧
      e'.kind = order.kind := by
    intro a ha
    rw [hchain, List.mem_singleton] at ha
    exact ⟨base, ha ▸ hbase, (of_decide_eq_true hbasekind).trans hkind.symm⟩
  obtain ⟨-, f, owner, -, -, -, -, -, -, hwithin, hquery⟩ := hinherited hkinds g hg
  exact ⟨order, f, owner, horder, hwithin, hquery⟩

end GenerationContext

end TravelModel
