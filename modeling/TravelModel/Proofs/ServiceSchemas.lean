import TravelModel.Proofs.Faithful
import TravelModel.Proofs.SchemaClosure

/-!
# TravelModel — names in service schemas

The schemas of services declare the messages, and refer to the schemas of
libraries for the rest: the types in the content of a message, the types of the
facets that can be asked for, and the element that identifies an object.

Main results:

* `serviceDocuments_eq` — the service documents of a generation.
* `serviceUse_messages`, `serviceUse_requestResponse` — the names in the two kinds
  of documents.
* `located_of_serviceSchemas` — a service document declares what it refers to, or
  the name is looked for among the schemas of libraries.
-/

namespace TravelModel

namespace Operation

theorem mem_refs_of_messages {op : Operation} {p : MessageKind × FacetContent}
    (hp : p ∈ op.messages) {r : Reference} (hr : r ∈ refs p.2) : r ∈ refs op := by
  rw [refs_eq_messages]
  exact List.mem_flatMap.mpr ⟨p, hp, hr⟩

end Operation

namespace GenerationContext

open Xsd Model

variable {c : GenerationContext}

/-! ## The documents of services -/

/-- The service documents of an entity. -/
def servicesOf (c : GenerationContext) (e : NamedEntity) : List Document :=
  c.messageDocuments e ++ c.requestResponseDocuments e

theorem registeredServices_eq (h : c.registry = .standard) (e : NamedEntity) :
    c.registeredServices e = .ok (c.servicesOf e) := by
  rw [registeredServices, fittingServices, h, servicesOf, NamedEntity.kind, messageDocuments,
    requestResponseDocuments]
  cases e.body with
  | service s =>
    rw [List.append_nil]
    rfl
  | _ => rfl

/-- The service documents of all entities in scope. -/
def serviceSchemas (c : GenerationContext) : List Document :=
  c.order.flatMap fun id => (c.emittedEntities id).flatMap c.servicesOf

theorem serviceDocuments_eq (hc : c.Closed) : c.serviceDocuments = .ok c.serviceSchemas := by
  rw [serviceDocuments, mapM_eq_ok (g := fun id => (c.emittedEntities id).map c.servicesOf)]
  · show Except.ok _ = Except.ok _
    rw [List.flatten_flatten, List.map_map]
    rfl
  · intro id _
    rw [checkCancelled, hc.running, mapM_eq_ok fun e _ => registeredServices_eq hc.registry e]
    rfl

/-- The namespace of service documents is the one that is written for the names of
the entity. -/
theorem serviceNamespace?_eq {e : NamedEntity} {l : Library}
    (hl : c.model.owner? e.id = some l) (hlibrary : c.model.library? e.library = some l) :
    c.serviceNamespace? e = c.entityNamespace? e.id (some e.library) := by
  rw [serviceNamespace?, hlibrary, Option.bind_some]
  cases hns : l.ns with
  | none =>
    -- seen from its own library, an entity needs no host
    rw [libraryNamespace?_eq_none.mpr hns, entityNamespace?_eq hl hns, hlibrary]
    simp
  | some ns =>
    obtain ⟨out, hout⟩ := Option.ne_none_iff_exists'.mp
      (mt libraryNamespace?_eq_none.mp (by rw [hns]; exact Option.some_ne_none ns))
    rw [hout, entityNamespace?, hl, Option.bind_eq_bind, Option.bind_some, hout]
    rfl

/-! ## Messages -/

/-- What a service document refers to: a name that it declares itself, or one that is
found among the schemas of libraries. -/
def ServiceUse (c : GenerationContext) (viewer : LibraryId) (ns : Option String)
    (ks : List Component) (u : ComponentSort × QName) : Prop :=
  (u.2.ns = ns ∧ ∃ k ∈ ks, k.sort = u.1 ∧ k.name = u.2.name) ∨
    c.Located c.schemaDocuments (some viewer) u

theorem uses_plainElement {name : String} {type : QName} {u : ComponentSort × QName}
    (h : u ∈ (plainElement name type).uses) : u = (.type, type) := by
  simpa [plainElement, Component.uses] using h

theorem serviceUse_messages (hc : c.Closed) {library : LibraryId} {e : NamedEntity}
    (he : e ∈ c.emittedEntities library) {s : Service} (hbody : e.body = .service s)
    {k : Component}
    (hk : k ∈ s.operations.flatMap fun op =>
      op.messages.flatMap fun p => c.messageComponents e op p.1 p.2)
    {u : ComponentSort × QName} (hu : u ∈ k.uses) :
    c.ServiceUse e.library (c.serviceNamespace? e)
      (s.operations.flatMap fun op =>
        op.messages.flatMap fun p => c.messageComponents e op p.1 p.2) u := by
  obtain ⟨op, hop, hk⟩ := List.mem_flatMap.mp hk
  obtain ⟨p, hp, hk⟩ := List.mem_flatMap.mp hk
  have hlive := ((mem_emittedEntities hc.settled.wellFormed).mp he).1
  rw [messageComponents] at hk
  simp only [List.mem_cons, List.not_mem_nil, or_false] at hk
  rcases hk with rfl | rfl
  · -- the content of a message is the service's own
    rcases uses_facetType hu with hstandard | ⟨hsort, r, hr, hq⟩
    · exact Or.inr (Or.inl hstandard)
    · have hneeds : c.model.Needs e.id r := by
        refine needs_of_mem hlive ?_
        rw [hbody]
        exact mem_refs_list.mpr ⟨op, hop, Operation.mem_refs_of_messages hp hr⟩
      obtain ⟨sort, q⟩ := u
      dsimp only at hsort hq
      subst hsort hq
      exact Or.inr (located_of_needs hc he hneeds)
  · rw [uses_plainElement hu]
    refine Or.inl ⟨rfl, .complexType (c.facetType (op.messageName e.name p.1) none p.2 none
      e.library), ?_, rfl, rfl⟩
    exact List.mem_flatMap.mpr ⟨op, hop, List.mem_flatMap.mpr ⟨p, hp, List.mem_cons_self⟩⟩

/-! ## Requests and responses -/

theorem exists_element_id {e : NamedEntity} {o : BusinessObject} (hbody : e.body = .businessObject o) :
    ∃ k ∈ c.components e, k.sort = .element ∧ k.name = (Naming.facetElement? e.name .id).getD "" := by
  rw [components, hbody]
  refine ⟨c.ownElement e (e.name ++ "ID") (Naming.facetType e.name .id), ?_, rfl, rfl⟩
  refine List.mem_append_left _ (List.mem_flatMap.mpr ⟨.id, List.mem_cons_self, ?_⟩)
  refine List.mem_cons_of_mem _ (List.mem_map_of_mem (f := fun name => c.ownElement e name _) ?_)
  exact List.mem_cons_self

theorem exists_type_ghost (hm : c.model.WellFormed) {e : NamedEntity} {o : BusinessObject}
    (hbody : e.body = .businessObject o) {g : GhostFacet} (hg : g ∈ c.model.ghostFacets e.id) :
    ∃ k ∈ c.components e, k.sort = .type ∧ k.name = c.model.ghostName g := by
  have hkey := (ghostFacets_spec hm hg).2
  rw [facetKey?] at hkey
  split at hkey
  · next f hsource =>
    obtain ⟨source, hsource, hf⟩ := Option.map_eq_some_iff.mp hsource
    rw [components, hbody]
    refine ⟨.complexType (c.facetType (c.model.ghostName g) source.documentation
      (c.contextualContent (some e) f) (extensionKind e g.kind.facetKind) e.library),
      List.mem_append_right _ (List.mem_flatMap.mpr ⟨g, hg, ?_⟩), rfl, rfl⟩
    rw [ghostComponents, hsource]
    dsimp only
    rw [hf]
    exact List.mem_cons_self
  · cases hkey

/-- The facets that can be asked for have types. -/
theorem located_responseFacets (hc : c.Closed) {library : LibraryId} {e : NamedEntity}
    (he : e ∈ c.emittedEntities library) {o : BusinessObject} (hbody : e.body = .businessObject o) :
    ∀ f ∈ c.responseFacets e, c.Located c.schemaDocuments (some e.library) (.type, f.2) := by
  have hm := hc.settled.wellFormed
  have hlive := ((mem_emittedEntities hm).mp he).1
  have hown : ∀ name, (∃ k ∈ c.components e, k.sort = .type ∧ k.name = name) →
      c.Located c.schemaDocuments (some e.library) (.type, c.ownQName e name) := by
    rintro name ⟨k, hk, htype, rfl⟩
    have hlocated := located_of_component hc he .refl hlive hk
    rw [htype] at hlocated
    exact hlocated
  intro f hf
  simp only [responseFacets, List.mem_append, List.mem_map, List.mem_filterMap] at hf
  rcases hf with (⟨kind, hkind, rfl⟩ | ⟨id, hid, hf⟩) | ⟨g, hg, rfl⟩
  · refine hown _ (exists_type_facet ?_)
    rw [hbody]
    exact hkind
  · -- a contextual facet of the object is one of its dependencies
    obtain ⟨x, hx, hlabel⟩ := Option.bind_eq_some_iff.mp hf
    have hxid := hm.entity_id hx
    subst hxid
    split at hlabel
    · next b hb =>
      obtain rfl := Option.some.inj hlabel
      have hattached : c.model.Reaches e.id x.id := by
        refine reaches_of_mem_dependencies fun hne => ?_
        rw [dependencies, hlive]
        dsimp only
        rw [NamedEntity.kind, hbody]
        refine List.mem_filter.mpr ⟨List.mem_append_right _ (List.mem_append_left _ ?_), ?_⟩
        · exact (List.mem_filter.mp hid).1
        · simpa using hne
      obtain ⟨k, hk, htype, hname⟩ : ∃ k ∈ c.components x, k.sort = .type ∧ k.name = x.name := by
        rw [components, hb]
        exact ⟨_, List.mem_cons_self, rfl, rfl⟩
      have hlocated := located_of_component hc he hattached hx hk
      rw [htype, hname] at hlocated
      exact hlocated
    · cases hlabel
  · exact hown _ (exists_type_ghost hm hbody hg)

theorem serviceUse_requestResponse (hc : c.Closed) {library : LibraryId} {e : NamedEntity}
    (he : e ∈ c.emittedEntities library) {o : BusinessObject} (hbody : e.body = .businessObject o)
    {k : Component} (hk : k ∈ c.requestResponseComponents e) {u : ComponentSort × QName}
    (hu : u ∈ k.uses) :
    c.ServiceUse e.library (c.serviceNamespace? e) (c.requestResponseComponents e) u := by
  have hm := hc.settled.wellFormed
  have hlive := ((mem_emittedEntities hm).mp he).1
  obtain ⟨l, howner, hl⟩ := hm.owner?_eq hlive
  rw [requestResponseComponents] at hk
  simp only [List.mem_append, List.mem_cons, List.not_mem_nil, or_false, List.mem_flatMap] at hk
  rcases hk with (rfl | rfl) | ⟨f, hf, rfl | rfl⟩
  · rw [List.mem_singleton.mp hu]
    exact Or.inr (Or.inl (standard_primitive _))
  · -- the identifier is an element of the library, the selector stands here
    simp only [Component.uses, Component.contentUses, Component.termUse, List.map_cons,
      List.map_nil, List.singleton_append, List.mem_cons, List.not_mem_nil, or_false] at hu
    rcases hu with rfl | rfl
    · obtain ⟨k, hk, helement, hname⟩ := exists_element_id (c := c) hbody
      have hlocated := located_of_component hc he .refl hlive hk
      rw [helement, hname, ← serviceNamespace?_eq howner hl] at hlocated
      exact Or.inr hlocated
    · exact Or.inl ⟨rfl, _, List.mem_append_left _ List.mem_cons_self, rfl, rfl⟩
  · rw [uses_plainElement hu]
    exact Or.inl ⟨rfl, _,
      List.mem_append_left _ (List.mem_cons_of_mem _ List.mem_cons_self), rfl, rfl⟩
  · rw [uses_plainElement hu]
    exact Or.inr (located_responseFacets hc he hbody f hf)

/-! ## Documents -/

/-- What the names in a service document are. It declares them itself, or they are
found among the schemas of libraries. -/
theorem located_of_serviceSchemas (hc : c.Closed) {d : Document} (hd : d ∈ c.serviceSchemas) :
    d.service = true ∧ (d.schema.includes = [] ∧ d.schema.imports = []) ∧
      ∀ k ∈ d.schema.components, ∀ u ∈ k.uses,
        (u.2.ns = d.schema.targetNamespace ∧ d.Declares u.1 u.2.name) ∨
          c.Located c.schemaDocuments d.library u := by
  have hm := hc.settled.wellFormed
  obtain ⟨id, -, hd⟩ := List.mem_flatMap.mp hd
  obtain ⟨e, he, hd⟩ := List.mem_flatMap.mp hd
  have hlive := ((mem_emittedEntities hm).mp he).1
  obtain ⟨l, -, hl⟩ := hm.owner?_eq hlive
  have hns : c.serviceNamespace? e = c.libraryNamespace? l := by
    rw [serviceNamespace?, hl, Option.bind_some]
  have hlid : some l.id = some e.library := congrArg some (hm.library_id hl)
  rcases List.mem_append.mp hd with hd | hd
  · rw [messageDocuments] at hd
    split at hd
    · next s hbody =>
      rw [serviceDocument?, hl, Option.map_some, Option.toList_some, List.mem_singleton] at hd
      subst hd
      refine ⟨rfl, ⟨rfl, rfl⟩, fun k hk u hu => ?_⟩
      have huse := serviceUse_messages hc he hbody hk hu
      rw [ServiceUse, hns, ← hlid] at huse
      exact huse
    · exact absurd hd List.not_mem_nil
  · rw [requestResponseDocuments] at hd
    split at hd
    · next o hbody =>
      rw [serviceDocument?, hl, Option.map_some, Option.toList_some, List.mem_singleton] at hd
      subst hd
      refine ⟨rfl, ⟨rfl, rfl⟩, fun k hk u hu => ?_⟩
      have huse := serviceUse_requestResponse hc he hbody hk hu
      rw [ServiceUse, hns, ← hlid] at huse
      exact huse
    · exact absurd hd List.not_mem_nil

end GenerationContext

end TravelModel
