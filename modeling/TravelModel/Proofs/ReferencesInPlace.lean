import TravelModel.Proofs.Binding

/-!
# TravelModel — references bound in place

A refresh reads the references of an entity as one list, finds a target for each, and writes
the targets back through another walk over the entity. The two walks have to meet the same
references in the same order. Here they are compared with a third one that needs no order:
`mapRefs` rewrites every field that holds a reference where it stands. Putting back a list of
rewritten references is that rewriting, for all ten kinds of entities.

Main results:

* `putRefs_map` — putting rewritten references back is rewriting them where they stand.
* `EntityBody.withoutTargets_assign`, `EntityBody.eq_assign` — a bound body differs from the
  declared one in its targets only, and the targets determine it.
* `references_bound_in_place` — each target goes to its own reference, in a body and in a
  refresh.
-/

namespace TravelModel

/-! ## Rewriting where references stand -/

/-- A content with its references rewritten. -/
def FacetContent.mapRefs (f : Reference → Reference) (c : FacetContent) : FacetContent :=
  { c with
    attributes := c.attributes.map fun a => { a with type := f a.type }
    elements := c.elements.map fun e => { e with type := f e.type } }

/-- A resource with its references rewritten. -/
def Resource.mapRefs (f : Reference → Reference) (r : Resource) : Resource :=
  { r with
    businessObject := r.businessObject.map f
    parents := r.parents.map fun p => { p with resource := f p.resource }
    parameterGroups := r.parameterGroups.map fun g => { g with facet := g.facet.map f }
    actions := r.actions.map fun a =>
      { a with
        request := { a.request with payload := a.request.payload.map f }
        responses := a.responses.map fun p => { p with payload := p.payload.map f } } }

/-- A service with its references rewritten. -/
def Service.mapRefs (f : Reference → Reference) (s : Service) : Service :=
  { s with
    operations := s.operations.map fun op =>
      { op with
        request := op.request.map (FacetContent.mapRefs f)
        response := op.response.map (FacetContent.mapRefs f)
        notification := op.notification.map (FacetContent.mapRefs f) } }

/-- A body with its references rewritten. -/
def EntityBody.mapRefs (f : Reference → Reference) : EntityBody → EntityBody
  | simpleType t => simpleType { t with base := t.base.map f }
  | enumeration e => enumeration { e with extension := e.extension.map f }
  | valueWithAttributes v =>
    valueWithAttributes
      { v with valueType := v.valueType.map f, content := v.content.mapRefs f }
  | coreObject o =>
    coreObject
      { o with
        extension := o.extension.map f, simpleType := o.simpleType.map f
        summary := o.summary.mapRefs f, detail := o.detail.mapRefs f }
  | businessObject o =>
    businessObject
      { o with
        extension := o.extension.map f, id := o.id.mapRefs f
        summary := o.summary.mapRefs f, detail := o.detail.mapRefs f }
  | choiceObject o =>
    choiceObject { o with extension := o.extension.map f, shared := o.shared.mapRefs f }
  | contextualFacet x =>
    contextualFacet { x with owner := f x.owner, content := x.content.mapRefs f }
  | extensionPointFacet x =>
    extensionPointFacet { x with extended := f x.extended, content := x.content.mapRefs f }
  | resource r => resource (r.mapRefs f)
  | service s => service (s.mapRefs f)

/-- Putting back rewritten references changes a value as a function does. -/
def PutsAs {α : Type} [References α] (f : Reference → Reference) (g : α → α) : Prop :=
  ∀ a, putRefs a ((refs a).map f) = g a

section

variable {α β : Type} [References α] [References β] {f : Reference → Reference} {g : α → α}
  {h : β → β}

theorem putsAs_reference : PutsAs f f :=
  fun _ => rfl

theorem PutsAs.option (hg : PutsAs f g) : PutsAs f (Option.map g) := by
  intro a
  cases a with
  | none => rfl
  | some a => exact congrArg some (hg a)

theorem PutsAs.pair (hg : PutsAs f g) (hh : PutsAs f h) : PutsAs f (Prod.map g h) := by
  intro p
  rw [References.refs_pair, References.putRefs_pair, List.map_append,
    List.take_left' (List.length_map f), List.drop_left' (List.length_map f), hg, hh]
  rfl

theorem PutsAs.list (hg : PutsAs f g) : PutsAs f (List.map g) := by
  intro as
  induction as with
  | nil => rfl
  | cons a rest ih =>
    rw [References.refsAll_cons, References.putAll_cons, List.map_append,
      List.take_left' (List.length_map f), List.drop_left' (List.length_map f), hg, ih]
    rfl

/-- A record that keeps its references in some fields is rewritten in these. -/
theorem PutsAs.ofFields (hg : PutsAs f g) (get : β → α) (set : β → α → β)
    (hrefs : ∀ b : β, refs b = refs (get b))
    (hput : ∀ (b : β) (rs : List Reference), putRefs b rs = set b (putRefs (get b) rs)) :
    PutsAs f fun b => set b (g (get b)) := by
  intro b
  rw [hput, hrefs, hg]

end

section

variable (f : Reference → Reference)

theorem putsAs_facetContent : PutsAs f (FacetContent.mapRefs f) := by
  have hattribute : PutsAs f fun a : Attribute => { a with type := f a.type } :=
    putsAs_reference.ofFields Attribute.type (fun a r => { a with type := r })
      (fun _ => rfl) (fun _ _ => rfl)
  have helement : PutsAs f fun e : Element => { e with type := f e.type } :=
    putsAs_reference.ofFields Element.type (fun e r => { e with type := r })
      (fun _ => rfl) (fun _ _ => rfl)
  exact (hattribute.list.pair helement.list).ofFields
    (fun c : FacetContent => (c.attributes, c.elements))
    (fun c p => { c with attributes := p.1, elements := p.2 }) (fun _ => rfl) (fun _ _ => rfl)

theorem putsAs_resource : PutsAs f (Resource.mapRefs f) := by
  have hparent : PutsAs f fun p : ParentRef => { p with resource := f p.resource } :=
    putsAs_reference.ofFields ParentRef.resource (fun p r => { p with resource := r })
      (fun _ => rfl) (fun _ _ => rfl)
  have hgroup : PutsAs f fun g : ParameterGroup => { g with facet := g.facet.map f } :=
    putsAs_reference.option.ofFields ParameterGroup.facet (fun g r => { g with facet := r })
      (fun _ => rfl) (fun _ _ => rfl)
  have hrequest : PutsAs f fun q : ActionRequest => { q with payload := q.payload.map f } :=
    putsAs_reference.option.ofFields ActionRequest.payload (fun q r => { q with payload := r })
      (fun _ => rfl) (fun _ _ => rfl)
  have hresponse : PutsAs f fun p : ActionResponse => { p with payload := p.payload.map f } :=
    putsAs_reference.option.ofFields ActionResponse.payload (fun p r => { p with payload := r })
      (fun _ => rfl) (fun _ _ => rfl)
  have haction := (hrequest.pair hresponse.list).ofFields
    (fun a : ResourceAction => (a.request, a.responses))
    (fun a p => { a with request := p.1, responses := p.2 }) (fun _ => rfl) (fun _ _ => rfl)
  exact (putsAs_reference.option.pair
      (hparent.list.pair (hgroup.list.pair haction.list))).ofFields
    (fun r : Resource => (r.businessObject, r.parents, r.parameterGroups, r.actions))
    (fun r p =>
      { r with
        businessObject := p.1, parents := p.2.1, parameterGroups := p.2.2.1
        actions := p.2.2.2 })
    (fun _ => rfl) (fun _ _ => rfl)

theorem putsAs_service : PutsAs f (Service.mapRefs f) := by
  have hmessage := (putsAs_facetContent f).option
  have hoperation := (hmessage.pair (hmessage.pair hmessage)).ofFields
    (fun op : Operation => (op.request, op.response, op.notification))
    (fun op p => { op with request := p.1, response := p.2.1, notification := p.2.2 })
    (fun _ => rfl) (fun _ _ => rfl)
  exact hoperation.list.ofFields Service.operations (fun s ops => { s with operations := ops })
    (fun _ => rfl) (fun _ _ => rfl)

/-- Putting rewritten references back is rewriting them where they stand. -/
theorem putRefs_map (b : EntityBody) : putRefs b ((refs b).map f) = b.mapRefs f := by
  have hcontent := putsAs_facetContent f
  have hname : PutsAs f (Option.map f) := putsAs_reference.option
  -- the fields of each kind, in the order in which both walks meet them
  cases b with
  | simpleType t => exact congrArg (fun r => EntityBody.simpleType { t with base := r }) (hname _)
  | enumeration e =>
    exact congrArg (fun r => EntityBody.enumeration { e with extension := r }) (hname _)
  | valueWithAttributes v =>
    exact congrArg
      (fun p => EntityBody.valueWithAttributes { v with valueType := p.1, content := p.2 })
      (hname.pair hcontent (v.valueType, v.content))
  | coreObject o =>
    exact congrArg
      (fun p => EntityBody.coreObject
        { o with extension := p.1, simpleType := p.2.1, summary := p.2.2.1, detail := p.2.2.2 })
      (hname.pair (hname.pair (hcontent.pair hcontent))
        (o.extension, o.simpleType, o.summary, o.detail))
  | businessObject o =>
    exact congrArg
      (fun p => EntityBody.businessObject
        { o with extension := p.1, id := p.2.1, summary := p.2.2.1, detail := p.2.2.2 })
      (hname.pair (hcontent.pair (hcontent.pair hcontent))
        (o.extension, o.id, o.summary, o.detail))
  | choiceObject o =>
    exact congrArg (fun p => EntityBody.choiceObject { o with extension := p.1, shared := p.2 })
      (hname.pair hcontent (o.extension, o.shared))
  | contextualFacet x =>
    exact congrArg (fun p => EntityBody.contextualFacet { x with owner := p.1, content := p.2 })
      (putsAs_reference.pair hcontent (x.owner, x.content))
  | extensionPointFacet x =>
    exact congrArg
      (fun p => EntityBody.extensionPointFacet { x with extended := p.1, content := p.2 })
      (putsAs_reference.pair hcontent (x.extended, x.content))
  | resource r => exact congrArg EntityBody.resource (putsAs_resource f r)
  | service s => exact congrArg EntityBody.service (putsAs_service f s)

end

namespace EntityBody

/-! ## Bound bodies -/

/-- A body with every target taken away, and all else as it is. -/
def withoutTargets (b : EntityBody) : EntityBody :=
  b.mapRefs fun r => .unbound r.name

theorem declared_eq_withoutTargets (b : EntityBody) : b.declared = b.withoutTargets :=
  putRefs_map _ b

/-- Binding changes targets only. -/
theorem withoutTargets_assign {b : EntityBody} {targets : List (Option Symbol)}
    (h : targets.length = (refs b).length) :
    (b.assign targets).withoutTargets = b.withoutTargets := by
  rw [← declared_eq_withoutTargets, ← declared_eq_withoutTargets, declared_assign h]

/-- Rewriting every reference to itself changes nothing. -/
theorem mapRefs_id (b : EntityBody) : b.mapRefs (fun r => r) = b := by
  have hcontent : FacetContent.mapRefs (fun r => r) = id := by
    funext c
    simp [FacetContent.mapRefs]
  cases b with
  | resource r => simp [mapRefs, Resource.mapRefs]
  | service s => simp [mapRefs, Service.mapRefs, hcontent]
  | _ => simp [mapRefs, hcontent]

theorem names_assign {b : EntityBody} {targets : List (Option Symbol)}
    (h : targets.length = (refs b).length) :
    (refs (b.assign targets)).map Reference.name = (refs b).map Reference.name := by
  rw [refs_assign h, ← List.map_uncurry_zip_eq_zipWith, List.map_map]
  rw [← length_refNames] at h
  exact List.map_fst_zip h.ge

theorem targets_assign {b : EntityBody} {targets : List (Option Symbol)}
    (h : targets.length = (refs b).length) :
    (refs (b.assign targets)).map Reference.target = targets := by
  rw [refs_assign h, ← List.map_uncurry_zip_eq_zipWith, List.map_map]
  rw [← length_refNames] at h
  exact List.map_snd_zip h.le

/-- A body is bound to the targets that it has. -/
theorem assign_targets (b : EntityBody) : b.assign ((refs b).map Reference.target) = b := by
  have hsame : (refs b).zipWith (fun r t => { r with target := t })
      ((refs b).map Reference.target) = (refs b).map fun r => r := by
    rw [List.zipWith_map_right, List.zipWith_self]
  rw [assign, hsame, putRefs_map, mapRefs_id]

/-- What a body is without its targets and the targets determine it. -/
theorem eq_assign {b b' : EntityBody} (h : b'.withoutTargets = b.withoutTargets) :
    b' = b.assign ((refs b').map Reference.target) := by
  rw [← declared_eq_withoutTargets, ← declared_eq_withoutTargets] at h
  rw [← assign_congr h (List.length_map _), assign_targets]

end EntityBody

namespace Model

/-! ## A refresh -/

/-- Binding writes each target to its own reference. For every body of every kind and as many
targets as it has references, the bound body has the same names in the same order, exactly
these targets, and is otherwise unchanged; no other body is so. A refresh binds every entity in
this way: each reference gets what it resolves to itself, and nothing else of the entity
changes. -/
theorem references_bound_in_place :
    (∀ (b : EntityBody) (targets : List (Option Symbol)), targets.length = (refs b).length →
      (refs (b.assign targets)).map Reference.name = (refs b).map Reference.name ∧
      (refs (b.assign targets)).map Reference.target = targets ∧
      (b.assign targets).withoutTargets = b.withoutTargets ∧
      ∀ b' : EntityBody, b'.withoutTargets = b.withoutTargets →
        (refs b').map Reference.target = targets → b' = b.assign targets) ∧
    ∀ (cs : List Change) (id : EntityId) (e : NamedEntity), (run cs).entity? id = some e →
      ∃ l body, (run cs).owner? id = some l ∧
        (run (cs ++ [.refresh])).entity? id = some { e with body } ∧
        body.withoutTargets = e.body.withoutTargets ∧
        refs body = (refs e.body).map fun r =>
          { name := r.name, target := (run cs).resolve (run cs).buildSymbols.1 l id r } := by
  refine ⟨fun b targets h => ⟨EntityBody.names_assign h, EntityBody.targets_assign h,
    EntityBody.withoutTargets_assign h, ?_⟩, ?_⟩
  · rintro b' hframe rfl
    exact EntityBody.eq_assign hframe
  · intro cs id e he
    have hm := wellFormed_run cs
    obtain ⟨l, hl, -⟩ := hm.owner?_eq he
    refine ⟨l, ((run cs).bindEntity (run cs).buildSymbols.1 e).body, hl, ?_, ?_, ?_⟩
    · rw [run_append]
      show (run cs).refresh.1.entity? id = _
      rw [entity?_refresh, he]
      rfl
    · exact EntityBody.withoutTargets_assign (length_bindings hm _ he)
    · exact refs_bindEntity hm _ he hl

/-- A service whose first operation has a request and a notification, and whose second has a
response only. -/
def callsBody : EntityBody :=
  let coded (type : String) : Attribute :=
    { name := "code", type := .unbound type, mandatory := false, documentation := none }
  let listed (type : String) : Element :=
    { name := "line", type := .unbound type, mandatory := true, maxRepeat := 2, unbounded := false
      byReference := false, documentation := none }
  .service
    { operations :=
        [ { name := "Create"
            request := some { attributes := [coded "Code"], elements := [listed "Order"] }
            response := none
            notification := some { elements := [listed "Order_Summary"] } },
          { name := "Find", request := none
            response := some { attributes := [coded "Code"] }, notification := none } ] }

/-- The service in a library with a type and an object that it refers to. -/
def callsRun : List Change :=
  [.add (sampleLibrary "Orders" (some "urn:orders") [])
    [sampleMember "Calls" callsBody, sampleMember "Code" (.simpleType {}),
      sampleMember "Order" (.coreObject default)]]

/-- Four targets go to the four references of the service, in order, also where a name comes
twice. A refresh of the library binds each reference to what its own name stands for. -/
theorem callsRun_in_place :
    let targets := [some (.entity ⟨7⟩), none, some (.aliasOf ⟨4⟩ 1), some (.entity ⟨9⟩)]
    targets.length = (refs callsBody).length ∧
      (refs (callsBody.assign targets)).map Reference.target = targets ∧
      (callsBody.assign targets).withoutTargets = callsBody.withoutTargets ∧
      ∃ e, (run (callsRun ++ [.refresh])).entity? ⟨0⟩ = some e ∧
        refs e.body = [⟨"Code", some (.entity ⟨1⟩)⟩, ⟨"Order", some (.entity ⟨2⟩)⟩,
          ⟨"Order_Summary", some (.facet ⟨2⟩ .summary)⟩, ⟨"Code", some (.entity ⟨1⟩)⟩] := by
  intro targets
  have hlength : targets.length = (refs callsBody).length := by decide
  obtain ⟨-, htargets, hframe, -⟩ := references_bound_in_place.1 callsBody targets hlength
  let calls : NamedEntity :=
    { id := ⟨0⟩, library := ⟨0⟩, name := "Calls", documentation := none, body := callsBody }
  have hcalls : (run callsRun).entity? ⟨0⟩ = some calls := by decide +kernel
  obtain ⟨l, body, hl, hbody, -, hrefs⟩ := references_bound_in_place.2 callsRun ⟨0⟩ calls hcalls
  refine ⟨hlength, htargets, hframe, _, hbody, hrefs.trans ?_⟩
  -- what the names stand for is computed in the library that declares them
  have howner : (run callsRun).owner? ⟨0⟩ =
      some { sampleLibrary "Orders" (some "urn:orders") [] with
        id := ⟨0⟩, members := [⟨0⟩, ⟨1⟩, ⟨2⟩] } := by
    decide +kernel
  rw [howner, Option.some.injEq] at hl
  rw [← hl]
  decide +kernel

end Model

end TravelModel
