import TravelModel.Proofs.JsonDefinitions

/-!
# TravelModel — JSON documents define what they refer to

The document of a resource finds its own scope: all that the resource reaches. So
do its operations, whose payloads are references of the resource, and whose
parameters are fields of facets that the resource or a parent of it draws from.

Main results:

* `schemaIn_operations` — the operations of a resource refer to what it reaches.
* `mem_apiMembers` — the definitions of a document are those of all user types that
  the resource reaches.
* `json_references_defined` — every `$ref` of a document of a library or of a
  resource leads to a definition of what it is bound to, unless that is a resource or a
  service.
-/

namespace TravelModel

/-- Where a form has its definitions. -/
def ApiForm.place : ApiForm → List String
  | openApi => ["components", "schemas"]
  | swagger => ["definitions"]

namespace GenerationContext

open Json JsonSchema Model

variable {c : GenerationContext}

/-! ## Operations of a resource -/

theorem mem_refs_resource {x : Resource} {r : Reference} :
    r ∈ refs (EntityBody.resource x) ↔ r ∈ refs x.businessObject ∨ r ∈ refs x.parents ∨
      r ∈ refs x.parameterGroups ∨ r ∈ refs x.actions := by
  show r ∈ refs (x.businessObject, x.parents, x.parameterGroups, x.actions) ↔ _
  rw [mem_refs_pair, mem_refs_pair, mem_refs_pair]

section

variable {e : NamedEntity} {r : Resource}

theorem needs_of_request (he : c.model.entity? e.id = some e) (hbody : e.body = .resource r)
    {a : ResourceAction} (ha : a ∈ r.actions) {p : Reference} (hp : a.request.payload = some p) :
    c.model.Needs e.id p := by
  refine needs_of_mem he ?_
  rw [hbody, mem_refs_resource]
  refine Or.inr (Or.inr (Or.inr (mem_refs_list.mpr ⟨a, ha, mem_refs_pair.mpr (Or.inl ?_)⟩)))
  exact mem_refs_option.mpr ⟨p, hp, mem_refs_reference.mpr rfl⟩

theorem needs_of_response (he : c.model.entity? e.id = some e) (hbody : e.body = .resource r)
    {a : ResourceAction} (ha : a ∈ r.actions) {x : ActionResponse} (hx : x ∈ a.responses)
    {p : Reference} (hp : x.payload = some p) : c.model.Needs e.id p := by
  refine needs_of_mem he ?_
  rw [hbody, mem_refs_resource]
  refine Or.inr (Or.inr (Or.inr (mem_refs_list.mpr ⟨a, ha, mem_refs_pair.mpr (Or.inr ?_)⟩)))
  exact mem_refs_list.mpr ⟨x, hx, mem_refs_option.mpr ⟨p, hp, mem_refs_reference.mpr rfl⟩⟩

/-- The content a parameter group draws from is needed by the resource. -/
theorem needs_of_groupContent? (he : c.model.entity? e.id = some e) (hbody : e.body = .resource r)
    {g : ParameterGroup} (hg : g ∈ r.parameterGroups) {content : FacetContent}
    (hcontent : c.groupContent? g = some content) {p : Reference} (hp : p ∈ refs content) :
    c.model.Needs e.id p := by
  obtain ⟨s, hs, hcontent⟩ := Option.bind_eq_some_iff.mp hcontent
  obtain ⟨f, hf, hs⟩ := Option.bind_eq_some_iff.mp hs
  have hreach : c.model.Reaches e.id s.owner := by
    refine reaches_of_target he (r := f) ?_ hs
    rw [hbody, mem_refs_resource]
    refine Or.inr (Or.inr (Or.inl (mem_refs_list.mpr ⟨g, hg, ?_⟩)))
    exact mem_refs_option.mpr ⟨f, hf, mem_refs_reference.mpr rfl⟩
  refine hreach.needs ?_
  cases s with
  | facet owner kind =>
    obtain rfl := Option.some.inj hcontent
    exact needs_of_facetContent hp
  | ghost owner source => cases hcontent
  | _ =>
    obtain ⟨o, -, hcontent⟩ := Option.bind_eq_some_iff.mp hcontent
    obtain rfl := Option.some.inj hcontent
    exact needs_of_facetContent hp

theorem mem_refs_of_fieldType? {content : FacetContent} {field : String} {p : Reference}
    (h : fieldType? content field = some p) : p ∈ refs content := by
  rw [FacetContent.mem_refs]
  rcases Option.or_eq_some_iff.mp h with h | ⟨-, h⟩
  · obtain ⟨a, ha, rfl⟩ := Option.map_eq_some_iff.mp h
    exact Or.inl ⟨a, List.mem_of_find?_eq_some ha, rfl⟩
  · obtain ⟨x, hx, rfl⟩ := Option.map_eq_some_iff.mp h
    exact Or.inr ⟨x, List.mem_of_find?_eq_some hx, rfl⟩

theorem refsIn_namedParameters (hm : c.model.Settled) (form : ApiForm)
    (he : c.model.entity? e.id = some e) (hbody : e.body = .resource r) (group : Option String) :
    ∀ j ∈ c.namedParameters form r group, j.RefsIn (c.RefersFrom form.style e.id) := by
  intro j hj
  cases hgroup : group.bind r.group? with
  | none =>
    rw [namedParameters, hgroup] at hj
    exact absurd hj List.not_mem_nil
  | some g =>
    rw [namedParameters, hgroup] at hj
    obtain ⟨p, -, rfl⟩ := List.mem_map.mp hj
    obtain ⟨name, -, hfind⟩ := Option.bind_eq_some_iff.mp hgroup
    have hg : g ∈ r.parameterGroups := List.mem_of_find?_eq_some hfind
    have hschema : (c.fieldSchema form g p.fieldName).SchemaIn (c.RefersFrom form.style e.id) := by
      rw [fieldSchema]
      split
      · exact schemaIn_ofType _
      · next t ht =>
        obtain ⟨content, hcontent, ht⟩ := Option.bind_eq_some_iff.mp ht
        dsimp only
        split
        · exact schemaIn_ofType _
        · exact schemaIn_typeSchema hm _
            (needs_of_groupContent? he hbody hg hcontent (mem_refs_of_fieldType? ht))
    cases form with
    | openApi => exact refsIn_object (by simp [hschema.2])
    | swagger =>
      -- two fields of the schema are taken over
      have htype : (((c.fieldSchema .swagger g p.fieldName).field? "type").getD
          (.str "string")).RefsIn (c.RefersFrom ApiForm.swagger.style e.id) := by
        cases hv : (c.fieldSchema .swagger g p.fieldName).field? "type" with
        | none => exact refsIn_str _
        | some v => exact refsIn_field? hschema.2 hv
      refine refsIn_object (List.forall_mem_append.mpr ⟨by simp [htype], fun f hf => ?_⟩)
      obtain ⟨v, hv, rfl⟩ := Option.map_eq_some_iff.mp (Option.mem_toList.mp hf)
      simp [refsIn_field? hschema.2 hv]

end

section

variable {P : String → Prop}

theorem refsIn_mediaContent (types : List String) {schema : Json} (h : schema.RefsIn P) :
    (mediaContent types schema).RefsIn P := by
  refine refsIn_object fun f hf => ?_
  obtain ⟨t, -, rfl⟩ := List.mem_map.mp hf
  exact entryIn_of_schemaIn (schemaIn_object (by simp [h]))

theorem schemaIn_responseObject (form : ApiForm) {x : ActionResponse} (code : Nat)
    (h : ∀ p, x.payload = some p → (c.typeSchema form.style p).RefsIn P) :
    (c.responseObject form x code).SchemaIn P := by
  refine schemaIn_object fun f hf => ?_
  rcases List.mem_cons.mp hf with rfl | hf
  · simp
  · cases hp : x.payload with
    | none =>
      rw [hp] at hf
      exact absurd hf List.not_mem_nil
    | some p =>
      rw [hp] at hf
      cases form with
      | openApi =>
        rw [List.mem_singleton.mp hf]
        simp [refsIn_mediaContent _ (h p hp)]
      | swagger =>
        rw [List.mem_singleton.mp hf]
        simp [h p hp]

theorem refsIn_responsesObject (form : ApiForm) {a : ResourceAction}
    (h : ∀ x ∈ a.responses, ∀ p, x.payload = some p → (c.typeSchema form.style p).RefsIn P) :
    (c.responsesObject form a).RefsIn P := by
  rw [responsesObject]
  split
  · have hdefault : (object [("description", str "Unexpected error")]).RefsIn P :=
      refsIn_object (by simp)
    exact refsIn_object (by simp [hdefault])
  · refine refsIn_object fun f hf => ?_
    obtain ⟨x, hx, hf⟩ := List.mem_flatMap.mp hf
    obtain ⟨code, -, rfl⟩ := List.mem_map.mp hf
    exact entryIn_of_schemaIn (schemaIn_responseObject form code (h x hx))

/-- An operation refers to no more than its payloads and parameters. -/
theorem schemaIn_operationObject (form : ApiForm) (e : NamedEntity) {a : ResourceAction}
    {parameters : List Json} (hparameters : ∀ j ∈ parameters, j.RefsIn P)
    (hrequest : ∀ p, a.request.payload = some p → (c.typeSchema form.style p).RefsIn P)
    (hresponses : ∀ x ∈ a.responses, ∀ p, x.payload = some p →
      (c.typeSchema form.style p).RefsIn P) :
    (c.operationObject form e a parameters).SchemaIn P := by
  refine schemaIn_object fun f hf => ?_
  simp only [List.mem_append, List.mem_cons, List.not_mem_nil, or_false] at hf
  rcases hf with (((rfl | rfl | rfl) | hf) | hf) | hf
  · simp
  · simp
  · simp [refsIn_responsesObject form hresponses]
  · -- the body of the request, or its media types
    cases hp : a.request.payload with
    | none =>
      rw [hp] at hf
      cases form <;> exact absurd hf List.not_mem_nil
    | some p =>
      rw [hp] at hf
      cases form with
      | openApi =>
        rw [List.mem_singleton.mp hf, entryIn_iff (by decide)]
        exact refsIn_object (by simp [refsIn_mediaContent _ (hrequest p hp)])
      | swagger =>
        rw [List.mem_singleton.mp hf]
        simp
  · rw [List.mem_singleton.mp (List.mem_ite_nil_left.mp hf).2, entryIn_iff (by decide)]
    refine refsIn_arr.mpr fun j hj => ?_
    rcases List.mem_append.mp hj with hj | hj
    · exact hparameters j hj
    · -- the body is a parameter in one form
      cases hp : a.request.payload with
      | none =>
        rw [hp] at hj
        cases form <;> exact absurd hj List.not_mem_nil
      | some p =>
        rw [hp] at hj
        cases form with
        | openApi => exact absurd hj List.not_mem_nil
        | swagger =>
          rw [List.mem_singleton.mp hj]
          exact refsIn_object (by simp [hrequest p hp])
  · split at hf
    · rw [List.mem_singleton.mp hf]
      simp
    · exact absurd hf List.not_mem_nil

end

section

variable {e : NamedEntity} {r : Resource}

/-- The parameters of a path are those of a group of a parent. -/
theorem refsIn_pathPrefixes (hm : c.model.Settled) (form : ApiForm)
    (he : c.model.entity? e.id = some e) (hbody : e.body = .resource r) :
    ∀ p ∈ c.pathPrefixes form r, ∀ j ∈ p.2, j.RefsIn (c.RefersFrom form.style e.id) := by
  intro p hp j hj
  rcases List.mem_append.mp hp with hp | hp
  · split at hp
    · rw [List.mem_singleton.mp hp] at hj
      exact absurd hj List.not_mem_nil
    · exact absurd hp List.not_mem_nil
  · obtain ⟨parent, hparent, hp⟩ := List.mem_filterMap.mp hp
    split at hp
    · next x hx =>
      obtain ⟨o, ho, hobody⟩ := Option.map_eq_some_iff.mp hx
      obtain ⟨id, hid, ho⟩ := Option.bind_eq_some_iff.mp ho
      obtain ⟨s, hs, rfl⟩ := Option.map_eq_some_iff.mp hid
      obtain rfl := Option.some.inj hp
      have hoid := hm.wellFormed.entity_id ho
      have hreach : c.model.Reaches e.id o.id := by
        rw [hoid]
        refine reaches_of_target he (r := parent.resource) ?_ hs
        rw [hbody, mem_refs_resource]
        exact Or.inr (Or.inl (mem_refs_list.mpr ⟨parent, hparent, mem_refs_reference.mpr rfl⟩))
      refine (refsIn_namedParameters hm form (hoid ▸ ho) hobody _ j hj).mono ?_
      exact fun text => RefersFrom.trans hreach
    · cases hp

theorem schemaIn_operations (hm : c.model.Settled) (form : ApiForm)
    (he : c.model.entity? e.id = some e) (hbody : e.body = .resource r) :
    ∀ op ∈ c.operations form e r, op.2.2.SchemaIn (c.RefersFrom form.style e.id) := by
  intro op hop
  obtain ⟨p, hp, hop⟩ := List.mem_flatMap.mp hop
  obtain ⟨a, ha, rfl⟩ := List.mem_map.mp hop
  refine schemaIn_operationObject form e (fun j hj => ?_) ?_ ?_
  · rcases List.mem_append.mp hj with hj | hj
    · exact refsIn_pathPrefixes hm form he hbody p hp j hj
    · exact refsIn_namedParameters hm form he hbody _ j hj
  · exact fun q hq => (schemaIn_typeSchema hm _ (needs_of_request he hbody ha hq)).2
  · exact fun x hx q hq => (schemaIn_typeSchema hm _ (needs_of_response he hbody ha hx hq)).2

/-- A table of operations by path and method, with one more operation. -/
def addOperation (table : Keyed (Keyed Json)) (op : String × String × Json) :
    Keyed (Keyed Json) :=
  table.insert op.1 (((table.find? op.1).getD []).insert op.2.1 op.2.2)

/-- What holds of the operations of a table and of one more holds of all. -/
theorem forall_mem_addOperation {P : Json → Prop} {table : Keyed (Keyed Json)}
    {op : String × String × Json} (htable : ∀ p ∈ table, ∀ q ∈ p.2, P q.2) (hop : P op.2.2) :
    ∀ p ∈ addOperation table op, ∀ q ∈ p.2, P q.2 := by
  intro p hp q hq
  rcases Keyed.mem_insert hp with rfl | hp
  · rcases Keyed.mem_insert hq with rfl | hq
    · exact hop
    · -- another method of the same path was in the table before
      cases hfind : table.find? op.1 with
      | none =>
        rw [hfind] at hq
        exact absurd hq List.not_mem_nil
      | some methods =>
        rw [hfind] at hq
        exact htable _ (Keyed.mem_of_find? hfind) q hq
  · exact htable p hp q hq

theorem forall_mem_foldl_addOperation {P : Json → Prop} {ops : List (String × String × Json)}
    {table : Keyed (Keyed Json)} (htable : ∀ p ∈ table, ∀ q ∈ p.2, P q.2)
    (hops : ∀ op ∈ ops, P op.2.2) :
    ∀ p ∈ ops.foldl addOperation table, ∀ q ∈ p.2, P q.2 := by
  induction ops generalizing table with
  | nil => exact htable
  | cons op rest ih =>
    exact ih (forall_mem_addOperation htable (hops op List.mem_cons_self))
      fun op' h => hops op' (List.mem_cons_of_mem _ h)

theorem refsIn_pathsObject (hm : c.model.Settled) (form : ApiForm)
    (he : c.model.entity? e.id = some e) (hbody : e.body = .resource r) :
    (c.pathsObject form e r).RefsIn (c.RefersFrom form.style e.id) := by
  refine refsIn_obj.mpr fun f hf => ?_
  obtain ⟨p, hp, rfl⟩ := List.mem_map.mp hf
  refine entryIn_of_schemaIn ⟨⟨_, rfl⟩, refsIn_obj.mpr fun q hq => entryIn_of_schemaIn ?_⟩
  exact forall_mem_foldl_addOperation (fun p hp => absurd hp List.not_mem_nil)
    (schemaIn_operations hm form he hbody) p hp q hq

end

/-! ## Documents of resources -/

/-- The entities whose definitions a resource brings along. -/
def apiMembers (c : GenerationContext) (e : NamedEntity) : List NamedEntity :=
  ((Scope.build c.model [e.id] none).entities.filterMap c.model.entity?).filter fun m =>
    m.kind ≠ .resource && m.kind ≠ .service && !c.isBuiltIn m.id

/-- The definitions that a resource brings along. -/
def apiDefinitions (c : GenerationContext) (form : ApiForm) (e : NamedEntity) :
    List (String × Json) :=
  (c.apiMembers e).flatMap (c.definitions form.style)

theorem apiSchemas_eq (h : c.registry = .standard) (form : ApiForm) (e : NamedEntity) :
    c.apiSchemas form e = .ok (c.apiDefinitions form e) := by
  rw [apiSchemas, mapM_eq_ok fun o _ => registeredDefinitions_eq h form.style o]
  rfl

/-- An entity that is a resource and not abstract. -/
def concreteResource? (e : NamedEntity) : Option (NamedEntity × Resource) :=
  match e.body with
  | .resource r => if r.isAbstract then none else some (e, r)
  | _ => none

/-- The resources that have a document. -/
def apiResources (c : GenerationContext) : List (NamedEntity × Resource) :=
  c.order.flatMap fun id => (c.emittedEntities id).flatMap fun e => (concreteResource? e).toList

/-- The document of a resource. -/
def apiDocument (c : GenerationContext) (form : ApiForm) (d : NamedEntity × Resource) : Json :=
  c.apiObject form d.1 d.2 (c.apiDefinitions form d.1)

/-- The file of a resource with its document. -/
def apiOutput (c : GenerationContext) (form : ApiForm) (d : NamedEntity × Resource) :
    OutputFile :=
  { path := d.1.name ++ form.ending, format := form.format
    contents := documentText (c.apiDocument form d) }

theorem apiFile_eq (h : c.registry = .standard) (form : ApiForm) (e : NamedEntity) :
    c.apiFile form e = .ok ((concreteResource? e).toList.map (c.apiOutput form)) := by
  rw [apiFile, concreteResource?]
  cases e.body with
  | resource r =>
    dsimp only
    split
    · rfl
    · rw [apiSchemas_eq h]
      rfl
  | _ => rfl

theorem registeredApi_eq (h : c.registry = .standard) (form : ApiForm) (e : NamedEntity) :
    c.registeredApi form e = .ok ((concreteResource? e).toList.map (c.apiOutput form)) := by
  rw [registeredApi, apiFile_eq h, h, NamedEntity.kind, concreteResource?]
  cases e.body <;> cases form <;> rfl

theorem apiFiles_eq (hc : c.Closed) (form : ApiForm) :
    c.apiFiles form = .ok (c.apiResources.map (c.apiOutput form)) := by
  rw [apiFiles, mapM_eq_ok (g := fun id => (c.emittedEntities id).map fun e =>
    (concreteResource? e).toList.map (c.apiOutput form))]
  · rw [apiResources, List.map_flatMap]
    simp only [List.map_flatMap]
    show Except.ok _ = Except.ok _
    rw [List.flatten_flatten, List.map_map]
    rfl
  · intro id _
    rw [checkCancelled, hc.running, mapM_eq_ok fun e _ => registeredApi_eq hc.registry form e]
    rfl

theorem mem_apiResources (hm : c.model.WellFormed) {e : NamedEntity} {r : Resource}
    (h : (e, r) ∈ c.apiResources) :
    c.model.entity? e.id = some e ∧ e.body = .resource r := by
  obtain ⟨id, -, h⟩ := List.mem_flatMap.mp h
  obtain ⟨e', he', h⟩ := List.mem_flatMap.mp h
  rw [Option.mem_toList, concreteResource?] at h
  split at h
  · next r' hbody =>
    split at h
    · cases h
    · obtain ⟨rfl, rfl⟩ := Prod.mk.inj (Option.some.inj h)
      exact ⟨((mem_emittedEntities hm).mp he').1, hbody⟩
  · cases h

theorem mem_apiMembers (hm : c.model.WellFormed) {e o : NamedEntity}
    (he : c.model.entity? e.id = some e) :
    o ∈ c.apiMembers e ↔ c.model.entity? o.id = some o ∧ c.model.Reaches e.id o.id ∧
      ¬ HasNoTypes o ∧ c.isBuiltIn o.id = false := by
  rw [apiMembers, List.mem_filter, List.mem_filterMap, HasNoTypes, not_or]
  simp only [Bool.and_eq_true, decide_eq_true_eq, Bool.not_eq_true', and_assoc]
  constructor
  · rintro ⟨⟨id, hid, ho⟩, hkinds⟩
    have hoid := hm.entity_id ho
    obtain ⟨-, x, hx, -, hpath⟩ := (Scope.mem_entities_build hm).mp hid
    rw [List.mem_singleton.mp hx] at hpath
    subst hoid
    exact ⟨ho, hpath, hkinds⟩
  · rintro ⟨ho, hpath, hkinds⟩
    refine ⟨⟨o.id, (Scope.mem_entities_build hm).mpr ?_, ho⟩, hkinds⟩
    exact ⟨⟨o, ho⟩, e.id, List.mem_singleton_self _, ⟨e, he⟩, hpath⟩

theorem entryIn_serverEntries {P : String → Prop} (form : ApiForm) (url : Url) :
    ∀ f ∈ serverEntries form url, EntryIn P f := by
  intro f hf
  cases form with
  | openApi =>
    have hserver : (object [("url", str url.text)]).RefsIn P := refsIn_object (by simp)
    rw [List.mem_singleton.mp hf]
    simp [refsIn_arr, hserver]
  | swagger =>
    simp only [serverEntries, List.mem_append, List.mem_cons, List.not_mem_nil, or_false,
      Option.mem_toList, Option.map_eq_some_iff] at hf
    rcases hf with ⟨host, -, rfl⟩ | rfl | rfl
    · simp
    · simp
    · simp

/-- A document of a resource refers to what its operations and its definitions
refer to. -/
theorem refsIn_apiObject {P : String → Prop} (form : ApiForm) (e : NamedEntity) (r : Resource)
    {schemas : List (String × Json)} (hpaths : (c.pathsObject form e r).RefsIn P)
    (hschemas : ∀ d ∈ schemas, d.2.SchemaIn P) :
    (c.apiObject form e r schemas).RefsIn P := by
  have hdefinitions : (object schemas).RefsIn P :=
    refsIn_object fun d hd => entryIn_of_schemaIn (hschemas d hd)
  refine refsIn_object fun f hf => ?_
  simp only [List.mem_append, List.mem_cons, List.not_mem_nil, or_false] at hf
  rcases hf with ((rfl | rfl) | hf) | hf
  · rw [entryIn_iff (by decide)]
    refine refsIn_object (List.forall_mem_append.mpr ⟨by simp, fun f hf => ?_⟩)
    obtain ⟨doc, -, rfl⟩ := Option.map_eq_some_iff.mp (Option.mem_toList.mp hf)
    simp
  · simp [hpaths]
  · cases hbase : c.options.resourceBaseUrl.bind fun u => (Url.parse u).toOption with
    | none =>
      rw [hbase] at hf
      exact absurd hf List.not_mem_nil
    | some url =>
      rw [hbase] at hf
      exact entryIn_serverEntries form url f hf
  · cases form with
    | openApi =>
      simp only [List.mem_cons, List.not_mem_nil, or_false] at hf
      rcases hf with rfl | rfl
      · simp
      · rw [entryIn_iff (by decide)]
        exact refsIn_object (by simp [hdefinitions])
    | swagger =>
      simp only [List.mem_cons, List.not_mem_nil, or_false] at hf
      rcases hf with rfl | rfl
      · simp
      · simp [hdefinitions]

theorem jsonReference_style (form : ApiForm) (id : EntityId) (name : String) :
    c.jsonReference form.style id name = pathText (form.place ++ [name]) := by
  cases form with
  | openApi =>
    exact congrArg (· ++ name)
      (by decide : "#/components/schemas/" = "#" ++ "/" ++ "components" ++ "/" ++ "schemas" ++ "/")
  | swagger => exact (pathText_definitions name).symm

/-- Where a service is found is not said under the name of the definitions. -/
theorem notMem_serverEntries (form : ApiForm) (url : Url) (j : Json) :
    ("components", j) ∉ serverEntries form url ∧ ("definitions", j) ∉ serverEntries form url := by
  cases form with
  | openApi => simp [serverEntries]
  | swagger => simp [serverEntries]

/-- The definitions of a document are found at their place. -/
theorem at?_apiObject (form : ApiForm) (e : NamedEntity) (r : Resource)
    (schemas : List (String × Json)) (rest : List String) :
    (c.apiObject form e r schemas).at? (form.place ++ rest) = (object schemas).at? rest := by
  unfold apiObject
  -- whatever the address of the service is, its entries have other names
  generalize c.options.resourceBaseUrl.bind (fun u => (Url.parse u).toOption) = base
  cases form with
  | openApi =>
    rw [ApiForm.place, List.cons_append, at?_object (j := object [("schemas", object schemas)]),
      List.cons_append, at?_object (j := object schemas), List.nil_append]
    · exact List.mem_cons_self
    · simp
    · simp
    · cases base with
      | none => simp
      | some url => simp [(notMem_serverEntries .openApi url _).1]
  | swagger =>
    rw [ApiForm.place, List.cons_append, at?_object (j := object schemas), List.nil_append]
    · simp
    · cases base with
      | none => simp
      | some url => simp [(notMem_serverEntries .swagger url _).2]

theorem isSome_at?_apiObject (form : ApiForm) (e : NamedEntity) (r : Resource)
    {schemas : List (String × Json)} {name : String} (h : name ∈ schemas.map Prod.fst) :
    ((c.apiObject form e r schemas).at? (form.place ++ [name])).isSome := by
  rw [at?_apiObject, isSome_at?_object]
  exact h

/-- A `$ref` in a document of a resource leads to a definition of an entity in the
document itself. The text is the pointer to it if and only if the name can stand in a
pointer as it is. -/
def DefinedWithin (c : GenerationContext) (form : ApiForm) (document : Json) (o : NamedEntity)
    (text : String) : Prop :=
  ∃ name, text = pathText (form.place ++ [name]) ∧
    name ∈ (c.definitions form.style o).map Prod.fst ∧
    (document.at? (form.place ++ [name])).isSome ∧
    (IsPointerTo (pathText (form.place ++ [name])) (form.place ++ [name]) ↔ Unescaped name)

theorem definedWithin_of_writes (hm : c.model.Settled) (form : ApiForm) {e : NamedEntity}
    (he : c.model.entity? e.id = some e) (x : Resource) {r : Reference}
    (hr : c.model.Needs e.id r) {o : NamedEntity} {text : String}
    (h : c.Writes form.style r o text) (htyped : ¬ HasNoTypes o) :
    c.DefinedWithin form (c.apiDocument form (e, x)) o text := by
  obtain ⟨ho, hpath, type, rfl, hdefined⟩ := h.exists_type hm hr
  have hname := hdefined htyped form.style
  have hmember := (mem_apiMembers hm.wellFormed he).mpr ⟨ho, hpath, htyped, h.user⟩
  refine ⟨type, jsonReference_style form o.id type, hname, isSome_at?_apiObject form e x ?_,
    isPointerTo_concat_iff _ (by cases form <;> decide)⟩
  obtain ⟨d, hd, hname⟩ := List.mem_map.mp hname
  exact List.mem_map.mpr ⟨d, List.mem_flatMap.mpr ⟨o, hmember, hd⟩, hname⟩

/-- References in JSON documents lead to definitions. Let the scope be that of some
roots in a refreshed model, without a global scope. Every `$ref` of the document of a
library is written for a reference that an entity of the library needs, and of a
document of a resource for one that the resource needs. Every needed reference that is
written so leads to a definition of the entity that it is bound to: in the file of the
library in scope that it names, or in the document itself if it names none, and for a
resource always in the document itself. Only references that are bound to a resource or
a service may lead nowhere. -/
theorem json_references_defined (cs : List Change) (roots : List EntityId)
    (options : GenerationOptions) :
    let m := run (cs ++ [.refresh])
    let c := ({ model := m } : Generator).context options (Scope.build m roots none) false
    (c.jsonFiles = .ok ((c.libraryFiles .jsonSchema).map c.jsonFile) ∧
      ∀ d ∈ c.libraryFiles .jsonSchema,
        (∀ e ∈ c.emittedEntities d.1.id, ∀ x ∈ c.definitions (.library d.1.id) e,
          x.2.RefsIn (c.Answered (.library d.1.id) (m.Needs e.id) (c.DefinedByFile d.1))) ∧
        (c.jsonDocument d.1).RefsIn (c.Answered (.library d.1.id)
          (fun r => ∃ e ∈ c.emittedEntities d.1.id, m.Needs e.id r) (c.DefinedByFile d.1))) ∧
    ∀ form, c.apiFiles form = .ok (c.apiResources.map (c.apiOutput form)) ∧
      ∀ d ∈ c.apiResources,
        (c.apiDocument form d).RefsIn (c.Answered form.style (m.Needs d.1.id)
          (c.DefinedWithin form (c.apiDocument form d))) := by
  intro m c
  have hc : c.Closed := closed_context cs roots options
  have hm := hc.settled.wellFormed
  refine ⟨⟨jsonFiles_eq hc, ?_⟩, fun form => ⟨apiFiles_eq hc form, ?_⟩⟩
  · rintro ⟨l, path⟩ -
    have hschemas : ∀ e ∈ c.emittedEntities l.id, ∀ x ∈ c.definitions (.library l.id) e,
        x.2.SchemaIn (c.RefersFrom (.library l.id) e.id) := fun e he =>
      schemaIn_definitions hc.settled _ ((mem_emittedEntities hm).mp he).1
    refine ⟨fun e he x hx text htext => ?_, refsIn_jsonDocument fun x hx => ?_⟩
    · exact ⟨(hschemas e he x hx).2 text htext, fun r o hr => definedByFile_of_writes hc he hr⟩
    · obtain ⟨e, he, hx⟩ := List.mem_flatMap.mp hx
      refine (hschemas e he x hx).mono fun text hrefers => ⟨?_, ?_⟩
      · obtain ⟨r, o, hr, hwrites⟩ := hrefers
        exact ⟨r, o, ⟨e, he, hr⟩, hwrites⟩
      · rintro r o ⟨e', he', hr⟩
        exact definedByFile_of_writes hc he' hr
  · rintro ⟨e, x⟩ hd
    obtain ⟨he, hbody⟩ := mem_apiResources hm hd
    refine (refsIn_apiObject form e x (refsIn_pathsObject hc.settled form he hbody) ?_).mono
      fun text hrefers => ⟨hrefers, fun r o hr => definedWithin_of_writes hc.settled form he x hr⟩
    -- the definitions of what the resource reaches refer to what it reaches
    intro y hy
    obtain ⟨o, ho, hy⟩ := List.mem_flatMap.mp hy
    obtain ⟨hlive, hpath, -⟩ := (mem_apiMembers hm he).mp ho
    exact (schemaIn_definitions hc.settled _ hlive y hy).mono fun text => RefersFrom.trans hpath

end GenerationContext

end TravelModel
