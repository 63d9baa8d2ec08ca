import TravelModel.Proofs.JsonClosure
import TravelModel.Proofs.NameClashes
import TravelModel.Proofs.SchemaAgreement

/-!
# TravelModel — schemas in the documents of resources

The document of a resource has one section for the definitions of all that the resource
reaches, from whatever library. They are put there under the names of their types, and
the last one under a name stays. Within a namespace the names of types are watched over;
between namespaces they are not, so two libraries that know nothing of each other can
each have a type of one name, and one of the two is lost.

Main results:

* `names_definitionOrigins` — where the names of definitions come from.
* `at?_apiDocument` — of the definitions with one name, the document has the last.
* `Orderly.meets_of_name` — how two definitions of a document can have one name.
* `api_schemas_kept_iff` — what the document of a resource has of the definitions.
-/

namespace TravelModel

namespace GenerationContext

open Json JsonSchema Model Xsd

/-! ## Names of definitions -/

section

variable (c : GenerationContext) (e : NamedEntity)

/-- Where the names of the definitions of an entity come from: an enumeration has one,
and any other entity one for each of its types. -/
def definitionOrigins : List NameOrigin :=
  match e.body with
  | .enumeration _ => [ownName e ""]
  | _ => ((c.schemaOrigins e).filter fun o => o.1 = .type).map Prod.snd

theorem typeNames_eq (ks : List Component) :
    typeNames ks = ((ks.map Component.signature).filter fun o => o.1 = .type).map Prod.snd := by
  rw [typeNames, List.filter_map, List.map_map]
  rfl

theorem names_definitionOrigins (style : RefStyle) :
    (c.definitionOrigins e).map NameOrigin.name = (c.definitions style e).map Prod.fst := by
  have htypes := typeNames_components c style e
  rw [typeNames_eq, signatures_components, List.filter_map, List.map_map] at htypes
  rw [definitionOrigins]
  cases hbody : e.body with
  | enumeration x => simp [definitions, hbody]
  | _ =>
    rw [helperTypes, hbody, List.nil_append] at htypes
    rw [← htypes, List.map_map]
    rfl

/-- The names of definitions are names of types. -/
theorem sublist_definitionOrigins :
    ((c.definitionOrigins e).map (Prod.mk ComponentSort.type)).Sublist (c.schemaOrigins e) := by
  have hfilter : ∀ os : List (ComponentSort × NameOrigin),
      (((os.filter fun o => o.1 = .type).map Prod.snd).map (Prod.mk ComponentSort.type)).Sublist
        os := by
    intro os
    have hsame : ((os.filter fun o => o.1 = .type).map Prod.snd).map
        (Prod.mk ComponentSort.type) = os.filter fun o => o.1 = .type := by
      rw [List.map_map]
      refine List.map_congr_left (fun o ho => ?_) |>.trans (List.map_id _)
      exact Prod.ext (of_decide_eq_true (List.mem_filter.mp ho).2).symm rfl
    rw [hsame]
    exact List.filter_sublist
  rw [definitionOrigins]
  cases hbody : e.body with
  | enumeration x =>
    rw [schemaOrigins, hbody]
    dsimp only
    -- the base of an open enumeration comes first, and has no definition
    split
    · exact List.Sublist.cons _ (List.Sublist.refl _)
    · exact List.Sublist.refl _
  | _ => exact hfilter _

/-- What an entity is defined as in the document of a resource. -/
def definitionDeclarations : List Declaration :=
  (c.definitionOrigins e).map fun o => ⟨e, .type, o⟩

/-- What the entities that a resource reaches are defined as. -/
def apiDeclarations : List Declaration :=
  (c.apiMembers e).flatMap c.definitionDeclarations

theorem names_apiDeclarations (form : ApiForm) :
    (c.apiDefinitions form e).map Prod.fst =
      (c.apiDeclarations e).map fun d => d.origin.name := by
  rw [apiDefinitions, apiDeclarations, List.map_flatMap, List.map_flatMap]
  refine List.flatMap_congr fun o _ => ?_
  rw [← names_definitionOrigins, definitionDeclarations, List.map_map]
  rfl

end

variable {c : GenerationContext} {e : NamedEntity}

theorem origin_of_mem {d : Declaration} (h : d ∈ c.definitionDeclarations e) :
    d.entity = e ∧ d.sort = .type ∧ (d.sort, d.origin) ∈ c.origins e .xmlSchema := by
  obtain ⟨o, ho, rfl⟩ := List.mem_map.mp h
  exact ⟨rfl, rfl, (sublist_definitionOrigins c e).subset (List.mem_map_of_mem ho)⟩

theorem nodup_keys_definitions (c : GenerationContext) (e : NamedEntity) :
    ((c.definitionDeclarations e).filterMap declarationKey?).Nodup := by
  have hsublist := (sublist_definitionOrigins c e).filterMap originKey?
  rw [List.filterMap_map] at hsublist
  rw [definitionDeclarations, List.filterMap_map]
  exact (nodup_keys_schema c e).sublist hsublist

/-! ## Names that meet -/

/-- A resource brings along each entity once. -/
theorem nodup_apiMembers (hm : c.model.WellFormed) (e : NamedEntity) :
    (c.apiMembers e).Nodup := by
  have hentities : (Scope.build c.model [e.id] none).entities.Nodup :=
    hm.nodup_entities.sublist (List.filter_sublist.map NamedEntity.id)
  refine (hentities.filterMap fun x y o hx hy => ?_).filter _
  rw [← hm.entity_id hx, hm.entity_id hy]

theorem nodup_keys_api (hm : c.model.WellFormed) (he : c.model.entity? e.id = some e) :
    ((c.apiDeclarations e).filterMap declarationKey?).Nodup := by
  rw [apiDeclarations, List.filterMap_flatMap, List.nodup_flatMap]
  refine ⟨fun o _ => nodup_keys_definitions c o, ?_⟩
  refine (nodup_apiMembers hm e).pairwise_of_forall_ne fun o ho o' ho' hne => ?_
  -- a symbol tells the entity that owns it
  rintro ⟨sort, s, suffix⟩ hkey hkey'
  have howner : ∀ o : NamedEntity,
      (sort, s, suffix) ∈ (c.definitionDeclarations o).filterMap declarationKey? →
        s.owner = o.id := by
    intro o hkey
    obtain ⟨d, hd, hkey⟩ := List.mem_filterMap.mp hkey
    obtain ⟨-, -, horigin⟩ := origin_of_mem hd
    obtain ⟨base, hreg⟩ := registered_of_key (List.mem_filterMap.mpr ⟨_, horigin, hkey⟩)
    exact owner_of_mem_symbolNames hreg.mem
  have hlive := ((mem_apiMembers hm he).mp ho).1
  have hlive' := ((mem_apiMembers hm he).mp ho').1
  rw [← (howner o hkey), howner o' hkey', hlive', Option.some.injEq] at hlive
  exact hne hlive.symm

/-- How two definitions can have one name in the document of a resource. -/
inductive Meets (c : GenerationContext) (d d' : Declaration) : Prop
  /-- Their types can have one name in a namespace too. -/
  | clash (h : c.Clash d d')
  /-- Two symbols have one name, and no namespace shows the libraries of both. -/
  | apart {base suffix : String} {s s' : Symbol} {l l' : Library}
    (h : d.origin = .formed base s suffix) (h' : d'.origin = .formed base s' suffix)
    (hne : s ≠ s') (hl : c.model.library? d.entity.library = some l)
    (hl' : c.model.library? d'.entity.library = some l')
    (hapart : ∀ ns, ¬ (c.model.Shows ns l ∧ c.model.Shows ns l'))

theorem mem_apiDeclarations {d : Declaration} (h : d ∈ c.apiDeclarations e) :
    d.entity ∈ c.apiMembers e ∧ d ∈ c.definitionDeclarations d.entity := by
  obtain ⟨o, ho, hd⟩ := List.mem_flatMap.mp h
  obtain ⟨rfl, -⟩ := origin_of_mem hd
  exact ⟨ho, hd⟩

/-- Two definitions of a document that have one name, and not one key. -/
theorem Orderly.meets_of_name (h : c.Orderly) (he : c.model.entity? e.id = some e)
    {d d' : Declaration} (hd : d ∈ c.apiDeclarations e) (hd' : d' ∈ c.apiDeclarations e)
    (hkey : ∀ key, declarationKey? d = some key → ∀ key', declarationKey? d' = some key' →
      key ≠ key')
    (hname : d.origin.name = d'.origin.name) : c.Meets d d' := by
  have hm := h.settled.wellFormed
  obtain ⟨hmember, hd⟩ := mem_apiDeclarations hd
  obtain ⟨hmember', hd'⟩ := mem_apiDeclarations hd'
  obtain ⟨-, hsort, ho⟩ := origin_of_mem hd
  obtain ⟨-, hsort', ho'⟩ := origin_of_mem hd'
  have hsame : d.sort = d'.sort := hsort.trans hsort'.symm
  rcases clash_or_alike ho ho' (Prod.ext hsame hname) with
    hclash | ⟨base, s, s', suffix, horigin, horigin'⟩
  · exact .clash hclash
  · have hne : s ≠ s' := symbol_ne hsame horigin horigin' hkey
    have hlive := ((mem_apiMembers hm he).mp hmember).1
    have hlive' := ((mem_apiMembers hm he).mp hmember').1
    obtain ⟨l, hl, -⟩ := hm.listed hlive
    obtain ⟨l', hl', -⟩ := hm.listed hlive'
    rw [horigin] at ho
    rw [horigin'] at ho'
    rcases h.silent_or_apart hlive hlive' hl hl' (registered_of_mem ho).mem
      (registered_of_mem ho').mem hne with ⟨ns, hsilent⟩ | hapart
    · exact .clash (.silent horigin horigin' hne hl hl' hsilent)
    · exact .apart horigin horigin' hne hl hl' hapart

/-! ## What a document has of the definitions -/

/-- Of the definitions with one name, the document of a resource has the last. -/
theorem at?_apiDocument (form : ApiForm) (d : NamedEntity × Resource) (name : String) :
    (c.apiDocument form d).at? (form.place ++ [name]) =
      Keyed.lastUnder? name (c.apiDefinitions form d.1) := by
  rw [apiDocument, at?_apiObject, ← Keyed.find?_ofList_eq_lastUnder?, at?, object, field?]
  cases Keyed.find? name (Keyed.ofList (c.apiDefinitions form d.1)) with
  | none => rfl
  | some j => rfl

/-- A document has the definitions of all members, as they are, if those of one name are
the same. -/
theorem kept_iff (form : ApiForm) (d : NamedEntity × Resource) :
    (∀ o ∈ c.apiMembers d.1, ∀ x ∈ c.definitions form.style o,
        (c.apiDocument form d).at? (form.place ++ [x.1]) = some x.2) ↔
      ∀ x ∈ c.apiDefinitions form d.1, ∀ y ∈ c.apiDefinitions form d.1,
        x.1 = y.1 → x.2 = y.2 := by
  rw [← Keyed.all_lastUnder?_iff]
  simp only [at?_apiDocument]
  constructor
  · intro h x hx
    obtain ⟨o, ho, hx⟩ := List.mem_flatMap.mp hx
    exact h o ho x hx
  · intro h o ho x hx
    exact h x (List.mem_flatMap.mpr ⟨o, ho, hx⟩)

/-! ## Types of one name -/

/-- Asks for the documents of resources in both forms. -/
def apiOptions : GenerationOptions :=
  { outputDir := "out", formats := { openApi := true, swagger := true } }

/-- The context of a root in a model, with the documents of resources only. -/
def apiContext (m : Model) (root : EntityId) : GenerationContext :=
  ({ model := m } : Generator).context apiOptions (Scope.build m [root] none) false

/-- A resource of a user library that a generation starts from has a document. -/
theorem mem_apiResources_apiContext {m : Model} (hm : m.WellFormed) {l : Library}
    {d : NamedEntity × Resource} (he : m.entity? e.id = some e)
    (hl : m.library? e.library = some l) (huser : l.builtIn = false)
    (hd : concreteResource? e = some d) : d ∈ (apiContext m e.id).apiResources := by
  have hroot : m.Reachable [e.id] e.id := ⟨⟨e, he⟩, e.id, List.mem_singleton_self _, ⟨e, he⟩, .refl⟩
  have hscope : e.library ∈ (Scope.build m [e.id] none).libraries :=
    (Scope.mem_libraries_build hm).mpr ⟨l, hl, e.id, e, hroot, he, Or.inl (hm.library_id hl).symm⟩
  have horder : e.library ∈ (apiContext m e.id).order :=
    (Scope.mem_order_iff hm).mpr ⟨hscope, l, hl, huser⟩
  refine List.mem_flatMap.mpr ⟨_, horder, List.mem_flatMap.mpr ⟨e, ?_, ?_⟩⟩
  · exact (mem_emittedEntities hm).mpr ⟨he, rfl, (Scope.mem_entities_build hm).mpr hroot⟩
  · exact Option.mem_toList.mpr hd

/-- If the resource that a generation starts from passes a test, then so does one that
has a document. -/
theorem exists_apiResource (cs : List Change) (root : EntityId)
    (test : NamedEntity × Resource → Bool) :
    let m := run (cs ++ [.refresh])
    ((m.entity? root).any fun e => ((m.library? e.library).any fun l => !l.builtIn) &&
      (concreteResource? e).any test) = true →
      ∃ d ∈ (apiContext m root).apiResources, test d = true := by
  intro m hroot
  have hm : m.WellFormed := wellFormed_run _
  obtain ⟨e, he, htests⟩ := (Option.any_eq_true ..).mp hroot
  rw [Bool.and_eq_true] at htests
  obtain ⟨l, hl, huser⟩ := (Option.any_eq_true ..).mp htests.1
  obtain ⟨d, hd, htest⟩ := (Option.any_eq_true ..).mp htests.2
  obtain rfl := hm.entity_id he
  exact ⟨d, mem_apiResources_apiContext hm he hl (by simpa using huser) hd, htest⟩

/-- Two libraries of different namespaces that each have a type of one name, and a
resource that answers with both. -/
def ratesRun : List Change :=
  [.add { sampleLibrary "Fares" (some "urn:fares") [] with
        imports := [{ ns := some "urn:codes", nsPrefix := some "k", fileHints := ["Codes.otm"] }] }
      [sampleMember "Code" (.simpleType {}),
        sampleMember "Rates" (.resource { (default : Resource) with
          basePath := "/rates"
          actions := [{ (default : ResourceAction) with
            actionId := "GetRate"
            responses :=
              [ { statusCodes := [200], payload := some (.unbound "Code"), mimeTypes := [] },
                { statusCodes := [404], payload := some (.unbound "k:Code"),
                  mimeTypes := [] } ] }] })],
    .add (sampleLibrary "Codes" (some "urn:codes") [])
      [sampleMember "Code" (.simpleType { list := true })]]

/-- The definitions in the documents of resources, where no errors were reported. Let the
scope be that of some roots in a refreshed model, without a global scope. Then every
resource that is in scope and not abstract has a document in each form. Its members are
the user entities that the resource reaches, without resources and services, and of
their definitions with one name the document has the last. So it has all, unchanged,
exactly if definitions of one name are the same. Two have one name only in the ways that
`Meets` lists: as in a schema, or because no namespace shows both libraries. -/
theorem api_schemas_kept_iff (cs : List Change) (roots : List EntityId)
    (options : GenerationOptions) (hclean : (run cs).refresh.2.hasErrors = false) :
    let m := run (cs ++ [.refresh])
    let c := ({ model := m } : Generator).context options (Scope.build m roots none) false
    ∀ form, c.apiFiles form = .ok (c.apiResources.map (c.apiOutput form)) ∧
      ∀ d ∈ c.apiResources,
        let definitions := c.apiDefinitions form d.1
        let entry := fun name => (c.apiDocument form d).at? (form.place ++ [name])
        (∀ o, o ∈ c.apiMembers d.1 ↔ m.entity? o.id = some o ∧ m.Reaches d.1.id o.id ∧
          ¬ HasNoTypes o ∧ c.isBuiltIn o.id = false) ∧
        (∀ name, entry name = Keyed.lastUnder? name definitions) ∧
        ((∀ o ∈ c.apiMembers d.1, ∀ x ∈ c.definitions form.style o, entry x.1 = some x.2) ↔
          ∀ x ∈ definitions, ∀ y ∈ definitions, x.1 = y.1 → x.2 = y.2) ∧
        definitions.map Prod.fst = (c.apiDeclarations d.1).map (fun x => x.origin.name) ∧
        (c.apiDeclarations d.1).Pairwise fun x y =>
          x.origin.name = y.origin.name → c.Meets x y := by
  intro m c form
  have h : c.Orderly := orderly_context cs hclean roots options
  have hm := h.settled.wellFormed
  refine ⟨apiFiles_eq h.toClosed form, fun d hd => ?_⟩
  obtain ⟨he, -⟩ := mem_apiResources hm hd
  refine ⟨fun o => mem_apiMembers hm he, at?_apiDocument form d, kept_iff form d,
    names_apiDeclarations c d.1 form, ?_⟩
  -- no key is used twice, so one name is not that of one symbol
  have hkeys := nodup_keys_api hm he
  rw [List.Nodup, List.pairwise_filterMap] at hkeys
  exact hkeys.imp_of_mem fun hx hy hkey hname => h.meets_of_name he hx hy hkey hname

/-- The two types of the sample meet in the document of the resource. -/
theorem ratesRun_meets :
    let c := apiContext (run (ratesRun ++ [.refresh])) ⟨1⟩
    (run ratesRun).refresh.2.hasErrors = false ∧
      ∃ d ∈ c.apiResources, ∃ x ∈ c.apiDeclarations d.1, ∃ y ∈ c.apiDeclarations d.1,
        x.origin.name = y.origin.name ∧ c.Meets x y := by
  intro c
  have hclean : (run ratesRun).refresh.2.hasErrors = false := by decide +kernel
  obtain ⟨d, hd, htest⟩ := exists_apiResource ratesRun ⟨1⟩
    (fun d => ¬ ((c.apiDeclarations d.1).map fun x => x.origin.name).Nodup) (by decide +kernel)
  obtain ⟨-, -, -, -, hmeets⟩ :=
    (api_schemas_kept_iff ratesRun [⟨1⟩] apiOptions hclean .openApi).2 d hd
  refine ⟨hclean, d, hd, ?_⟩
  by_contra hnone
  refine of_decide_eq_true htest ?_
  rw [List.Nodup, List.pairwise_map]
  exact hmeets.imp_of_mem fun hx hy h hname => hnone ⟨_, hx, _, hy, hname, h hname⟩

/-- The type that a schema names. -/
def schemaType? (j : Json) : Option String :=
  (j.field? "type").bind text?

/-- Nothing is reported, and in both forms the document of a resource lacks the
definition of an entity that the resource reaches. -/
theorem ratesRun_lost :
    let c := apiContext (run (ratesRun ++ [.refresh])) ⟨1⟩
    (run ratesRun).refresh.2 = [] ∧
      ∀ form, ∃ d ∈ c.apiResources, ∃ o ∈ c.apiMembers d.1, ∃ x ∈ c.definitions form.style o,
        (c.apiDocument form d).at? (form.place ++ [x.1]) ≠ some x.2 := by
  intro c
  refine ⟨by decide +kernel, fun form => ?_⟩
  obtain ⟨d, hd, htest⟩ := exists_apiResource ratesRun ⟨1⟩
    (fun d => (c.apiMembers d.1).any fun o => (c.definitions form.style o).any fun x =>
      ((c.apiDocument form d).at? (form.place ++ [x.1])).bind schemaType? ≠ schemaType? x.2)
    (by cases form <;> decide +kernel)
  obtain ⟨o, ho, htest⟩ := List.any_eq_true.mp htest
  obtain ⟨x, hx, htest⟩ := List.any_eq_true.mp htest
  refine ⟨d, hd, o, ho, x, hx, fun hentry => ?_⟩
  rw [hentry, Option.bind_some] at htest
  exact of_decide_eq_true htest rfl

end GenerationContext

end TravelModel
