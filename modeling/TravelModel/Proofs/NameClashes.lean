import TravelModel.Proofs.ComponentNames
import TravelModel.Proofs.Locations

/-!
# TravelModel — components with one name

Errors are reported where two symbols of a namespace have one name. The names of types
and elements are more than those of the symbols, so that two components can have one name
though nothing is reported.

Main results:

* `explained_of_mem` — a formed name is that of a symbol of its entity, with one of few
  suffixes, and any other is put together from parts that are named.
* `nodup_keys` — no symbol is used twice for components of one sort and suffix.
* `clash_of_signature` — how two components of a namespace can have one name.
* `components_clash` — the names in the documents of a generation without errors.
-/

namespace TravelModel

open Xsd

/-- The sort of a component with the symbol and the suffix that its name is formed from. -/
def originKey? (o : ComponentSort × NameOrigin) : Option (ComponentSort × Symbol × String) :=
  match o.2 with
  | .formed _ symbol suffix => some (o.1, symbol, suffix)
  | .derived _ => none

@[simp] theorem originKey?_formed (sort : ComponentSort) (base : String) (s : Symbol)
    (suffix : String) : originKey? (sort, .formed base s suffix) = some (sort, s, suffix) :=
  rfl

@[simp] theorem originKey?_derived (sort : ComponentSort) (name : String) :
    originKey? (sort, .derived name) = none :=
  rfl

namespace GenerationContext

open Model

/-! ## Formed names -/

/-- What is put behind the names of symbols. -/
def suffixes : TargetFormat → ComponentSort → List String
  | .xmlSchema, .type => ["", "_Base", "_Role"]
  | .xmlSchema, .element => ["", "ID", "Detail"]
  | .serviceSchema, .type => ["_FacetType", "_RQ"]
  | .serviceSchema, .element =>
    ["_ID_RQ", "_ID_RS", "_Summary_RQ", "_Summary_RS", "_Detail_RQ", "_Detail_RS"]
  | .jsonSchema, _ | .openApi, _ | .swagger, _ => []

/-- A formed name is that of a symbol of its entity; the name of a facet is one of a type
and has no suffix. -/
structure Registered (e : NamedEntity) (format : TargetFormat) (sort : ComponentSort)
    (base : String) (s : Symbol) (suffix : String) : Prop where
  mem : (base, s) ∈ e.symbolNames
  known : suffix ∈ suffixes format sort
  facet : ∀ id k, s = .facet id k → sort = .type ∧ suffix = ""

/-! ## Names of other parts -/

/-- A name that is put together from other parts than the name of a symbol. -/
inductive Assembled (c : GenerationContext) (e : NamedEntity) : ComponentSort → String → Prop
  /-- The type of a facet that an object inherits. -/
  | inheritedType {g : GhostFacet} (hg : g ∈ c.model.ghostFacets e.id) :
    Assembled c e .type (c.model.ghostName g)
  /-- The element of a facet that an object inherits. -/
  | inheritedElement {g : GhostFacet} (hg : g ∈ c.model.ghostFacets e.id) :
    Assembled c e .element (Naming.contextualElement e.name g.kind.facetKind g.facetName)
  /-- The element of a contextual facet, with the name of its owner or, if that is not
  there, the name that it has for it. -/
  | contextualElement {f : ContextualFacet} (hbody : e.body = .contextualFacet f) :
    Assembled c e .element (Naming.contextualElement
      (((f.owner.entity?.bind c.model.entity?).map NamedEntity.name).getD f.owner.localName)
      f.facetKind.facetKind f.facetName)
  /-- The type or the element of an extension point, named for a facet of what it extends. -/
  | extensionPoint {f : ExtensionPointFacet} {s : Symbol} {o : NamedEntity} {kind : FacetKind}
    (hbody : e.body = .extensionPointFacet f) (hs : f.extended.target = some s)
    (ho : c.model.entity? s.owner = some o) (sort : ComponentSort) :
    Assembled c e sort (Naming.extensionPoint o.name kind)
  /-- The type or the element of a message of a service. -/
  | message {x : Service} {op : Operation} {p : MessageKind × FacetContent}
    (hbody : e.body = .service x) (hop : op ∈ x.operations) (hp : p ∈ op.messages)
    (sort : ComponentSort) : Assembled c e sort (op.messageName e.name p.1)
  /-- The request or the response for a facet of a business object that is not fixed. -/
  | exchange {o : BusinessObject} {label ending : String} (hbody : e.body = .businessObject o)
    (hlabel : label ∈ c.contextualLabels e) (hending : ending ∈ ["_RQ", "_RS"]) :
    Assembled c e .element (e.name ++ "_" ++ label ++ ending)

/-! ## Where names come from -/

/-- A formed name is that of a symbol, and any other is put together from other parts. -/
inductive Explained (c : GenerationContext) (e : NamedEntity) (format : TargetFormat)
    (sort : ComponentSort) : NameOrigin → Prop
  | formed {base : String} {s : Symbol} {suffix : String}
    (h : Registered e format sort base s suffix) : Explained c e format sort (.formed base s suffix)
  | derived {name : String} (h : c.Assembled e sort name) :
    Explained c e format sort (.derived name)

variable {c : GenerationContext} {e : NamedEntity} {sort : ComponentSort} {base suffix : String}
  {s : Symbol} {o : NameOrigin}

theorem explained_ownName {format : TargetFormat} {sort' : ComponentSort} {own : String}
    (h : (sort, o) = (sort', ownName e own)) (hown : own ∈ suffixes format sort') :
    c.Explained e format sort o := by
  cases h
  exact .formed ⟨List.mem_cons_self, hown, fun _ _ h => by cases h⟩

theorem explained_fixedFacet {kind : FacetKind} (hkind : kind ∈ e.body.fixedFacetKinds)
    (h : (sort, o) ∈ fixedFacetOrigins e kind) : c.Explained e .xmlSchema sort o := by
  rw [fixedFacetOrigins, List.mem_cons, List.mem_flatMap] at h
  rcases h with h | ⟨n, hn, h⟩
  · cases h
    refine .formed ⟨?_, List.mem_cons_self, fun _ _ _ => ⟨rfl, rfl⟩⟩
    exact List.mem_cons_of_mem _ (List.mem_append_right _ (List.mem_map_of_mem hkind))
  · obtain ⟨own, hown, hpair⟩ := List.mem_map.mp h
    cases hpair
    refine .formed ⟨?_, ?_, ?_⟩
    · rw [ownerNames, List.mem_cons] at hn
      rcases hn with rfl | hn
      · exact List.mem_cons_self
      · exact List.mem_cons_of_mem _ (List.mem_append_left _ hn)
    · cases kind with
      | id | summary | shared | detail =>
        rw [Option.mem_toList] at hown
        cases hown
        decide
      | _ => exact absurd hown List.not_mem_nil
    · intro id k hfacet
      rw [ownerNames, List.mem_cons, List.mem_map] at hn
      rcases hn with rfl | ⟨a, -, rfl⟩
      · cases hfacet
      · cases hfacet

theorem explained_ghosts {format : TargetFormat}
    (h : (sort, o) ∈ (c.model.ghostFacets e.id).flatMap (c.ghostOrigins e)) :
    c.Explained e format sort o := by
  obtain ⟨g, hg, h⟩ := List.mem_flatMap.mp h
  rw [ghostOrigins] at h
  split at h
  · simp only [List.mem_cons, List.not_mem_nil, or_false] at h
    rcases h with h | h
    · cases h
      exact .derived (.inheritedType hg)
    · cases h
      exact .derived (.inheritedElement hg)
  · exact absurd h List.not_mem_nil

/-- An extension point has its own name, or it is named for a facet of what it extends. -/
theorem extensionPointType_cases (c : GenerationContext) (e : NamedEntity) (extended : Reference) :
    c.extensionPointType e extended = e.name ∨
      ∃ s o kind, extended.target = some s ∧ c.model.entity? s.owner = some o ∧
        c.extensionPointType e extended = Naming.extensionPoint o.name kind := by
  unfold extensionPointType
  split
  · exact Or.inl rfl
  · next s hs =>
    split
    · next o ho => exact Or.inr ⟨_, o, _, hs, ho, rfl⟩
    · next o ho =>
      split
      · exact Or.inr ⟨_, o, _, hs, ho, rfl⟩
      · exact Or.inl rfl
    · exact Or.inl rfl

theorem assembled_extensionPoint {f : ExtensionPointFacet}
    (hbody : e.body = .extensionPointFacet f) (hne : c.extensionPointType e f.extended ≠ e.name)
    (sort : ComponentSort) : c.Assembled e sort (c.extensionPointType e f.extended) := by
  rcases extensionPointType_cases c e f.extended with hown | ⟨s, o, kind, hs, ho, hname⟩
  · exact absurd hown hne
  · rw [hname]
    exact .extensionPoint hbody hs ho sort

theorem explained_schema (h : (sort, o) ∈ c.schemaOrigins e) : c.Explained e .xmlSchema sort o := by
  have hplain : "" ∈ suffixes .xmlSchema .type := List.mem_cons_self
  have hfixed : ∀ {kinds : List FacetKind}, (∀ k ∈ kinds, k ∈ e.body.fixedFacetKinds) →
      (sort, o) ∈ kinds.flatMap (fixedFacetOrigins e) → c.Explained e .xmlSchema sort o := by
    intro kinds hkinds h
    obtain ⟨k, hk, h⟩ := List.mem_flatMap.mp h
    exact explained_fixedFacet (hkinds k hk) h
  rw [schemaOrigins] at h
  cases hbody : e.body with
  | simpleType t | valueWithAttributes v =>
    rw [hbody] at h
    exact explained_ownName (List.mem_singleton.mp h) hplain
  | enumeration x =>
    rw [hbody] at h
    dsimp only at h
    split at h
    · simp only [List.mem_cons, List.not_mem_nil, or_false] at h
      rcases h with h | h
      · exact explained_ownName h (by decide)
      · exact explained_ownName h hplain
    · exact explained_ownName (List.mem_singleton.mp h) hplain
  | coreObject x =>
    rw [hbody] at h hfixed
    dsimp only at h
    rcases List.mem_append.mp h with h | h
    · rcases List.mem_append.mp h with h | h
      · rcases List.mem_cons.mp h with h | h
        · -- the simple facet has a type and no element
          cases h
          refine .formed ⟨?_, hplain, fun _ _ _ => ⟨rfl, rfl⟩⟩
          refine List.mem_cons_of_mem _ (List.mem_append_right _ (List.mem_map_of_mem ?_))
          rw [hbody]
          exact List.mem_cons_self
        · split at h
          · exact absurd h List.not_mem_nil
          · exact explained_ownName (List.mem_singleton.mp h) (by decide)
      · exact hfixed (by simp [EntityBody.fixedFacetKinds]) h
    · exact explained_ghosts h
  | businessObject x =>
    rw [hbody] at h hfixed
    rcases List.mem_append.mp h with h | h
    · exact hfixed (by simp [EntityBody.fixedFacetKinds]) h
    · exact explained_ghosts h
  | choiceObject x =>
    rw [hbody] at h
    rcases List.mem_append.mp h with h | h
    · refine explained_fixedFacet ?_ h
      rw [hbody]
      exact List.mem_singleton_self _
    · exact explained_ghosts h
  | contextualFacet f =>
    rw [hbody] at h
    simp only [List.mem_cons, List.not_mem_nil, or_false] at h
    rcases h with h | h
    · exact explained_ownName h hplain
    · cases h
      exact .derived (.contextualElement hbody)
  | extensionPointFacet f =>
    rw [hbody] at h
    simp only [List.mem_cons, List.not_mem_nil, or_false, extensionOrigin] at h
    split at h
    · rcases h with h | h
      · exact explained_ownName h hplain
      · exact explained_ownName h (by decide)
    · next hne =>
      rcases h with h | h
      · cases h
        exact .derived (assembled_extensionPoint hbody hne _)
      · cases h
        exact .derived (assembled_extensionPoint hbody hne _)
  | resource r | service x =>
    rw [hbody] at h
    exact absurd h List.not_mem_nil

theorem explained_service (h : (sort, o) ∈ c.serviceOrigins e) :
    c.Explained e .serviceSchema sort o := by
  rw [serviceOrigins] at h
  split at h
  · next x hbody =>
    obtain ⟨op, hop, h⟩ := List.mem_flatMap.mp h
    obtain ⟨p, hp, h⟩ := List.mem_flatMap.mp h
    simp only [List.mem_cons, List.not_mem_nil, or_false] at h
    rcases h with h | h
    · cases h
      exact .derived (.message hbody hop hp _)
    · cases h
      exact .derived (.message hbody hop hp _)
  · next x hbody =>
    rcases List.mem_append.mp h with h | h
    · -- the messages for the fixed facets have the name of the object
      rcases List.mem_append.mp h with h | h
      · simp only [List.mem_cons, List.not_mem_nil, or_false] at h
        rcases h with h | h
        · exact explained_ownName h (by decide)
        · exact explained_ownName h (by decide)
      · obtain ⟨k, hk, h⟩ := List.mem_flatMap.mp h
        simp only [List.mem_cons, List.not_mem_nil, or_false] at hk h
        rcases hk with rfl | rfl | rfl <;> rcases h with h | h <;>
          exact explained_ownName h (by decide)
    · obtain ⟨label, hlabel, h⟩ := List.mem_flatMap.mp h
      simp only [List.mem_cons, List.not_mem_nil, or_false] at h
      rcases h with h | h
      · cases h
        exact .derived (.exchange hbody hlabel List.mem_cons_self)
      · cases h
        exact .derived (.exchange hbody hlabel (List.mem_cons_of_mem _ List.mem_cons_self))
  · exact absurd h List.not_mem_nil

/-- What the name of a component comes from. -/
theorem explained_of_mem {format : TargetFormat} (h : (sort, o) ∈ c.origins e format) :
    c.Explained e format sort o := by
  cases format with
  | xmlSchema => exact explained_schema h
  | serviceSchema => exact explained_service h
  | _ => exact absurd h List.not_mem_nil

theorem registered_of_mem {format : TargetFormat}
    (h : (sort, .formed base s suffix) ∈ c.origins e format) :
    Registered e format sort base s suffix := by
  cases explained_of_mem h with
  | formed h => exact h

theorem assembled_of_mem {format : TargetFormat} {name : String}
    (h : (sort, .derived name) ∈ c.origins e format) : c.Assembled e sort name := by
  cases explained_of_mem h with
  | derived h => exact h

/-! ## Formed names are not formed twice -/

theorem nodup_ownerNames (e : NamedEntity) : ((ownerNames e).map Prod.snd).Nodup := by
  rw [ownerNames, List.map_cons, List.map_map, List.nodup_cons]
  constructor
  · rw [List.mem_map]
    rintro ⟨a, -, h⟩
    cases h
  · have hindex : (e.body.aliases.zipIdx.map Prod.snd).Nodup := by
      rw [List.zipIdx_map_snd]
      exact List.nodup_range'
    have hmap := hindex.map (f := fun i => Symbol.aliasOf e.id i) fun i j h => by
      cases h
      rfl
    rwa [List.map_map] at hmap

theorem keys_fixedFacet (e : NamedEntity) (kind : FacetKind) :
    (fixedFacetOrigins e kind).filterMap originKey? =
      (.type, .facet e.id kind, "") :: (elementSuffix? kind).toList.flatMap fun suffix =>
        ((ownerNames e).map Prod.snd).map fun s => (.element, s, suffix) := by
  rw [fixedFacetOrigins, List.filterMap_cons_some (originKey?_formed _ _ _ _)]
  refine congrArg (_ :: ·) ?_
  cases elementSuffix? kind with
  | none => simp
  | some suffix =>
    rw [Option.toList_some, List.flatMap_singleton, List.map_map, List.filterMap_flatMap]
    simp only [List.map_singleton, List.filterMap_cons, originKey?_formed, List.filterMap_nil]
    rw [← List.map_eq_flatMap]
    rfl

theorem nodup_keys_fixedFacet (e : NamedEntity) (kind : FacetKind) :
    ((fixedFacetOrigins e kind).filterMap originKey?).Nodup := by
  rw [keys_fixedFacet, List.nodup_cons]
  cases elementSuffix? kind with
  | none => simp
  | some suffix =>
    rw [Option.toList_some, List.flatMap_singleton]
    refine ⟨?_, (nodup_ownerNames e).map fun s s' h => by cases h; rfl⟩
    rw [List.mem_map]
    rintro ⟨s, -, h⟩
    cases h

/-- Facets with different endings have no key in common. -/
theorem nodup_keys_fixedFacets (e : NamedEntity) {kinds : List FacetKind}
    (h : kinds.Pairwise fun k k' => elementSuffix? k ≠ elementSuffix? k') :
    ((kinds.flatMap (fixedFacetOrigins e)).filterMap originKey?).Nodup := by
  rw [List.filterMap_flatMap, List.nodup_flatMap]
  refine ⟨fun kind _ => nodup_keys_fixedFacet e kind, h.imp fun hne key hkey hkey' => ?_⟩
  dsimp only at hkey hkey'
  rw [keys_fixedFacet, List.mem_cons, List.mem_flatMap] at hkey hkey'
  rcases hkey with rfl | ⟨suffix, hsuffix, hkey⟩
  · rcases hkey' with hkey' | ⟨suffix, -, hkey'⟩
    · cases hkey'
      exact hne rfl
    · obtain ⟨s, -, h⟩ := List.mem_map.mp hkey'
      cases h
  · obtain ⟨s, -, rfl⟩ := List.mem_map.mp hkey
    rcases hkey' with hkey' | ⟨suffix', hsuffix', hkey'⟩
    · cases hkey'
    · obtain ⟨s', -, h⟩ := List.mem_map.mp hkey'
      cases h
      rw [Option.mem_toList] at hsuffix hsuffix'
      exact hne (hsuffix.trans hsuffix'.symm)

/-- A type among the keys of fixed facets is that of one of them. -/
theorem type_of_mem_keys {kinds : List FacetKind}
    (h : (.type, s, suffix) ∈ (kinds.flatMap (fixedFacetOrigins e)).filterMap originKey?) :
    ∃ k ∈ kinds, s = .facet e.id k := by
  rw [List.filterMap_flatMap] at h
  obtain ⟨k, hk, h⟩ := List.mem_flatMap.mp h
  rw [keys_fixedFacet, List.mem_cons, List.mem_flatMap] at h
  rcases h with h | ⟨suffix', -, h⟩
  · cases h
    exact ⟨k, hk, rfl⟩
  · obtain ⟨s', -, h⟩ := List.mem_map.mp h
    cases h

theorem keys_ghosts (gs : List GhostFacet) :
    (gs.flatMap (c.ghostOrigins e)).filterMap originKey? = [] := by
  rw [List.filterMap_flatMap, List.flatMap_eq_nil_iff]
  intro g _
  unfold ghostOrigins
  split
  · rfl
  · rfl

theorem nodup_keys_schema (c : GenerationContext) (e : NamedEntity) :
    ((c.schemaOrigins e).filterMap originKey?).Nodup := by
  rw [schemaOrigins]
  cases e.body with
  | simpleType t | valueWithAttributes v => exact List.nodup_singleton _
  | enumeration x =>
    dsimp only
    split
    · simp [ownName]
    · exact List.nodup_singleton _
  | coreObject o =>
    dsimp only
    rw [List.filterMap_append, List.filterMap_append, keys_ghosts, List.append_nil,
      List.nodup_append]
    refine ⟨?_, nodup_keys_fixedFacets e (by decide), ?_⟩
    · split
      · exact List.nodup_singleton _
      · simp [ownName]
    · -- the types of the simple facet and of the roles are none of the fixed facets
      rintro key hkey key' hkey' rfl
      have hextra : key = (.type, .facet e.id .simple, "") ∨
          key = (.type, .entity e.id, "_Role") := by
        split at hkey
        · exact Or.inl (List.mem_singleton.mp hkey)
        · simpa [ownName] using hkey
      rcases hextra with rfl | rfl
      · obtain ⟨k, hk, h⟩ := type_of_mem_keys hkey'
        cases h
        exact absurd hk (by decide)
      · obtain ⟨k, -, h⟩ := type_of_mem_keys hkey'
        cases h
  | businessObject o =>
    dsimp only
    rw [List.filterMap_append, keys_ghosts, List.append_nil]
    exact nodup_keys_fixedFacets e (by decide)
  | choiceObject o =>
    dsimp only
    rw [List.filterMap_append, keys_ghosts, List.append_nil]
    exact nodup_keys_fixedFacet e .shared
  | contextualFacet f => exact List.nodup_singleton _
  | extensionPointFacet f =>
    dsimp only [extensionOrigin]
    split
    · simp [ownName]
    · exact List.nodup_nil
  | resource r | service x => exact List.nodup_nil

theorem nodup_keys_service (c : GenerationContext) (e : NamedEntity) :
    ((c.serviceOrigins e).filterMap originKey?).Nodup := by
  rw [serviceOrigins]
  split
  · rw [List.filterMap_eq_nil_iff.mpr]
    · exact List.nodup_nil
    · intro o ho
      obtain ⟨op, -, ho⟩ := List.mem_flatMap.mp ho
      obtain ⟨p, -, ho⟩ := List.mem_flatMap.mp ho
      simp only [List.mem_cons, List.not_mem_nil, or_false] at ho
      rcases ho with rfl | rfl
      · exact originKey?_derived _ _
      · exact originKey?_derived _ _
  · have hlabels : ((c.contextualLabels e).flatMap fun label =>
        [(ComponentSort.element, NameOrigin.derived (e.name ++ "_" ++ label ++ "_RQ")),
          (.element, .derived (e.name ++ "_" ++ label ++ "_RS"))]).filterMap originKey? = [] := by
      rw [List.filterMap_flatMap]
      simp
    rw [List.filterMap_append, hlabels, List.append_nil]
    -- one symbol, with a suffix for each sort of component
    have hpairs : ([(.type, "_FacetType"), (.type, "_RQ"), (.element, "_ID_RQ"),
        (.element, "_ID_RS"), (.element, "_Summary_RQ"), (.element, "_Summary_RS"),
        (.element, "_Detail_RQ"), (.element, "_Detail_RS")] :
          List (ComponentSort × String)).Nodup := by
      decide
    exact hpairs.map (f := fun p => (p.1, Symbol.entity e.id, p.2)) fun p p' h => by
      cases p
      cases p'
      cases h
      rfl
  · exact List.nodup_nil

theorem nodup_keys_origins (c : GenerationContext) (e : NamedEntity) (format : TargetFormat) :
    ((c.origins e format).filterMap originKey?).Nodup := by
  cases format with
  | xmlSchema => exact nodup_keys_schema c e
  | serviceSchema => exact nodup_keys_service c e
  | _ => exact List.nodup_nil

theorem owner_of_mem_symbolNames {name : String} (h : (name, s) ∈ e.symbolNames) :
    s.owner = e.id := by
  simp only [NamedEntity.symbolNames, List.mem_cons, List.mem_append, List.mem_map,
    Prod.mk.injEq] at h
  rcases h with ⟨-, rfl⟩ | ⟨a, -, -, rfl⟩ | ⟨k, -, -, rfl⟩
  · rfl
  · rfl
  · rfl

theorem registered_of_key {format : TargetFormat}
    (h : (sort, s, suffix) ∈ (c.origins e format).filterMap originKey?) :
    ∃ base, Registered e format sort base s suffix := by
  obtain ⟨⟨sort', origin⟩, ho, hkey⟩ := List.mem_filterMap.mp h
  cases origin with
  | derived name => cases hkey
  | formed base s' suffix' =>
    cases hkey
    exact ⟨base, registered_of_mem ho⟩

/-- The formats have no suffix in common. -/
theorem format_of_suffix {format format' : TargetFormat} (h : suffix ∈ suffixes format sort)
    (h' : suffix ∈ suffixes format' sort) : format = format' := by
  have hdisjoint : ∀ sort, ∀ x ∈ suffixes .xmlSchema sort, x ∉ suffixes .serviceSchema sort := by
    rintro (_ | _) <;> decide
  cases format with
  | xmlSchema =>
    cases format' with
    | xmlSchema => rfl
    | serviceSchema => exact absurd h' (hdisjoint sort _ h)
    | _ => exact absurd h' List.not_mem_nil
  | serviceSchema =>
    cases format' with
    | serviceSchema => rfl
    | xmlSchema => exact absurd h (hdisjoint sort _ h')
    | _ => exact absurd h' List.not_mem_nil
  | _ => exact absurd h List.not_mem_nil

/-- The key of a declared component. -/
def declarationKey? (d : Declaration) : Option (ComponentSort × Symbol × String) :=
  originKey? (d.sort, d.origin)

/-- No symbol is used twice for components of one sort and suffix. -/
theorem Orderly.nodup_keys (h : c.Orderly) (ns : String) :
    ((c.declarationsIn ns).filterMap declarationKey?).Nodup := by
  have hm := h.settled.wellFormed
  have hkeys : (c.declarationsIn ns).filterMap declarationKey? =
      c.options.formats.targets.flatMap fun format =>
        (c.generatedEntities.filter fun e => c.foundIn e ns).flatMap fun e =>
          (c.origins e format).filterMap originKey? := by
    rw [declarationsIn, List.filterMap_flatMap]
    refine List.flatMap_congr fun format _ => ?_
    rw [List.filterMap_flatMap]
    refine List.flatMap_congr fun e _ => ?_
    rw [declarations, List.filterMap_map]
    rfl
  rw [hkeys, List.nodup_flatMap]
  constructor
  · intro format _
    rw [List.nodup_flatMap]
    refine ⟨fun e _ => nodup_keys_origins c e format, ?_⟩
    refine (h.nodup_generatedEntities.filter _).pairwise_of_forall_ne fun e he e' he' hne => ?_
    -- within a format, a symbol tells the entity that owns it
    rintro ⟨sort, s, suffix⟩ hkey hkey'
    obtain ⟨base, hreg⟩ := registered_of_key hkey
    obtain ⟨base', hreg'⟩ := registered_of_key hkey'
    have hid := (owner_of_mem_symbolNames hreg.mem).symm.trans
      (owner_of_mem_symbolNames hreg'.mem)
    have hlive := ((mem_generatedEntities hm).mp (List.mem_of_mem_filter he)).1
    have hlive' := ((mem_generatedEntities hm).mp (List.mem_of_mem_filter he')).1
    rw [hid, hlive', Option.some.injEq] at hlive
    exact hne hlive.symm
  · refine (nodup_targets _).imp fun hne => ?_
    -- between formats, the suffix tells the format
    rintro ⟨sort, s, suffix⟩ hkey hkey'
    obtain ⟨e, -, hkey⟩ := List.mem_flatMap.mp hkey
    obtain ⟨e', -, hkey'⟩ := List.mem_flatMap.mp hkey'
    obtain ⟨base, hreg⟩ := registered_of_key hkey
    obtain ⟨base', hreg'⟩ := registered_of_key hkey'
    exact hne (format_of_suffix hreg.known hreg'.known)

/-! ## Suffixes -/

theorem mem_suffixes {format : TargetFormat} (h : suffix ∈ suffixes format sort) :
    suffix ∈ suffixes .xmlSchema sort ++ suffixes .serviceSchema sort := by
  cases format with
  | xmlSchema => exact List.mem_append_left _ h
  | serviceSchema => exact List.mem_append_right _ h
  | _ => exact absurd h List.not_mem_nil

/-- Two names with different suffixes can be the same only if one has none. -/
theorem suffix_cases {format format' : TargetFormat} {base' suffix' : String}
    (h : suffix ∈ suffixes format sort) (h' : suffix' ∈ suffixes format' sort)
    (hsame : base ++ suffix = base' ++ suffix') :
    suffix = suffix' ∨ suffix = "" ∧ suffix' ≠ "" ∨ suffix' = "" ∧ suffix ≠ "" := by
  have hends : ∀ sort, ∀ x ∈ suffixes .xmlSchema sort ++ suffixes .serviceSchema sort,
      ∀ y ∈ suffixes .xmlSchema sort ++ suffixes .serviceSchema sort,
        x.toList <:+ y.toList → x = y ∨ x = "" ∧ y ≠ "" := by
    rintro (_ | _) <;> decide
  have hlist := congrArg String.toList hsame
  rw [String.toList_append, String.toList_append] at hlist
  rcases List.suffix_or_suffix_of_suffix (hlist ▸ List.suffix_append _ _)
    (List.suffix_append base'.toList suffix'.toList) with hsuffix | hsuffix
  · exact (hends sort _ (mem_suffixes h) _ (mem_suffixes h') hsuffix).imp_right Or.inl
  · rcases hends sort _ (mem_suffixes h') _ (mem_suffixes h) hsuffix with heq | hempty
    · exact Or.inl heq.symm
    · exact Or.inr (Or.inr hempty)

theorem facet_of_mem_symbolNames {name : String} {id : EntityId} {k : FacetKind}
    (h : (name, .facet id k) ∈ e.symbolNames) :
    name = e.name ++ "_" ++ k.label ∧ k ∈ [FacetKind.id, .summary, .detail, .simple, .shared] := by
  simp only [NamedEntity.symbolNames, List.mem_cons, List.mem_append, List.mem_map,
    Prod.mk.injEq, reduceCtorEq, and_false, exists_false, false_or, Symbol.facet.injEq] at h
  obtain ⟨k, hk, hname, -, rfl⟩ := h
  refine ⟨hname.symm, ?_⟩
  clear hname
  cases hbody : e.body with
  | businessObject o | coreObject o | choiceObject o =>
    rw [hbody, EntityBody.fixedFacetKinds] at hk
    revert k
    decide
  | _ =>
    rw [hbody] at hk
    exact absurd hk List.not_mem_nil

/-- The type of a facet has the name of no type with a suffix. -/
theorem facet_ne_suffixed {format : TargetFormat} {id : EntityId} {k : FacetKind}
    {base' suffix' : String} (h : (base, .facet id k) ∈ e.symbolNames)
    (h' : suffix' ∈ suffixes format .type) (hne : suffix' ≠ "") : base ≠ base' ++ suffix' := by
  have hends : ∀ k ∈ [FacetKind.id, .summary, .detail, .simple, .shared],
      ∀ y ∈ suffixes .xmlSchema .type ++ suffixes .serviceSchema .type, y ≠ "" →
        ¬ ("_" ++ k.label).toList <:+ y.toList ∧ ¬ y.toList <:+ ("_" ++ k.label).toList := by
    decide
  obtain ⟨rfl, hk⟩ := facet_of_mem_symbolNames h
  intro hsame
  have hlist : e.name.toList ++ ("_" ++ k.label).toList = base'.toList ++ suffix'.toList := by
    rw [← String.toList_append, ← String.append_assoc, hsame, String.toList_append]
  obtain ⟨hno, hno'⟩ := hends k hk _ (mem_suffixes h') hne
  rcases List.suffix_or_suffix_of_suffix (hlist ▸ List.suffix_append _ _)
    (List.suffix_append base'.toList suffix'.toList) with hsuffix | hsuffix
  · exact hno hsuffix
  · exact hno' hsuffix

theorem Registered.not_facet {format format' : TargetFormat} {base' suffix' : String}
    (h : Registered e format sort base s suffix) (hplain : suffix = "")
    (h' : suffix' ∈ suffixes format' sort) (hne : suffix' ≠ "")
    (hsame : base ++ suffix = base' ++ suffix') (id : EntityId) (k : FacetKind) :
    s ≠ .facet id k := by
  intro hfacet
  rw [(h.facet id k hfacet).1] at h'
  rw [hplain, String.append_empty] at hsame
  exact facet_ne_suffixed (hfacet ▸ h.mem) h' hne hsame

/-! ## Clashes -/

/-- How two components of one sort can have one name in a namespace. -/
inductive Clash (c : GenerationContext) (d d' : Declaration) : Prop
  /-- One of the names is put together from other parts than the name of a symbol, in one of
  the ways that `Assembled` lists. -/
  | derived {name : String}
    (h : d.origin = .derived name ∧ c.Assembled d.entity d.sort name ∨
      d'.origin = .derived name ∧ c.Assembled d'.entity d'.sort name)
  /-- The name of an entity or of an alias is another name with a suffix. -/
  | suffixed {base base' suffix suffix' : String} {s s' : Symbol}
    (h : d.origin = .formed base s suffix) (h' : d'.origin = .formed base' s' suffix')
    (hplain : suffix = "" ∧ suffix' ≠ "" ∧ (∀ id k, s ≠ .facet id k) ∨
      suffix' = "" ∧ suffix ≠ "" ∧ ∀ id k, s' ≠ .facet id k)
  /-- Two symbols have one name in a namespace that shows the libraries of both, a hosted
  library is in play, and nothing is reported. -/
  | silent {base suffix : String} {s s' : Symbol} {l l' : Library} {ns : String}
    (h : d.origin = .formed base s suffix) (h' : d'.origin = .formed base s' suffix)
    (hne : s ≠ s') (hl : c.model.library? d.entity.library = some l)
    (hl' : c.model.library? d'.entity.library = some l') (hsilent : c.model.Silent ns base l l')
  /-- Two symbols have one name, no namespace shows the libraries of both, and namespaces
  are written without their minor versions. -/
  | folded {base suffix : String} {s s' : Symbol} {l l' : Library}
    (h : d.origin = .formed base s suffix) (h' : d'.origin = .formed base s' suffix)
    (hne : s ≠ s') (hl : c.model.library? d.entity.library = some l)
    (hl' : c.model.library? d'.entity.library = some l')
    (hpolicy : c.options.namespacePolicy = .major)
    (hapart : ∀ ns, ¬ (c.model.Shows ns l ∧ c.model.Shows ns l'))

/-- Where the components of an entity are found, a namespace that shows its library is
written. -/
theorem Orderly.shows_of_foundIn (h : c.Orderly) (he : e ∈ c.generatedEntities) {ns : String}
    (hns : c.foundIn e ns = true) :
    ∃ l o, c.model.library? e.library = some l ∧ c.model.Shows o l ∧
      c.outputNamespace o = ns := by
  have hm := h.settled.wellFormed
  obtain ⟨l, hl, huser⟩ := h.user ((mem_generatedEntities hm).mp he).2.1
  rw [foundIn_eq hl, List.contains_iff_mem, librarySpaces] at hns
  have hmem : l ∈ c.model.libraries := mem_libraries.mpr ⟨_, hl⟩
  cases hspace : l.ns with
  | some o =>
    rw [libraryNamespace?, hspace, Option.map_some, huser] at hns
    refine ⟨l, o, hl, Or.inl (List.mem_filter.mpr ⟨hmem, decide_eq_true hspace⟩), ?_⟩
    exact (List.mem_singleton.mp hns).symm
  | none =>
    have hchameleon : l.isChameleon = true := by rw [Library.isChameleon, hspace]; rfl
    rw [libraryNamespace?_eq_none.mpr hspace] at hns
    dsimp only at hns
    rw [libraryHosts_eq hspace, Model.hostsOf_eq hm h.hosts hmem hchameleon] at hns
    obtain ⟨o, ho, rfl⟩ := List.mem_map.mp hns
    refine ⟨l, o, hl, Or.inr (List.mem_filter.mpr ⟨hmem, ?_⟩), rfl⟩
    rw [hchameleon, Bool.true_and, List.contains_iff_mem]
    exact ho

/-- What is declared in a namespace, by an entity that is found there. -/
theorem mem_declarationsIn {d : Declaration} {ns : String} (h : d ∈ c.declarationsIn ns) :
    ∃ format, d.entity ∈ c.generatedEntities ∧ c.foundIn d.entity ns = true ∧
      (d.sort, d.origin) ∈ c.origins d.entity format := by
  obtain ⟨format, -, h⟩ := List.mem_flatMap.mp h
  obtain ⟨e, he, h⟩ := List.mem_flatMap.mp h
  obtain ⟨hgenerated, hfound⟩ := List.mem_filter.mp he
  obtain ⟨o, ho, rfl⟩ := List.mem_map.mp h
  exact ⟨format, hgenerated, hfound, ho⟩

/-- Two symbols that have one name: nothing is reported on it, or no namespace shows the
libraries of both. -/
theorem Orderly.silent_or_apart (h : c.Orderly) {e' : NamedEntity} {s' : Symbol} {l l' : Library}
    (he : c.model.entity? e.id = some e) (he' : c.model.entity? e'.id = some e')
    (hl : c.model.library? e.library = some l) (hl' : c.model.library? e'.library = some l')
    (hs : (base, s) ∈ e.symbolNames) (hs' : (base, s') ∈ e'.symbolNames) (hne : s ≠ s') :
    (∃ ns, c.model.Silent ns base l l') ∨
      ∀ ns, ¬ (c.model.Shows ns l ∧ c.model.Shows ns l') := by
  have hm := h.settled.wellFormed
  have hentity := hm.mem_libraryEntities_iff.mpr ⟨he, (hm.library_id hl).symm⟩
  have hentity' := hm.mem_libraryEntities_iff.mpr ⟨he', (hm.library_id hl').symm⟩
  by_cases hshared : ∃ ns, c.model.Shows ns l ∧ c.model.Shows ns l'
  · -- a collision in a namespace that shows both would be reported
    obtain ⟨ns, hshows, hshows'⟩ := hshared
    rcases h.clean.eq_or_silent hm hshows hshows' hentity hentity' hs hs' with heq | hsilent
    · exact absurd heq hne
    · exact Or.inl ⟨ns, hsilent⟩
  · exact Or.inr fun ns hboth => hshared ⟨ns, hboth⟩

/-- Two symbols that have one name where the components of their entities are found. -/
theorem Orderly.clash_of_base (h : c.Orderly) {d d' : Declaration} {ns : String}
    (hd : d ∈ c.declarationsIn ns) (hd' : d' ∈ c.declarationsIn ns) {s' : Symbol}
    (horigin : d.origin = .formed base s suffix) (horigin' : d'.origin = .formed base s' suffix)
    (hne : s ≠ s') : c.Clash d d' := by
  have hm := h.settled.wellFormed
  obtain ⟨format, he, hfound, ho⟩ := mem_declarationsIn hd
  obtain ⟨format', he', hfound', ho'⟩ := mem_declarationsIn hd'
  rw [horigin] at ho
  rw [horigin'] at ho'
  obtain ⟨l, o, hl, hshows, hout⟩ := h.shows_of_foundIn he hfound
  obtain ⟨l', o', hl', hshows', hout'⟩ := h.shows_of_foundIn he' hfound'
  rcases h.silent_or_apart ((mem_generatedEntities hm).mp he).1
    ((mem_generatedEntities hm).mp he').1 hl hl' (registered_of_mem ho).mem
    (registered_of_mem ho').mem hne with ⟨shared, hsilent⟩ | hapart
  · exact .silent horigin horigin' hne hl hl' hsilent
  · -- with full namespaces the one that is written is the one that both declare
    have hpolicy : c.options.namespacePolicy = .major := by
      cases hfull : c.options.namespacePolicy with
      | major => rfl
      | full =>
        rw [outputNamespace, hfull] at hout hout'
        exact absurd ⟨hout ▸ hshows, hout' ▸ hshows'⟩ (hapart ns)
    exact .folded horigin horigin' hne hl hl' hpolicy hapart

/-- Two components of one sort that have one name: they clash, or their names are formed
alike. -/
theorem clash_or_alike {d d' : Declaration} {format format' : TargetFormat}
    (ho : (d.sort, d.origin) ∈ c.origins d.entity format)
    (ho' : (d'.sort, d'.origin) ∈ c.origins d'.entity format')
    (hsame : d.signature = d'.signature) :
    c.Clash d d' ∨ ∃ base s s' suffix, d.origin = .formed base s suffix ∧
      d'.origin = .formed base s' suffix := by
  obtain ⟨hsort, hname⟩ := Prod.mk.inj hsame
  cases horigin : d.origin with
  | derived name =>
    rw [horigin] at ho
    exact Or.inl (.derived (Or.inl ⟨horigin, assembled_of_mem ho⟩))
  | formed base s suffix =>
    cases horigin' : d'.origin with
    | derived name =>
      rw [horigin'] at ho'
      exact Or.inl (.derived (Or.inr ⟨horigin', assembled_of_mem ho'⟩))
    | formed base' s' suffix' =>
      rw [horigin, horigin'] at hname
      rw [horigin] at ho
      rw [horigin', ← hsort] at ho'
      have hreg := registered_of_mem ho
      have hreg' := registered_of_mem ho'
      rcases suffix_cases hreg.known hreg'.known hname with rfl | hplain | hplain
      · -- one suffix behind both: then the names of the symbols are the same
        obtain rfl := (String.append_left_inj _).mp hname
        exact Or.inr ⟨base, s, s', suffix, rfl, rfl⟩
      · exact Or.inl (.suffixed horigin horigin' (Or.inl ⟨hplain.1, hplain.2,
          hreg.not_facet hplain.1 hreg'.known hplain.2 hname⟩))
      · exact Or.inl (.suffixed horigin horigin' (Or.inr ⟨hplain.1, hplain.2,
          hreg'.not_facet hplain.1 hreg.known hplain.2 hname.symm⟩))

/-- Names that are formed alike, but not with one key, are those of two symbols. -/
theorem symbol_ne {d d' : Declaration} {s' : Symbol} (hsort : d.sort = d'.sort)
    (horigin : d.origin = .formed base s suffix) (horigin' : d'.origin = .formed base s' suffix)
    (hkey : ∀ key, declarationKey? d = some key → ∀ key', declarationKey? d' = some key' →
      key ≠ key') : s ≠ s' := by
  intro heq
  refine hkey (d.sort, s, suffix) ?_ (d'.sort, s', suffix) ?_ ?_
  · rw [declarationKey?, horigin, originKey?_formed]
  · rw [declarationKey?, horigin', originKey?_formed]
  · rw [hsort, heq]

/-- Two declared components that have one sort and one name, and not one key. -/
theorem Orderly.clash_of_signature (h : c.Orderly) {d d' : Declaration} {ns : String}
    (hd : d ∈ c.declarationsIn ns) (hd' : d' ∈ c.declarationsIn ns)
    (hkey : ∀ key, declarationKey? d = some key → ∀ key', declarationKey? d' = some key' →
      key ≠ key')
    (hsame : d.signature = d'.signature) : c.Clash d d' := by
  obtain ⟨format, -, -, ho⟩ := mem_declarationsIn hd
  obtain ⟨format', -, -, ho'⟩ := mem_declarationsIn hd'
  rcases clash_or_alike ho ho' hsame with hclash | ⟨base, s, s', suffix, horigin, horigin'⟩
  · exact hclash
  · exact h.clash_of_base hd hd' horigin horigin'
      (symbol_ne (Prod.mk.inj hsame).1 horigin horigin' hkey)

/-- An open enumeration, and a type that has the name of its base. -/
def colorRun : List Change :=
  [.add (sampleLibrary "Colors" (some "urn:colors") [])
    [sampleMember "Color" (.enumeration { isOpen := true, values := [], extension := none }),
      sampleMember "Color_Base" (.simpleType {})]]

theorem colorRun_components :
    let c := schemaContext (run (colorRun ++ [.refresh])) [⟨0⟩, ⟨1⟩]
    ∃ made, c.options.formats.targets.foldlM (Generator.emit c) ([], []) = .ok made ∧
      ¬ ((componentsIn made.1 "urn:colors").map Component.signature).Nodup := by
  intro c
  obtain ⟨made, hemit, -, hmade⟩ :=
    exists_librarySchemas colorRun [⟨0⟩, ⟨1⟩] (by decide +kernel)
  obtain ⟨d, hd, hspace, hclash⟩ : ∃ d ∈ c.librarySchemas,
      d.spaces.contains "urn:colors" = true ∧
        ¬ (d.schema.components.map Component.signature).Nodup := by
    decide +kernel
  refine ⟨made, hemit, fun hnodup => hclash (hnodup.sublist ?_)⟩
  have hmem : d ∈ made.1.filter fun d => d.spaces.contains "urn:colors" :=
    List.mem_filter.mpr ⟨(hmade d).mpr hd, hspace⟩
  have hsublist : d.schema.components.Sublist (componentsIn made.1 "urn:colors") := by
    rw [componentsIn, List.flatMap_def]
    exact List.sublist_flatten_of_mem (List.mem_map_of_mem hmem)
  exact hsublist.map _

/-- The components that the documents of a generation have in a namespace, where no errors
were reported: two of one sort have one name only in the ways that `Clash` lists. -/
theorem components_clash (cs : List Change) (roots : List EntityId) (options : GenerationOptions)
    (ns : String) (hclean : (run cs).refresh.2.hasErrors = false) :
    let m := run (cs ++ [.refresh])
    let c := ({ model := m } : Generator).context options (Scope.build m roots none) false
    ∃ made, options.formats.targets.foldlM (Generator.emit c) ([], []) = .ok made ∧
      (componentsIn made.1 ns).map Component.signature =
        (c.declarationsIn ns).map Declaration.signature ∧
      (c.declarationsIn ns).Pairwise fun d d' => d.signature = d'.signature → c.Clash d d' := by
  intro m c
  have h : c.Orderly := orderly_context cs hclean roots options
  obtain ⟨made, hemit, hmade⟩ := exists_emitted h.toClosed options.formats.targets
  refine ⟨made, hemit, ?_, ?_⟩
  · rw [hmade]
    exact signatures_componentsIn h.toClosed ns
  · have hkeys := h.nodup_keys ns
    rw [List.Nodup, List.pairwise_filterMap] at hkeys
    exact hkeys.imp_of_mem fun hd hd' hkey hsame => h.clash_of_signature hd hd' hkey hsame

/-- The two types of the sample that have one name: one is the name of an entity, the
other that of an enumeration with a suffix. -/
theorem colorRun_clash :
    let c := schemaContext (run (colorRun ++ [.refresh])) [⟨0⟩, ⟨1⟩]
    (run colorRun).refresh.2.hasErrors = false ∧
      ∃ d ∈ c.declarationsIn "urn:colors", ∃ d' ∈ c.declarationsIn "urn:colors",
        d.signature = d'.signature ∧ c.Clash d d' := by
  intro c
  have hclean : (run colorRun).refresh.2.hasErrors = false := by decide +kernel
  obtain ⟨made, hemit, hnodup⟩ := colorRun_components
  obtain ⟨made', hemit', hsignatures, hclash⟩ :=
    components_clash colorRun [⟨0⟩, ⟨1⟩] schemaOptions "urn:colors" hclean
  obtain rfl := Except.ok.inj (hemit.symm.trans hemit')
  refine ⟨hclean, ?_⟩
  by_contra hnone
  refine hnodup ?_
  rw [hsignatures, List.Nodup, List.pairwise_map]
  refine hclash.imp_of_mem fun hd hd' h hsame => hnone ⟨_, hd, _, hd', hsame, h hsame⟩

/-- Nothing is reported, and two types of a namespace have one name. -/
theorem colorRun_not_unique :
    let c := schemaContext (run (colorRun ++ [.refresh])) [⟨0⟩, ⟨1⟩]
    (run colorRun).refresh.2 = [] ∧
      ∃ made, c.options.formats.targets.foldlM (Generator.emit c) ([], []) = .ok made ∧
        ¬ ((componentsIn made.1 "urn:colors").map Component.signature).Nodup := by
  intro c
  exact ⟨by decide +kernel, colorRun_components⟩

end GenerationContext

end TravelModel
