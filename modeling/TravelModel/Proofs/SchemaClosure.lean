import TravelModel.Proofs.ClosedScope

/-!
# TravelModel — schemas declare what they refer to

What the components of an entity refer to is accounted for one component at a
time: a standard name, the type of a reference that the entity needs, or a type
beside it. A needed reference leads to an entity in scope, whose components
declare the type; what is left is whether the namespace that is written finds the
document of its library.

Main results:

* `accounted_components` — all names in the components of an entity are accounted
  for.
* `exists_type_typeName?` — an entity declares the type that each of its names
  stands for.
* `located_of_component` — a component of an entity that is reached is found under
  the namespace that is written for the entity.
* `schemas_declare_references` — the schemas of a generation declare what they
  refer to, but for names of hidden libraries.
-/

namespace TravelModel

namespace Xsd

/-! ## Uses -/

/-- Types and elements have names of their own. -/
inductive ComponentSort where
  | type
  | element
deriving DecidableEq, Repr

namespace Component

/-- Whether a component is a type or an element. -/
def sort : Component → ComponentSort
  | simpleType _ | complexType _ => .type
  | element _ => .element

/-- What a term refers to. -/
def termUse (t : Term) : ComponentSort × QName :=
  match t with
  | .element _ type _ => (.type, type)
  | .ref name => (.element, name)

/-- What the content of a complex type refers to. -/
def contentUses : ComplexContent → List (ComponentSort × QName)
  | .sequence ps => ps.map fun p => termUse p.term
  | .simpleExtension base => [(.type, base)]
  | .extension base ps => (.type, base) :: ps.map fun p => termUse p.term

/-- The names a component refers to, with what they have to stand for. -/
def uses : Component → List (ComponentSort × QName)
  | simpleType t =>
    match t.derivation with
    | .restriction base _ => [(.type, base)]
    | .list item => [(.type, item)]
  | complexType t => contentUses t.content ++ t.attributes.map fun a => (.type, a.type)
  | element e => (.type, e.type) :: (e.substitutionGroup.map fun q => (ComponentSort.element, q)).toList

theorem snd_termUse (t : Term) : (termUse t).2 = t.reference := by
  cases t <;> rfl

theorem map_snd_uses (k : Component) : k.uses.map Prod.snd = k.references := by
  cases k with
  | simpleType t =>
    rw [uses, references]
    cases t.derivation <;> rfl
  | complexType t =>
    rw [uses, references, List.map_append, List.map_map]
    cases t.content <;> simp [contentUses, snd_termUse, Function.comp_def]
  | element e =>
    rw [uses, references]
    cases e.substitutionGroup <;> rfl

end Component

/-- A document declares a type or an element of a name. -/
def Document.Declares (d : Document) (sort : ComponentSort) (name : String) : Prop :=
  ∃ k ∈ d.schema.components, k.sort = sort ∧ k.name = name

instance (d : Document) (sort : ComponentSort) (name : String) :
    Decidable (d.Declares sort name) :=
  inferInstanceAs (Decidable (∃ k ∈ d.schema.components, _))

/-- A name of the primitive types or of the common library. -/
def QName.Standard (q : QName) : Prop :=
  q.ns = some primitiveNamespace ∨ q.ns = some Builtin.commonNamespace

end Xsd

namespace GenerationContext

open Xsd Model

variable {c : GenerationContext}

/-! ## What the components of an entity refer to -/

/-- A use in the components `ks` written for an entity: a standard name, the type
of a reference that the entity needs, or a type of its own that the components
declare. -/
def Accounted (c : GenerationContext) (e : NamedEntity) (ks : List Component)
    (u : ComponentSort × QName) : Prop :=
  u.2.Standard ∨ u.1 = .type ∧
    ((∃ r, c.model.Needs e.id r ∧ u.2 = c.typeQName r e.library) ∨
      ∃ name, u.2 = c.ownQName e name ∧ ∃ k ∈ ks, k.sort = .type ∧ k.name = name)

theorem Accounted.mono {e : NamedEntity} {ks ks' : List Component} {u : ComponentSort × QName}
    (h : c.Accounted e ks u) (hsub : ∀ k ∈ ks, k ∈ ks') : c.Accounted e ks' u := by
  rcases h with h | ⟨hsort, h | ⟨name, hq, k, hk, hname⟩⟩
  · exact Or.inl h
  · exact Or.inr ⟨hsort, Or.inl h⟩
  · exact Or.inr ⟨hsort, Or.inr ⟨name, hq, k, hsub k hk, hname⟩⟩

theorem standard_primitive (name : String) : (QName.primitive name).Standard :=
  Or.inl rfl

theorem standard_commonQName (name : String) : (commonQName name).Standard :=
  Or.inr rfl

/-- The names in the type of a content. -/
theorem uses_facetType {name : String} {doc : Option String} {content : FacetContent}
    {kind : Option FacetKind} {library : LibraryId} {u : ComponentSort × QName}
    (h : u ∈ (Component.complexType (c.facetType name doc content kind library)).uses) :
    u.2.Standard ∨ u.1 = .type ∧ ∃ r ∈ refs content, u.2 = c.typeQName r library := by
  simp only [Component.uses, facetType, Component.contentUses, List.mem_append, List.mem_map] at h
  rcases h with ⟨p, (⟨x, hx, rfl⟩ | ⟨i, -, rfl⟩) | hp, rfl⟩ | ⟨a, ha | ⟨i, -, rfl⟩, rfl⟩
  · -- an element refers to its type, or to a primitive by number
    rw [elementParticle]
    split
    · exact Or.inl (standard_primitive _)
    · exact Or.inr ⟨rfl, x.type, FacetContent.mem_refs.mpr (Or.inr ⟨x, hx, rfl⟩), rfl⟩
  · exact Or.inl (standard_primitive _)
  · rw [extensionParticles] at hp
    split at hp
    · exact absurd hp List.not_mem_nil
    · obtain ⟨element, -, rfl⟩ := List.mem_map.mp hp
      exact Or.inl (standard_commonQName _)
  · obtain ⟨x, hx, rfl⟩ := List.mem_map.mp ha
    exact Or.inr ⟨rfl, x.type, FacetContent.mem_refs.mpr (Or.inl ⟨x, hx, rfl⟩), rfl⟩
  · exact Or.inl (standard_primitive _)

theorem uses_ownElement {e : NamedEntity} {name type : String} {u : ComponentSort × QName}
    (h : u ∈ (c.ownElement e name type).uses) : u = (.type, c.ownQName e type) := by
  simpa [ownElement, Component.uses] using h

/-- The type of a content with elements of that type. -/
theorem accounted_typeWithElements {e : NamedEntity} {type : String} {doc : Option String}
    {content : FacetContent} {kind : Option FacetKind} (names : List String)
    (hneeds : ∀ r ∈ refs content, c.model.Needs e.id r) {k : Component}
    (hk : k ∈ Component.complexType (c.facetType type doc content kind e.library) ::
      names.map fun name => c.ownElement e name type) {u : ComponentSort × QName}
    (hu : u ∈ k.uses) :
    c.Accounted e [Component.complexType (c.facetType type doc content kind e.library)] u := by
  rcases List.mem_cons.mp hk with rfl | hk
  · rcases uses_facetType hu with h | ⟨hsort, r, hr, hq⟩
    · exact Or.inl h
    · exact Or.inr ⟨hsort, Or.inl ⟨r, hneeds r hr, hq⟩⟩
  · obtain ⟨name, -, rfl⟩ := List.mem_map.mp hk
    rw [uses_ownElement hu]
    exact Or.inr ⟨rfl, Or.inr ⟨type, rfl, _, List.mem_singleton_self _, rfl, rfl⟩⟩

theorem accounted_fixedFacet {e : NamedEntity} {kind : FacetKind} {k : Component}
    (hk : k ∈ c.fixedFacetComponents e kind) {u : ComponentSort × QName} (hu : u ∈ k.uses) :
    c.Accounted e (c.fixedFacetComponents e kind) u := by
  refine (accounted_typeWithElements _ (fun r hr => needs_of_facetContent hr) hk hu).mono ?_
  intro k' hk'
  rw [List.mem_singleton.mp hk']
  exact List.mem_cons_self

theorem accounted_ghosts {e : NamedEntity} {k : Component} (hk : k ∈ c.allGhostComponents e)
    {u : ComponentSort × QName} (hu : u ∈ k.uses) : c.Accounted e (c.allGhostComponents e) u := by
  obtain ⟨g, hg, hk⟩ := List.mem_flatMap.mp hk
  have hsub : ∀ k ∈ c.ghostComponents e g, k ∈ c.allGhostComponents e :=
    fun k hk => List.mem_flatMap.mpr ⟨g, hg, hk⟩
  refine Accounted.mono ?_ hsub
  unfold ghostComponents at hk ⊢
  split at hk
  · exact absurd hk List.not_mem_nil
  · next source hsource =>
    split at hk
    · next f hbody =>
      refine (accounted_typeWithElements [_]
        (fun r hr => needs_of_ghostFacet hg hsource hbody hr) hk hu).mono ?_
      intro k' hk'
      rw [List.mem_singleton.mp hk']
      exact List.mem_cons_self
    · exact absurd hk List.not_mem_nil

/-- The names of a simple type, an enumeration or a value with attributes. -/
theorem accounted_simpleType {e : NamedEntity} {t : SimpleType}
    (he : c.model.entity? e.id = some e) (hbody : e.body = .simpleType t) {k : Component}
    (hk : k ∈ c.simpleTypeComponents e t) {u : ComponentSort × QName} (hu : u ∈ k.uses) :
    c.Accounted e (c.simpleTypeComponents e t) u := by
  -- a list and a restriction both refer to the base alone
  have hbase : u = (.type, (t.base.map fun b => c.typeQName b e.library).getD
      (.primitive "string")) := by
    rw [simpleTypeComponents, List.mem_singleton] at hk
    rw [hk] at hu
    unfold Component.uses at hu
    dsimp only at hu
    split at hu
    · next h =>
      split at h
      · cases h
      · cases h
        exact List.mem_singleton.mp hu
    · next h =>
      split at h
      · cases h
        exact List.mem_singleton.mp hu
      · cases h
  rw [hbase]
  cases hb : t.base with
  | none => exact Or.inl (standard_primitive _)
  | some b =>
    refine Or.inr ⟨rfl, Or.inl ⟨b, needs_of_mem he ?_, rfl⟩⟩
    rw [hbody]
    exact mem_refs_option.mpr ⟨b, hb, mem_refs_reference.mpr rfl⟩

theorem accounted_enumeration {e : NamedEntity} {x : Enumeration} {k : Component}
    (hk : k ∈ c.enumerationComponents e x) {u : ComponentSort × QName} (hu : u ∈ k.uses) :
    c.Accounted e (c.enumerationComponents e x) u := by
  unfold enumerationComponents at hk ⊢
  dsimp only at hk ⊢
  split at hk
  · next hopen =>
    rw [if_pos hopen]
    simp only [List.mem_cons, List.not_mem_nil, or_false] at hk
    rcases hk with rfl | rfl
    · rw [List.mem_singleton.mp hu]
      exact Or.inl (standard_primitive _)
    · -- the extended base is declared beside it
      simp only [Component.uses, Component.contentUses, List.map_cons, List.map_nil,
        List.singleton_append, List.mem_cons, List.not_mem_nil, or_false] at hu
      rcases hu with rfl | rfl
      · exact Or.inr ⟨rfl, Or.inr ⟨_, rfl, _, List.mem_cons_self, rfl, rfl⟩⟩
      · exact Or.inl (standard_primitive _)
  · rw [List.mem_singleton.mp hk] at hu
    rw [List.mem_singleton.mp hu]
    exact Or.inl (standard_primitive _)

theorem accounted_value {e : NamedEntity} {v : ValueWithAttributes}
    (he : c.model.entity? e.id = some e) (hbody : e.body = .valueWithAttributes v) {k : Component}
    (hk : k ∈ c.valueComponents e v) {u : ComponentSort × QName} (hu : u ∈ k.uses) :
    c.Accounted e (c.valueComponents e v) u := by
  rw [valueComponents, List.mem_singleton] at hk
  subst hk
  simp only [Component.uses, Component.contentUses, List.singleton_append, List.mem_cons,
    List.mem_map, List.mem_append] at hu
  rcases hu with rfl | ⟨a, ha | ⟨i, -, rfl⟩, rfl⟩
  · cases hv : v.valueType with
    | none => exact Or.inl (standard_commonQName _)
    | some t =>
      refine Or.inr ⟨rfl, Or.inl ⟨t, needs_of_mem he ?_, rfl⟩⟩
      rw [hbody]
      exact mem_refs_pair.mpr
        (Or.inl (mem_refs_option.mpr ⟨t, hv, mem_refs_reference.mpr rfl⟩))
  · obtain ⟨x, hx, rfl⟩ := List.mem_map.mp ha
    refine Or.inr ⟨rfl, Or.inl ⟨x.type, needs_of_mem he ?_, rfl⟩⟩
    rw [hbody]
    exact mem_refs_pair.mpr (Or.inr (FacetContent.mem_refs.mpr (Or.inl ⟨x, hx, rfl⟩)))
  · exact Or.inl (standard_primitive _)

theorem accounted_core {e : NamedEntity} {o : CoreObject} (he : c.model.entity? e.id = some e)
    (hbody : e.body = .coreObject o) {k : Component} (hk : k ∈ c.coreComponents e o)
    {u : ComponentSort × QName} (hu : u ∈ k.uses) : c.Accounted e (c.coreComponents e o) u := by
  rw [coreComponents] at hk
  rcases List.mem_cons.mp hk with rfl | hk
  · rw [List.mem_singleton.mp hu]
    cases ht : o.simpleType with
    | none => exact Or.inl (standard_primitive _)
    | some t =>
      refine Or.inr ⟨rfl, Or.inl ⟨t, needs_of_mem he ?_, rfl⟩⟩
      rw [hbody]
      exact mem_refs_pair.mpr (Or.inr (mem_refs_pair.mpr
        (Or.inl (mem_refs_option.mpr ⟨t, ht, mem_refs_reference.mpr rfl⟩))))
  · split at hk
    · exact absurd hk List.not_mem_nil
    · rw [List.mem_singleton.mp hk] at hu
      rw [List.mem_singleton.mp hu]
      exact Or.inl (standard_primitive _)

theorem accounted_contextual (hm : c.model.WellFormed) {e : NamedEntity} {f : ContextualFacet}
    (he : c.model.entity? e.id = some e) (hbody : e.body = .contextualFacet f) {k : Component}
    (hk : k ∈ c.contextualComponents e f) {u : ComponentSort × QName} (hu : u ∈ k.uses) :
    c.Accounted e (c.contextualComponents e f) u := by
  refine (accounted_typeWithElements [_]
    (fun r hr => needs_of_contextualFacet hm he hbody hr) hk hu).mono ?_
  intro k' hk'
  rw [List.mem_singleton.mp hk']
  exact List.mem_cons_self

theorem accounted_extension {e : NamedEntity} {f : ExtensionPointFacet}
    (he : c.model.entity? e.id = some e) (hbody : e.body = .extensionPointFacet f) {k : Component}
    (hk : k ∈ c.extensionComponents e f) {u : ComponentSort × QName} (hu : u ∈ k.uses) :
    c.Accounted e (c.extensionComponents e f) u := by
  -- the type is that of the content, or extends the common extension point with it
  have htype : ∀ u ∈ (Component.complexType (c.facetType (c.extensionPointType e f.extended)
      e.documentation f.content none e.library)).uses, c.Accounted e [] u := by
    intro u hu
    rcases uses_facetType hu with h | ⟨hsort, r, hr, hq⟩
    · exact Or.inl h
    · refine Or.inr ⟨hsort, Or.inl ⟨r, needs_of_mem he ?_, hq⟩⟩
      rw [hbody]
      exact mem_refs_pair.mpr (Or.inr hr)
  have hnone : ∀ k ∈ ([] : List Component), k ∈ c.extensionComponents e f :=
    fun k hk => absurd hk List.not_mem_nil
  unfold extensionComponents at hk hnone ⊢
  dsimp only at hk hnone ⊢
  -- all that matters is whether there is an element to stand in for
  generalize (if c.options.suppressExtensions = true then none
    else (c.extendedKind? f.extended).bind Naming.extensionElement?) = group at hk hnone ⊢
  rcases List.mem_cons.mp hk with rfl | hk
  · cases group with
    | none => exact (htype u hu).mono hnone
    | some element =>
      rcases List.mem_cons.mp hu with rfl | hu
      · exact Or.inl (standard_commonQName _)
      · exact (htype u hu).mono hnone
  · rw [List.mem_singleton.mp hk] at hu
    rcases List.mem_cons.mp hu with rfl | hu
    · refine Or.inr ⟨rfl, Or.inr ⟨_, rfl, _, List.mem_cons_self, ?_⟩⟩
      cases group with
      | none => exact ⟨rfl, rfl⟩
      | some element => exact ⟨rfl, rfl⟩
    · cases group with
      | none => exact absurd hu List.not_mem_nil
      | some element =>
        rw [List.mem_singleton.mp hu]
        exact Or.inl (standard_commonQName _)

/-- The names in the components of an entity. -/
theorem accounted_components (hm : c.model.WellFormed) {e : NamedEntity}
    (he : c.model.entity? e.id = some e) {k : Component} (hk : k ∈ c.components e)
    {u : ComponentSort × QName} (hu : u ∈ k.uses) : c.Accounted e (c.components e) u := by
  unfold components at hk ⊢
  cases hbody : e.body with
  | simpleType t =>
    rw [hbody] at hk
    exact accounted_simpleType he hbody hk hu
  | enumeration x =>
    rw [hbody] at hk
    exact accounted_enumeration hk hu
  | valueWithAttributes v =>
    rw [hbody] at hk
    exact accounted_value he hbody hk hu
  | coreObject o =>
    rw [hbody] at hk
    rcases List.mem_append.mp hk with hk | hk
    · rcases List.mem_append.mp hk with hk | hk
      · exact (accounted_core he hbody hk hu).mono fun k' hk' =>
          List.mem_append_left _ (List.mem_append_left _ hk')
      · obtain ⟨kind, hkind, hk⟩ := List.mem_flatMap.mp hk
        exact (accounted_fixedFacet hk hu).mono fun k' hk' =>
          List.mem_append_left _ (List.mem_append_right _ (List.mem_flatMap.mpr ⟨kind, hkind, hk'⟩))
    · exact (accounted_ghosts hk hu).mono fun k' hk' => List.mem_append_right _ hk'
  | businessObject o =>
    rw [hbody] at hk
    rcases List.mem_append.mp hk with hk | hk
    · obtain ⟨kind, hkind, hk⟩ := List.mem_flatMap.mp hk
      exact (accounted_fixedFacet hk hu).mono fun k' hk' =>
        List.mem_append_left _ (List.mem_flatMap.mpr ⟨kind, hkind, hk'⟩)
    · exact (accounted_ghosts hk hu).mono fun k' hk' => List.mem_append_right _ hk'
  | choiceObject o =>
    rw [hbody] at hk
    rcases List.mem_append.mp hk with hk | hk
    · exact (accounted_fixedFacet hk hu).mono fun k' hk' => List.mem_append_left _ hk'
    · exact (accounted_ghosts hk hu).mono fun k' hk' => List.mem_append_right _ hk'
  | contextualFacet f =>
    rw [hbody] at hk
    exact accounted_contextual hm he hbody hk hu
  | extensionPointFacet f =>
    rw [hbody] at hk
    exact accounted_extension he hbody hk hu
  | resource r =>
    rw [hbody] at hk
    exact absurd hk List.not_mem_nil
  | service s =>
    rw [hbody] at hk
    exact absurd hk List.not_mem_nil

/-! ## What a type reference stands for -/

theorem exists_type_fixedFacet (e : NamedEntity) (kind : FacetKind) :
    ∃ k ∈ c.fixedFacetComponents e kind, k.sort = .type ∧ k.name = Naming.facetType e.name kind :=
  ⟨_, List.mem_cons_self, rfl, rfl⟩

/-- Every fixed facet has a type. -/
theorem exists_type_facet {e : NamedEntity} {kind : FacetKind}
    (h : kind ∈ e.body.fixedFacetKinds) :
    ∃ k ∈ c.components e, k.sort = .type ∧ k.name = Naming.facetType e.name kind := by
  obtain ⟨k, hk, htype⟩ := exists_type_fixedFacet (c := c) e kind
  unfold components
  cases hbody : e.body with
  | coreObject o =>
    simp only [hbody, EntityBody.fixedFacetKinds, List.mem_cons, List.not_mem_nil, or_false] at h
    dsimp only
    rcases h with rfl | h
    · -- the simple facet is a type of its own
      exact ⟨_, List.mem_append_left _ (List.mem_append_left _ List.mem_cons_self), rfl, rfl⟩
    · refine ⟨k, List.mem_append_left _ (List.mem_append_right _ ?_), htype⟩
      exact List.mem_flatMap.mpr ⟨kind, by simpa using h, hk⟩
  | businessObject o =>
    rw [hbody] at h
    exact ⟨k, List.mem_append_left _ (List.mem_flatMap.mpr ⟨kind, h, hk⟩), htype⟩
  | choiceObject o =>
    rw [hbody] at h
    obtain rfl := List.mem_singleton.mp h
    exact ⟨k, List.mem_append_left _ hk, htype⟩
  | _ =>
    rw [hbody] at h
    exact absurd h List.not_mem_nil

/-- The type that a reference to an entity stands for is declared by it. -/
theorem exists_type_declaredType (e : NamedEntity) :
    (HasNoTypes e ∧ c.declaredType e = e.name) ∨
      ∃ k ∈ c.components e, k.sort = .type ∧ k.name = c.declaredType e := by
  unfold declaredType
  cases hbody : e.body with
  | simpleType t =>
    right
    rw [components, hbody]
    exact ⟨_, List.mem_cons_self, rfl, rfl⟩
  | enumeration x =>
    right
    rw [components, hbody]
    dsimp only [enumerationComponents]
    split
    · exact ⟨_, List.mem_cons_of_mem _ List.mem_cons_self, rfl, rfl⟩
    · exact ⟨_, List.mem_cons_self, rfl, rfl⟩
  | valueWithAttributes v =>
    right
    rw [components, hbody]
    exact ⟨_, List.mem_cons_self, rfl, rfl⟩
  | coreObject o =>
    exact Or.inr (exists_type_facet (by simp [hbody, EntityBody.fixedFacetKinds]))
  | businessObject o =>
    exact Or.inr (exists_type_facet (by simp [hbody, EntityBody.fixedFacetKinds]))
  | choiceObject o =>
    exact Or.inr (exists_type_facet (by simp [hbody, EntityBody.fixedFacetKinds]))
  | contextualFacet f =>
    right
    rw [components, hbody]
    exact ⟨_, List.mem_cons_self, rfl, rfl⟩
  | extensionPointFacet f =>
    right
    rw [components, hbody]
    refine ⟨_, List.mem_cons_self, rfl, ?_⟩
    dsimp only [Component.name]
    split <;> rfl
  | resource r =>
    left
    exact ⟨Or.inl (by rw [NamedEntity.kind, hbody]; rfl), rfl⟩
  | service x =>
    left
    exact ⟨Or.inr (by rw [NamedEntity.kind, hbody]; rfl), rfl⟩

/-- The type that a name of an entity stands for is declared by it. -/
theorem exists_type_typeName? {e : NamedEntity} (he : c.model.entity? e.id = some e)
    {name type : String} {s : Symbol} (hs : (name, s) ∈ e.symbolNames)
    (htype : c.typeName? s = some type) :
    (HasNoTypes e ∧ type = e.name) ∨ ∃ k ∈ c.components e, k.sort = .type ∧ k.name = type := by
  rcases typeName?_cases he hs with h | ⟨kind, hkind, h⟩
  · obtain rfl := Option.some.inj (htype.symm.trans h)
    exact exists_type_declaredType e
  · obtain rfl := Option.some.inj (htype.symm.trans h)
    exact Or.inr (exists_type_facet hkind)

/-- What a needed reference is written as: the primitive string, or a type that an
entity of the scope declares. -/
theorem typeQName_cases (hm : c.model.Settled) {id : EntityId} {r : Reference}
    (hr : c.model.Needs id r) (viewer : LibraryId) :
    (c.typeQName r viewer).Standard ∨
      ∃ o type, c.model.entity? o.id = some o ∧ c.model.Reaches id o.id ∧
        c.typeQName r viewer = ⟨c.entityNamespace? o.id (some viewer), type⟩ ∧
        ((HasNoTypes o ∧ type = o.name) ∨
          ∃ k ∈ c.components o, k.sort = .type ∧ k.name = type) := by
  unfold typeQName
  split
  · next s type hbound =>
    right
    obtain ⟨s', hs', hmap⟩ := Option.bind_eq_some_iff.mp hbound
    obtain ⟨type', htype, heq⟩ := Option.map_eq_some_iff.mp hmap
    obtain ⟨rfl, rfl⟩ := Prod.mk.inj heq
    obtain ⟨o, ho, howner, hreach, name, hname⟩ := hr.target hm hs'
    rw [howner] at ho ⊢
    exact ⟨o, type', ho, hreach, rfl, exists_type_typeName? ho hname htype⟩
  · exact Or.inl (standard_primitive _)

/-! ## The documents of a generation -/

theorem getFitting_standard (kind : EntityKind) :
    Registry.standard.getFitting kind .xmlSchema = .ok (Registry.standardComponents kind) := by
  cases kind <;> rfl

theorem registeredComponents_eq (h : c.registry = .standard) (e : NamedEntity) :
    c.registeredComponents e = .ok (c.components e) := by
  rw [registeredComponents, h, getFitting_standard]
  cases hbody : e.body with
  | resource r =>
    rw [NamedEntity.kind, components, hbody]
    rfl
  | service x =>
    rw [NamedEntity.kind, components, hbody]
    rfl
  | _ =>
    rw [NamedEntity.kind, components, hbody]
    rfl

/-- The document of a library, given its file. -/
def schemaDocument (c : GenerationContext) (l : Library) (path : String) : Document :=
  { path, library := some l.id, hosts := c.libraryHosts l, service := false
    schema :=
      { targetNamespace := c.libraryNamespace? l, version := some l.version
        documentation := l.documentation
        components := (c.emittedEntities l.id).flatMap c.components } }

/-- The documents of the libraries in the order. -/
def schemaDocuments (c : GenerationContext) : List Document :=
  (c.libraryFiles .xmlSchema).map fun d => c.schemaDocument d.1 d.2

theorem libraryDocument_eq (h : c.registry = .standard) (l : Library) :
    libraryDocument c l = .ok ((c.libraryFile? l .xmlSchema).toList.map (c.schemaDocument l)) := by
  rw [libraryDocument]
  split
  · next hfile => rw [hfile]; rfl
  · next path hfile =>
    rw [mapM_eq_ok fun e _ => registeredComponents_eq h e, hfile]
    rfl

theorem libraryDocuments_eq (hc : c.Closed) : libraryDocuments c = .ok c.schemaDocuments := by
  refine mapM_order_eq hc (libraryDocument_eq hc.registry) fun id l hl => ?_
  rw [checkCancelled, hc.running, hl]
  rfl

theorem mem_schemaDocuments (hm : c.model.WellFormed) {d : Document} :
    d ∈ c.schemaDocuments ↔ ∃ l path, l.id ∈ c.order ∧ c.model.library? l.id = some l ∧
      c.libraryFile? l .xmlSchema = some path ∧ d = c.schemaDocument l path := by
  rw [schemaDocuments, List.mem_map]
  constructor
  · rintro ⟨⟨l, path⟩, hmem, rfl⟩
    obtain ⟨hid, hl, hpath⟩ := (mem_libraryFiles hm).mp hmem
    exact ⟨l, path, hid, hl, hpath, rfl⟩
  · rintro ⟨l, path, hid, hl, hpath, rfl⟩
    exact ⟨(l, path), (mem_libraryFiles hm).mpr ⟨hid, hl, hpath⟩, rfl⟩

/-- Each user library in scope has a document. -/
theorem exists_schemaDocument (hc : c.Closed) {l : Library} (hid : l.id ∈ c.order)
    (hl : c.model.library? l.id = some l) :
    ∃ path, c.schemaDocument l path ∈ c.schemaDocuments := by
  obtain ⟨l', hl', huser⟩ := hc.user hid
  rw [hl, Option.some.injEq] at hl'
  obtain ⟨path, hpath⟩ := c.exists_libraryFile? (hl' ▸ huser) (Or.inl rfl)
  exact ⟨path, (mem_schemaDocuments hc.settled.wellFormed).mpr ⟨l, path, hid, hl, hpath, rfl⟩⟩

theorem declares_schemaDocument {l : Library} (path : String) {o : NamedEntity}
    (ho : o ∈ c.emittedEntities l.id) {k : Component} (hk : k ∈ c.components o) :
    (c.schemaDocument l path).Declares k.sort k.name :=
  ⟨k, List.mem_flatMap.mpr ⟨o, ho, hk⟩, rfl, rfl⟩

/-- A document is found where its library is seen. -/
theorem mem_spaces_schemaDocument {l : Library} {path ns : String}
    (h : c.libraryNamespace? l = some ns ∨ l.ns = none ∧ ns ∈ c.libraryHosts l) :
    ns ∈ (c.schemaDocument l path).spaces := by
  rw [Document.spaces, schemaDocument]
  dsimp only
  rcases h with h | ⟨hnone, hhost⟩
  · rw [h]
    exact List.mem_singleton_self ns
  · rw [libraryNamespace?_eq_none.mpr hnone]
    exact hhost

/-! ## Where names are found -/

/-- The name of a component of an entity, as a library sees it, whose library comes with
the program and is neither that of the primitive types nor the common one. -/
def NamesBuiltIn (c : GenerationContext) (viewer : Option LibraryId) (q : QName) : Prop :=
  ∃ o l, c.model.entity? o.id = some o ∧ c.model.owner? o.id = some l ∧ l.builtIn = true ∧
    l.ns ≠ some primitiveNamespace ∧ l.ns ≠ some Builtin.commonNamespace ∧
    ∃ k ∈ c.components o, q = ⟨c.entityNamespace? o.id viewer, k.name⟩

/-- The name of a resource or a service, as a library sees it. -/
def NamesUntyped (c : GenerationContext) (viewer : Option LibraryId) (q : QName) : Prop :=
  ∃ o, c.model.entity? o.id = some o ∧ HasNoTypes o ∧ q = ⟨c.entityNamespace? o.id viewer, o.name⟩

/-- A document of the namespace of a name declares it; without a namespace, one
without a namespace of the same library does. -/
def Found (documents : List Document) (viewer : Option LibraryId) (u : ComponentSort × QName) :
    Prop :=
  (∃ ns, u.2.ns = some ns ∧ ∃ d ∈ documents, ns ∈ d.spaces ∧ d.Declares u.1 u.2.name) ∨
    u.2.ns = none ∧ ∃ d ∈ documents, d.library = viewer ∧ d.schema.targetNamespace = none ∧
      d.Declares u.1 u.2.name

/-- A name without a namespace that only another library declares. That library
is hidden, and a contextual facet of it is taken in elsewhere. -/
def Stray (c : GenerationContext) (documents : List Document) (viewer : Option LibraryId)
    (u : ComponentSort × QName) : Prop :=
  u.2.ns = none ∧ ∃ l, c.model.library? l.id = some l ∧ viewer ≠ some l.id ∧
    c.model.Hidden l ∧ c.model.AdoptedAbroad l ∧
    ∃ d ∈ documents, d.library = some l.id ∧ d.Declares u.1 u.2.name

/-- Where a name can lead. -/
def Located (c : GenerationContext) (documents : List Document) (viewer : Option LibraryId)
    (u : ComponentSort × QName) : Prop :=
  u.2.Standard ∨ c.NamesBuiltIn viewer u.2 ∨ c.NamesUntyped viewer u.2 ∨
    Found documents viewer u ∨ c.Stray documents viewer u

theorem standard_or_namesBuiltIn {o : NamedEntity} {l : Library}
    (ho : c.model.entity? o.id = some o) (hl : c.model.owner? o.id = some l)
    (hbuiltIn : l.builtIn = true) (viewer : Option LibraryId) {k : Component}
    (hk : k ∈ c.components o) :
    QName.Standard ⟨c.entityNamespace? o.id viewer, k.name⟩ ∨
      c.NamesBuiltIn viewer ⟨c.entityNamespace? o.id viewer, k.name⟩ := by
  by_cases hprimitive : l.ns = some primitiveNamespace
  · exact Or.inl (Or.inl (entityNamespace?_builtIn hl hbuiltIn hprimitive))
  · by_cases hcommon : l.ns = some Builtin.commonNamespace
    · exact Or.inl (Or.inr (entityNamespace?_builtIn hl hbuiltIn hcommon))
    · exact Or.inr ⟨o, l, ho, hl, hbuiltIn, hprimitive, hcommon, k, hk, rfl⟩

/-- A component of an entity that is reached is found under the namespace that is
written for the entity. -/
theorem located_of_component (hc : c.Closed) {library : LibraryId} {e o : NamedEntity}
    (he : e ∈ c.emittedEntities library) (hpath : c.model.Reaches e.id o.id)
    (ho : c.model.entity? o.id = some o) {k : Component} (hk : k ∈ c.components o) :
    c.Located c.schemaDocuments (some e.library)
      (k.sort, ⟨c.entityNamespace? o.id (some e.library), k.name⟩) := by
  have hm := hc.settled.wellFormed
  have hlive := ((mem_emittedEntities hm).mp he).1
  obtain ⟨l, howner, hl, hlid, hbuiltIn | ⟨horder, hemitted⟩⟩ := hc.emitted he hpath ho
  · rcases standard_or_namesBuiltIn ho howner hbuiltIn (some e.library) hk with h | h
    · exact Or.inl h
    · exact Or.inr (Or.inl h)
  · -- the library has a document, and that declares the component
    obtain ⟨path, hdocument⟩ := exists_schemaDocument hc horder (hlid ▸ hl)
    have hdeclares := declares_schemaDocument path hemitted hk
    cases hns : c.entityNamespace? o.id (some e.library) with
    | some ns =>
      exact Or.inr (Or.inr (Or.inr (Or.inl (Or.inl ⟨ns, rfl, _, hdocument,
        mem_spaces_schemaDocument (entityNamespace?_some howner hns), hdeclares⟩))))
    | none =>
      obtain ⟨hnone, hplace⟩ := entityNamespace?_none hm howner hns
      by_cases hsame : e.library = l.id
      · exact Or.inr (Or.inr (Or.inr (Or.inl (Or.inr
          ⟨rfl, _, hdocument, congrArg some hsame.symm, libraryNamespace?_eq_none.mpr hnone,
            hdeclares⟩))))
      · -- seen from another library, nothing hosts it
        have hidden : c.model.Hidden l := ⟨hnone, hplace.resolve_left hsame⟩
        have habroad :=
          (adoptedAbroad_of_reaches hc.settled hidden hpath hlive ho hl).resolve_left hsame
        exact Or.inr (Or.inr (Or.inr (Or.inr ⟨rfl, l, hlid ▸ hl,
          fun heq => hsame (Option.some.inj heq), hidden, habroad, _, hdocument, rfl, hdeclares⟩)))

/-- The type of a reference that an emitted entity needs is found. -/
theorem located_of_needs (hc : c.Closed) {library : LibraryId} {e : NamedEntity}
    (he : e ∈ c.emittedEntities library) {r : Reference} (hr : c.model.Needs e.id r) :
    c.Located c.schemaDocuments (some e.library) (.type, c.typeQName r e.library) := by
  rcases typeQName_cases hc.settled hr e.library with
    hstandard | ⟨o, type, ho, hpath, hq, ⟨huntyped, htype⟩ | ⟨k, hk, htype, hname⟩⟩
  · exact Or.inl hstandard
  · exact Or.inr (Or.inr (Or.inl ⟨o, ho, huntyped, by rw [hq, htype]⟩))
  · have hlocated := located_of_component hc he hpath ho hk
    rw [htype, hname] at hlocated
    rw [hq]
    exact hlocated

theorem located_of_accounted (hc : c.Closed) {library : LibraryId} {e : NamedEntity}
    (he : e ∈ c.emittedEntities library) {u : ComponentSort × QName}
    (hu : c.Accounted e (c.components e) u) :
    u.2.Standard ∨ u.1 = .type ∧ c.Located c.schemaDocuments (some e.library) (.type, u.2) := by
  obtain ⟨sort, q⟩ := u
  rcases hu with hstandard | ⟨hsort, ⟨r, hr, hq⟩ | ⟨name, hq, k, hk, htype, hname⟩⟩
  · exact Or.inl hstandard
  · dsimp only at hq
    subst hq
    exact Or.inr ⟨hsort, located_of_needs hc he hr⟩
  · dsimp only at hq
    subst hq hname
    have hlocated := located_of_component hc he .refl
      ((mem_emittedEntities hc.settled.wellFormed).mp he).1 hk
    rw [htype] at hlocated
    exact Or.inr ⟨hsort, hlocated⟩

theorem eq_of_library (hm : c.model.WellFormed) {d d' : Document} (hd : d ∈ c.schemaDocuments)
    (hd' : d' ∈ c.schemaDocuments) (h : d'.library = d.library) : d' = d := by
  obtain ⟨l, path, -, hl, hpath, rfl⟩ := (mem_schemaDocuments hm).mp hd
  obtain ⟨l', path', -, hl', hpath', rfl⟩ := (mem_schemaDocuments hm).mp hd'
  have hid : l'.id = l.id := Option.some.inj h
  rw [hid, hl, Option.some.injEq] at hl'
  subst hl'
  rw [hpath, Option.some.injEq] at hpath'
  rw [hpath']

theorem located_of_use (hc : c.Closed) {d : Document} (hd : d ∈ c.schemaDocuments)
    {k : Component} (hk : k ∈ d.schema.components) {u : ComponentSort × QName} (hu : u ∈ k.uses) :
    u.2.Standard ∨ u.1 = .type ∧ c.Located c.schemaDocuments d.library (.type, u.2) := by
  have hm := hc.settled.wellFormed
  obtain ⟨l, path, -, -, -, rfl⟩ := (mem_schemaDocuments hm).mp hd
  obtain ⟨e, he, hk⟩ := List.mem_flatMap.mp hk
  obtain ⟨hlive, hlibrary, -⟩ := (mem_emittedEntities hm).mp he
  have hlocated := located_of_accounted hc he (accounted_components hm hlive hk hu)
  rw [hlibrary] at hlocated
  exact hlocated

/-- The schemas of a generation declare what they refer to. Let the scope be that
of some roots in a refreshed model, without a global scope. Then every name in a
document is standard or of a library that comes with the program, or it names a
resource or a service, or a document of its namespace declares a type of that name;
a name without a namespace is declared in the document itself. The last is missed
in one case: the name comes from a hidden library with a contextual facet that an
object elsewhere has or inherits. -/
theorem schemas_declare_references (cs : List Change) (roots : List EntityId)
    (options : GenerationOptions) :
    let m := run (cs ++ [.refresh])
    let c := ({ model := m } : Generator).context options (Scope.build m roots none) false
    ∃ docs, libraryDocuments c = .ok docs ∧
      ∀ d ∈ docs, ∀ q ∈ d.schema.references,
        q.Standard ∨ c.NamesBuiltIn d.library q ∨ c.NamesUntyped d.library q ∨
        (∃ ns, q.ns = some ns ∧ ∃ d' ∈ docs, ns ∈ d'.spaces ∧ d'.Declares .type q.name) ∨
        (q.ns = none ∧ d.schema.targetNamespace = none ∧ d.Declares .type q.name) ∨
        c.Stray docs d.library (.type, q) := by
  intro m c
  have hc : c.Closed := closed_context cs roots options
  refine ⟨c.schemaDocuments, libraryDocuments_eq hc, ?_⟩
  intro d hd q hq
  obtain ⟨k, hk, hq⟩ := List.mem_flatMap.mp hq
  rw [← Component.map_snd_uses] at hq
  obtain ⟨u, hu, rfl⟩ := List.mem_map.mp hq
  rcases located_of_use hc hd hk hu with hstandard | ⟨-, hlocated⟩
  · exact Or.inl hstandard
  · rcases hlocated with h | h | h | (h | ⟨hnone, d', hd', hsame, htarget, hdeclares⟩) | h
    · exact Or.inl h
    · exact Or.inr (Or.inl h)
    · exact Or.inr (Or.inr (Or.inl h))
    · exact Or.inr (Or.inr (Or.inr (Or.inl h)))
    · -- the document of the library is this one
      rw [eq_of_library hc.settled.wellFormed hd hd' hsame] at htarget hdeclares
      exact Or.inr (Or.inr (Or.inr (Or.inr (Or.inl ⟨hnone, htarget, hdeclares⟩))))
    · exact Or.inr (Or.inr (Or.inr (Or.inr (Or.inr h))))

/-- An object inherits a contextual facet of a library without namespace and hosts. -/
def strayRun : List Change :=
  [.add (sampleLibrary "Base" (some "urn:base") [])
      [sampleMember "Base" (.choiceObject default),
        sampleMember "Derived" (.choiceObject { (default : ChoiceObject) with
          extension := some (.unbound "Base") })],
    .add (sampleLibrary "Alone" none [])
      [sampleMember "Code" (.simpleType {}),
        sampleMember "" (.contextualFacet
          { facetKind := .choice, facetName := "Red", owner := .unbound "ns:Base", context := none
            content := { attributes := [⟨"channel", .unbound "Code", false, none⟩] } })]]

/-- The inherited facet refers to a type that its document does not declare. -/
theorem strayRun_undeclared :
    let m := run (strayRun ++ [.refresh])
    let c := ({ model := m } : Generator).context { outputDir := "out" } (Scope.build m [⟨1⟩] none)
      false
    ∃ docs, libraryDocuments c = .ok docs ∧
      ∃ d ∈ docs, ⟨none, "Code"⟩ ∈ d.schema.references ∧ ¬ d.Declares .type "Code" ∧
        ∀ e ∈ m.entities, ¬ HasNoTypes e := by
  intro m c
  have hc : c.Closed := closed_context strayRun [⟨1⟩] { outputDir := "out" }
  let l : Library := { sampleLibrary "Base" (some "urn:base") [] with
    id := ⟨0⟩, members := [⟨0⟩, ⟨1⟩] }
  have hl : m.library? l.id = some l := by decide +kernel
  -- the order is sorted, which does not compute; what is in it does
  have horder : l.id ∈ c.order :=
    (Scope.mem_order_iff hc.settled.wellFormed).mpr ⟨by decide +kernel, l, hl, rfl⟩
  obtain ⟨path, hdocument⟩ := exists_schemaDocument hc horder hl
  refine ⟨_, libraryDocuments_eq hc, _, hdocument, ?_, ?_, by decide +kernel⟩
  · show _ ∈ ((c.emittedEntities l.id).flatMap c.components).flatMap Component.references
    decide +kernel
  · show ¬ ∃ k ∈ (c.emittedEntities l.id).flatMap c.components, k.sort = .type ∧ k.name = "Code"
    decide +kernel

end GenerationContext

end TravelModel
