import TravelModel.Generation.Run
import TravelModel.Proofs.Needs

/-!
# TravelModel — what extension points are called

An extension point extends a facet of an object, which it names by a symbol of the object:
the object itself or an alias for its default facet, or a fixed facet. The facet decides
which element the extension point stands in for, and it should give the extension point its
name. Both are read off the symbol, but only the first one looks through an alias. In the
schemas and in JSON an extension point has one name everywhere, which is that of its facet
unless the object was named by an alias.

Main results:

* `extendedKind?_eq`, `extensionPointType_eq` — the facet and the name, by the symbol.
* `knownAs_iff` — an extension point is called by one name wherever it occurs.
* `extension_point_named_for_facet_iff` — when that name is the one of the facet.
* `bookingRun_misnamed` — an extension point that is called differently.
-/

namespace TravelModel

/-- Whether a symbol is another name of an entity. -/
def Symbol.isAlias : Symbol → Bool
  | aliasOf _ _ => true
  | _ => false

/-- The facet that a symbol of an object stands for. -/
def Symbol.facetOf (s : Symbol) (o : NamedEntity) : FacetKind :=
  match s with
  | facet _ k => k
  | _ => o.body.defaultFacet

namespace GenerationContext

open Xsd

variable {c : GenerationContext}

/-! ## Facet and name by the symbol -/

section

variable {e o : NamedEntity} {extended : Reference} {s : Symbol}
  (hs : extended.target = some s) (ho : c.model.entity? s.owner = some o)
  (hobject : o.kind.isObject = true)

include hs ho hobject

/-- The facet that an extension point extends is looked up through an alias. -/
theorem extendedKind?_eq (hghost : s.isGhost = false) :
    c.extendedKind? extended = some (s.facetOf o) := by
  rw [extendedKind?, hs]
  cases s with
  | entity id | aliasOf id i =>
    rw [Symbol.owner] at ho
    simp [ho, hobject, Symbol.facetOf]
  | facet id k => rfl
  | ghost id source => cases hghost

/-- The name of an extension point is not looked up through an alias. -/
theorem extensionPointType_eq (hghost : s.isGhost = false) :
    c.extensionPointType e extended =
      if s.isAlias then e.name else Naming.extensionPoint o.name (s.facetOf o) := by
  rw [extensionPointType, hs]
  dsimp only
  cases s with
  | entity id =>
    rw [ho]
    exact if_pos hobject
  | aliasOf id i =>
    rw [ho]
    rfl
  | facet id k =>
    rw [ho]
    rfl
  | ghost id source => cases hghost

end

/-! ## One name everywhere -/

/-- An entity is called by a name in all that is generated: it has one type and one element in
the schemas and one definition in JSON, and each reference to it is written with the name. -/
structure KnownAs (c : GenerationContext) (e : NamedEntity) (name : String) : Prop where
  declared : ∃ type element, c.components e = [.complexType type, .element element] ∧
    type.name = name ∧ element.name = name ∧ element.type = c.ownQName e name
  defined : ∀ style, (c.definitions style e).map Prod.fst = [name]
  qualified : ∀ x ∈ c.model.entities, ∀ r ∈ refs x.body, r.entity? = some e.id →
    ∀ library, c.typeQName r library = ⟨c.entityNamespace? e.id (some library), name⟩
  referenced : c.isBuiltIn e.id = false →
    ∀ x ∈ c.model.entities, ∀ r ∈ refs x.body, r.entity? = some e.id →
      ∀ style, c.typeSchema style r = .object [("$ref", .str (c.jsonReference style e.id name))]

theorem KnownAs.eq_of_definitions {e : NamedEntity} {name name' : String} {style : RefStyle}
    (h : c.KnownAs e name) (hname : (c.definitions style e).map Prod.fst = [name']) :
    name = name' :=
  List.singleton_injective ((h.defined style).symm.trans hname)

section

variable {e : NamedEntity} {f : ExtensionPointFacet} (hbody : e.body = .extensionPointFacet f)

include hbody

/-- Type and element have the same name; the element stands in for that of the facet. -/
theorem components_extensionPoint :
    ∃ type element, c.components e = [.complexType type, .element element] ∧
      type.name = c.extensionPointType e f.extended ∧
      element.name = c.extensionPointType e f.extended ∧
      element.type = c.ownQName e (c.extensionPointType e f.extended) ∧
      element.substitutionGroup = if c.options.suppressExtensions then none
        else ((c.extendedKind? f.extended).bind Naming.extensionElement?).map commonQName := by
  rw [components, hbody]
  refine ⟨_, _, rfl, ?_, rfl, rfl, ?_⟩
  · -- what it extends decides on the content of the type, not on its name
    split <;> rfl
  · dsimp only
    split <;> rfl

theorem definitions_extensionPoint (style : RefStyle) :
    (c.definitions style e).map Prod.fst = [c.extensionPointType e f.extended] := by
  rw [definitions, hbody]
  rfl

variable (he : c.model.entity? e.id = some e)

include he

theorem typeName?_extensionPoint :
    c.typeName? (.entity e.id) = some (c.extensionPointType e f.extended) := by
  rw [typeName?, Symbol.owner, he]
  show some (c.declaredType e) = _
  rw [declaredType, hbody]

variable (hm : c.model.Settled)

include hm

/-- An extension point has no other names, so it is referred to as an entity. -/
theorem target_of_extensionPoint {x : NamedEntity} (hx : x ∈ c.model.entities) {r : Reference}
    (hr : r ∈ refs x.body) (h : r.entity? = some e.id) : r.target = some (.entity e.id) := by
  obtain ⟨s, hs, howner⟩ := Option.map_eq_some_iff.mp h
  obtain ⟨o, ho, ⟨name, hname⟩, -⟩ := hm.target (hm.wellFormed.entity?_of_mem hx) hr hs
  rw [howner, he] at ho
  -- only objects have aliases and fixed facets
  rw [← Option.some.inj ho, NamedEntity.symbolNames, hbody] at hname
  rw [hs, (Prod.mk.inj (List.mem_singleton.mp hname)).2]

theorem knownAs_extensionPointType : c.KnownAs e (c.extensionPointType e f.extended) := by
  refine ⟨?_, definitions_extensionPoint hbody, ?_, ?_⟩
  · obtain ⟨type, element, heq, htype, helement, howned, -⟩ :=
      components_extensionPoint (c := c) hbody
    exact ⟨type, element, heq, htype, helement, howned⟩
  · intro x hx r hr h library
    rw [typeQName, target_of_extensionPoint hbody he hm hx hr h, Option.bind_some,
      typeName?_extensionPoint hbody he]
    rfl
  · intro huser x hx r hr h style
    rw [typeSchema, typeSchemaWithin, target_of_extensionPoint hbody he hm hx hr h,
      Option.bind_some, Symbol.owner, he]
    simp [huser, typeName?_extensionPoint hbody he]

/-- An extension point is called by one name. -/
theorem knownAs_iff {name : String} :
    c.KnownAs e name ↔ c.extensionPointType e f.extended = name := by
  constructor
  · intro h
    exact (h.eq_of_definitions (definitions_extensionPoint hbody .components)).symm
  · rintro rfl
    exact knownAs_extensionPointType hbody he hm

end

/-! ## The name of the facet -/

/-- What extension points are called in a refreshed model. One that extends a facet of an
object by a symbol of it stands in for the element of that facet. Its type, its element and
its definition have one name, with which every reference to it is written: that of the facet
and the object, or its own name if the symbol is an alias. So it is called for what it extends
if and only if the symbol is not an alias, or that happens to be its own name. -/
theorem extension_point_named_for_facet_iff (c : GenerationContext) (cs : List Change)
    (hrun : c.model = Model.run (cs ++ [.refresh])) {e : NamedEntity} (he : e ∈ c.model.entities)
    {f : ExtensionPointFacet} (hbody : e.body = .extensionPointFacet f) {s : Symbol}
    (hs : f.extended.target = some s) {o : NamedEntity} (ho : c.model.entity? s.owner = some o)
    (hobject : o.kind.isObject = true) :
    let kind := s.facetOf o
    c.extendedKind? f.extended = some kind ∧
      (∀ element, .element element ∈ c.components e → element.substitutionGroup =
        if c.options.suppressExtensions then none
        else (Naming.extensionElement? kind).map commonQName) ∧
      c.KnownAs e (if s.isAlias then e.name else Naming.extensionPoint o.name kind) ∧
      (c.KnownAs e (Naming.extensionPoint o.name kind) ↔
        s.isAlias = false ∨ e.name = Naming.extensionPoint o.name kind) := by
  intro kind
  have hm : c.model.Settled := hrun ▸ Model.settled_run cs
  have hlive := hm.wellFormed.entity?_of_mem he
  -- no reference leads to an inherited facet
  have hghost : s.isGhost = false := by
    have hmem : f.extended ∈ refs e.body := by
      rw [hbody]
      exact List.mem_append_left _ (List.mem_singleton.mpr rfl)
    obtain ⟨o', -, ⟨name, hname⟩, -⟩ := hm.target hlive hmem hs
    exact Model.not_isGhost_of_symbolNames hname
  have hkind : c.extendedKind? f.extended = some kind := extendedKind?_eq hs ho hobject hghost
  have hname := extensionPointType_eq (c := c) (e := e) hs ho hobject hghost
  refine ⟨hkind, ?_, ?_, ?_⟩
  · intro element helement
    obtain ⟨type, element', hcomponents, -, -, -, hgroup⟩ :=
      components_extensionPoint (c := c) hbody
    rw [hcomponents] at helement
    obtain rfl : element = element' := by simpa using helement
    rw [hgroup, hkind, Option.bind_some]
  · rw [knownAs_iff hbody hlive hm, hname]
  · rw [knownAs_iff hbody hlive hm, hname]
    cases s.isAlias with
    | true => exact (or_iff_right Bool.noConfusion).symm
    | false => exact iff_of_true rfl (Or.inl rfl)

/-- An extension point of an object that has an alias, and a type that refers to it. -/
def bookingRun (extended : String) : List Change :=
  [.add (Model.sampleLibrary "Orders" (some "urn:orders") [])
      [Model.sampleMember "Order"
          (.businessObject { (default : BusinessObject) with aliases := ["Booking"] }),
        Model.sampleMember "OrderExtras"
          (.extensionPointFacet { extended := .unbound extended, content := default }),
        Model.sampleMember "Holder" (.simpleType { base := some (.unbound "OrderExtras") })]]

/-- A generation of the extension point and the type. -/
def bookingContext (extended : String) : GenerationContext :=
  let m := Model.run (bookingRun extended ++ [.refresh])
  ({ model := m } : Generator).context { outputDir := "out" } (Scope.build m [⟨2⟩] none) false

/-- The extension point of the sample, once what it extends is known. -/
def orderExtras (extended : Reference) : NamedEntity :=
  { id := ⟨1⟩, library := ⟨0⟩, name := "OrderExtras", documentation := none
    body := .extensionPointFacet { extended, content := default } }

def bookedOrder : NamedEntity :=
  { id := ⟨0⟩, library := ⟨0⟩, name := "Order", documentation := none
    body := .businessObject { (default : BusinessObject) with aliases := ["Booking"] } }

/-- By the detail facet, the extension point is called for it. -/
theorem bookingRun_named :
    let c := bookingContext "Order_Detail"
    let r : Reference := ⟨"Order_Detail", some (.facet ⟨0⟩ .detail)⟩
    orderExtras r ∈ c.model.entities ∧ c.model.entity? ⟨0⟩ = some bookedOrder ∧
      c.KnownAs (orderExtras r) "ExtensionPoint_Detail_Order" := by
  intro c r
  have hextras : orderExtras r ∈ c.model.entities := by decide +kernel
  have horder : c.model.entity? ⟨0⟩ = some bookedOrder := by decide +kernel
  exact ⟨hextras, horder, (extension_point_named_for_facet_iff c (bookingRun "Order_Detail") rfl
    hextras rfl rfl horder rfl).2.2.2.mpr (Or.inl rfl)⟩

/-- By the alias, the extension point stands in for the summary of the object, but it is called
by its own name wherever it occurs, also in the type that refers to it. -/
theorem bookingRun_misnamed :
    let c := bookingContext "Booking"
    let r : Reference := ⟨"Booking", some (.aliasOf ⟨0⟩ 0)⟩
    orderExtras r ∈ c.model.entities ∧ c.model.entity? ⟨0⟩ = some bookedOrder ∧
      (∃ x ∈ c.model.entities, ⟨"OrderExtras", some (.entity ⟨1⟩)⟩ ∈ refs x.body) ∧
      c.extendedKind? r = some .summary ∧ c.KnownAs (orderExtras r) "OrderExtras" ∧
      ¬ c.KnownAs (orderExtras r) "ExtensionPoint_Summary_Order" := by
  intro c r
  have hm : c.model.Settled := Model.settled_run (bookingRun "Booking")
  have hextras : orderExtras r ∈ c.model.entities := by decide +kernel
  have horder : c.model.entity? ⟨0⟩ = some bookedOrder := by decide +kernel
  have hknown := knownAs_extensionPointType rfl (hm.wellFormed.entity?_of_mem hextras) hm
  have hname : c.extensionPointType (orderExtras r) r = "OrderExtras" := by
    rw [extensionPointType_eq (s := .aliasOf ⟨0⟩ 0) rfl horder rfl rfl]
    rfl
  rw [hname] at hknown
  refine ⟨hextras, horder, by decide +kernel, by decide +kernel, hknown, ?_⟩
  intro h
  exact absurd (h.eq_of_definitions (hknown.defined .components)) (by decide)

end GenerationContext

end TravelModel
