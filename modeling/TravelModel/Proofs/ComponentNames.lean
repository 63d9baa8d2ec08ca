import TravelModel.Proofs.CleanNames
import TravelModel.Proofs.LinkedSchemas

/-!
# TravelModel — names of schema components

The name of a global type or element comes from a name that the symbol table holds,
with a suffix that the table knows nothing of, or it is put together from other parts:
the names of contextual and inherited facets, of extension points, of operations.

Main results:

* `signatures_components`, `signatures_services` — what an entity declares in the schema
  of its library and in that of its services.
* `signatures_componentsIn` — what the documents of a generation declare in a namespace.
-/

namespace TravelModel

open Xsd

/-- Where the name of a component comes from. -/
inductive NameOrigin where
  /-- A name of the symbol table, and what is put behind it. -/
  | formed (base : String) (symbol : Symbol) (suffix : String)
  /-- A name that is made from other parts. -/
  | derived (name : String)
deriving DecidableEq, Repr

/-- The name itself. -/
def NameOrigin.name : NameOrigin → String
  | formed base _ suffix => base ++ suffix
  | derived name => name

@[simp] theorem NameOrigin.name_formed (base : String) (symbol : Symbol) (suffix : String) :
    (formed base symbol suffix).name = base ++ suffix :=
  rfl

@[simp] theorem NameOrigin.name_derived (name : String) : (derived name).name = name :=
  rfl

/-- A global component that an entity declares. -/
structure Declaration where
  entity : NamedEntity
  sort : ComponentSort
  origin : NameOrigin

/-- The sort and the name of a declared component. -/
def Declaration.signature (d : Declaration) : ComponentSort × String :=
  (d.sort, d.origin.name)

/-- The sort and the name of a component. -/
def Xsd.Component.signature (k : Component) : ComponentSort × String :=
  (k.sort, k.name)

@[simp] theorem Xsd.Component.signature_simpleType (t : SimpleTypeDef) :
    (Component.simpleType t).signature = (.type, t.name) :=
  rfl

@[simp] theorem Xsd.Component.signature_complexType (t : ComplexTypeDef) :
    (Component.complexType t).signature = (.type, t.name) :=
  rfl

@[simp] theorem Xsd.Component.signature_element (t : ElementDef) :
    (Component.element t).signature = (.element, t.name) :=
  rfl

namespace GenerationContext

variable (c : GenerationContext) (e : NamedEntity)

/-! ## Names that an entity gives -/

/-- The name of an entity with a suffix. -/
def ownName (suffix : String) : NameOrigin :=
  .formed e.name (.entity e.id) suffix

@[simp] theorem name_ownName (suffix : String) : (ownName e suffix).name = e.name ++ suffix :=
  rfl

/-- The names of an object and of its aliases. -/
def ownerNames : List (String × Symbol) :=
  (e.name, .entity e.id) :: e.body.aliases.zipIdx.map fun a => (a.1, .aliasOf e.id a.2)

/-- What is put behind the name of an object for the element of a facet. -/
def elementSuffix? : FacetKind → Option String
  | .id => some "ID"
  | .summary | .shared => some ""
  | .detail => some "Detail"
  | .simple | .custom | .query | .update | .choice => none

/-- The names of a fixed facet: its type, and an element for each name of the object. -/
def fixedFacetOrigins (kind : FacetKind) : List (ComponentSort × NameOrigin) :=
  (.type, .formed (Naming.facetType e.name kind) (.facet e.id kind) "") ::
    (ownerNames e).flatMap fun n =>
      (elementSuffix? kind).toList.map fun suffix => (.element, .formed n.1 n.2 suffix)

/-- The names of an inherited contextual facet. -/
def ghostOrigins (g : GhostFacet) : List (ComponentSort × NameOrigin) :=
  match (c.model.entity? g.source).map NamedEntity.body with
  | some (.contextualFacet _) =>
    [ (.type, .derived (c.model.ghostName g)),
      (.element, .derived (Naming.contextualElement e.name g.kind.facetKind g.facetName)) ]
  | _ => []

/-- The name of an extension point: its own, if it extends no facet. -/
def extensionOrigin (f : ExtensionPointFacet) : NameOrigin :=
  if c.extensionPointType e f.extended = e.name then ownName e ""
  else .derived (c.extensionPointType e f.extended)

/-- The names that an entity gives in the schema of its library. -/
def schemaOrigins : List (ComponentSort × NameOrigin) :=
  match e.body with
  | .simpleType _ | .valueWithAttributes _ => [(.type, ownName e "")]
  | .enumeration x =>
    if x.isOpen then [(.type, ownName e "_Base"), (.type, ownName e "")]
    else [(.type, ownName e "")]
  | .coreObject o =>
    ((.type, .formed (Naming.facetType e.name .simple) (.facet e.id .simple) "") ::
        if o.roles.isEmpty then [] else [(.type, ownName e "_Role")]) ++
      [.summary, .detail].flatMap (fixedFacetOrigins e) ++
      (c.model.ghostFacets e.id).flatMap (c.ghostOrigins e)
  | .businessObject _ =>
    [.id, .summary, .detail].flatMap (fixedFacetOrigins e) ++
      (c.model.ghostFacets e.id).flatMap (c.ghostOrigins e)
  | .choiceObject _ =>
    fixedFacetOrigins e .shared ++ (c.model.ghostFacets e.id).flatMap (c.ghostOrigins e)
  | .contextualFacet f =>
    let owner := f.owner.entity?.bind c.model.entity?
    [ (.type, ownName e ""),
      (.element, .derived (Naming.contextualElement
        ((owner.map NamedEntity.name).getD f.owner.localName) f.facetKind.facetKind
        f.facetName)) ]
  | .extensionPointFacet f =>
    [(.type, c.extensionOrigin e f), (.element, c.extensionOrigin e f)]
  | .resource _ | .service _ => []

/-- The labels of the facets that a business object can be asked for, without the fixed
ones. -/
def contextualLabels : List String :=
  ((c.responseFacets e).drop 3).map Prod.fst

/-- The names that an entity gives in the schema of its services. -/
def serviceOrigins : List (ComponentSort × NameOrigin) :=
  match e.body with
  | .service s =>
    s.operations.flatMap fun op => op.messages.flatMap fun p =>
      [ (.type, .derived (op.messageName e.name p.1)),
        (.element, .derived (op.messageName e.name p.1)) ]
  | .businessObject _ =>
    [(.type, ownName e "_FacetType"), (.type, ownName e "_RQ")] ++
      ([FacetKind.id, .summary, .detail].flatMap fun k =>
        [ (.element, ownName e ("_" ++ k.label ++ "_RQ")),
          (.element, ownName e ("_" ++ k.label ++ "_RS")) ]) ++
      (c.contextualLabels e).flatMap fun label =>
        [ (.element, .derived (e.name ++ "_" ++ label ++ "_RQ")),
          (.element, .derived (e.name ++ "_" ++ label ++ "_RS")) ]
  | _ => []

/-- The names that an entity gives in a format. -/
def origins : TargetFormat → List (ComponentSort × NameOrigin)
  | .xmlSchema => c.schemaOrigins e
  | .serviceSchema => c.serviceOrigins e
  | .jsonSchema | .openApi | .swagger => []

/-- What an entity declares in a format. -/
def declarations (format : TargetFormat) : List Declaration :=
  (c.origins e format).map fun o => ⟨e, o.1, o.2⟩

/-! ## Components of entities -/

theorem facetElement?_eq (owner : String) (kind : FacetKind) :
    Naming.facetElement? owner kind = (elementSuffix? kind).map (owner ++ ·) := by
  cases kind <;> simp [Naming.facetElement?, elementSuffix?]

theorem signatures_fixedFacet (kind : FacetKind) :
    (c.fixedFacetComponents e kind).map Component.signature =
      (fixedFacetOrigins e kind).map fun o => (o.1, o.2.name) := by
  have howners : e.name :: e.body.aliases = (ownerNames e).map Prod.fst := by
    rw [ownerNames, List.map_cons, List.map_map]
    refine congrArg (e.name :: ·) ?_
    exact (List.zipIdx_map_fst 0 e.body.aliases).symm
  rw [fixedFacetComponents, fixedFacetOrigins, List.map_cons, List.map_cons, howners,
    List.map_flatMap, List.filterMap_map, List.filterMap_eq_flatMap_toList]
  refine congrArg₂ (· :: ·) ?_ ?_
  · simp [facetType]
  · rw [List.map_flatMap, List.map_flatMap]
    refine List.flatMap_congr fun n _ => ?_
    rw [Function.comp_apply, facetElement?_eq]
    cases elementSuffix? kind <;> rfl

theorem signatures_ghosts :
    (c.allGhostComponents e).map Component.signature =
      ((c.model.ghostFacets e.id).flatMap (c.ghostOrigins e)).map fun o => (o.1, o.2.name) := by
  rw [allGhostComponents, List.map_flatMap, List.map_flatMap]
  refine List.flatMap_congr fun g _ => ?_
  rw [ghostComponents, ghostOrigins]
  cases c.model.entity? g.source with
  | none => rfl
  | some source =>
    dsimp only [Option.map_some]
    cases source.body <;> rfl

/-- The components of an entity have the names it gives. -/
theorem signatures_components :
    (c.components e).map Component.signature =
      (c.schemaOrigins e).map fun o => (o.1, o.2.name) := by
  have hfixed : ∀ kinds : List FacetKind,
      (kinds.flatMap (c.fixedFacetComponents e)).map Component.signature =
        (kinds.flatMap (fixedFacetOrigins e)).map fun o => (o.1, o.2.name) := by
    intro kinds
    rw [List.map_flatMap, List.map_flatMap]
    exact List.flatMap_congr fun kind _ => c.signatures_fixedFacet e kind
  rw [components, schemaOrigins]
  cases e.body with
  | simpleType t => simp [simpleTypeComponents]
  | enumeration x =>
    dsimp only
    rw [enumerationComponents]
    split
    · simp [Naming.openEnumBase]
    · simp
  | valueWithAttributes v => simp [valueComponents]
  | coreObject o =>
    dsimp only
    rw [List.map_append, List.map_append, hfixed, signatures_ghosts, List.map_append,
      List.map_append, coreComponents]
    refine congrArg₂ (· ++ ·) (congrArg₂ (· ++ ·) ?_ rfl) rfl
    split
    · simp
    · simp
  | businessObject o =>
    dsimp only
    rw [List.map_append, hfixed, signatures_ghosts, List.map_append]
  | choiceObject o =>
    dsimp only
    rw [List.map_append, signatures_fixedFacet, signatures_ghosts, List.map_append]
  | contextualFacet f => simp [contextualComponents, facetType, ownElement]
  | extensionPointFacet f =>
    have horigin : (c.extensionOrigin e f).name = c.extensionPointType e f.extended := by
      rw [extensionOrigin]
      split
      · next hname => rw [hname, name_ownName, String.append_empty]
      · rfl
    dsimp only
    rw [extensionComponents, List.map_cons, List.map_singleton, List.map_cons, List.map_singleton,
      horigin]
    -- what it extends decides on the content of the type, not on its name
    dsimp only [Component.signature_complexType, Component.signature_element]
    split <;> rfl
  | resource r => rfl
  | service x => rfl

/-- The components of the service documents of an entity have the names it gives. -/
theorem signatures_services {l : Library} (hl : c.model.library? e.library = some l) :
    (c.servicesOf e).flatMap (fun d => d.schema.components.map Component.signature) =
      (c.serviceOrigins e).map fun o => (o.1, o.2.name) := by
  rw [servicesOf, messageDocuments, requestResponseDocuments, serviceOrigins]
  cases e.body with
  | service s =>
    dsimp only
    rw [serviceDocument?, hl, List.append_nil, Option.map_some, Option.toList_some,
      List.flatMap_singleton, List.map_flatMap, List.map_flatMap]
    refine List.flatMap_congr fun op _ => ?_
    rw [List.map_flatMap, List.map_flatMap]
    rfl
  | businessObject o =>
    dsimp only
    rw [serviceDocument?, hl, List.nil_append, Option.map_some, Option.toList_some,
      List.flatMap_singleton]
    have hfacets : c.responseFacets e = ([FacetKind.id, .summary, .detail].map fun k =>
        (k.label, c.ownQName e (Naming.facetType e.name k))) ++ (c.responseFacets e).drop 3 := rfl
    rw [requestResponseComponents, hfacets, contextualLabels]
    generalize (c.responseFacets e).drop 3 = rest
    simp [plainElement, Naming.facetSelector, String.append_assoc, List.map_flatMap,
      List.flatMap_map]
  | _ => rfl

/-! ## Components in a namespace -/

/-- The namespaces in which the components of a library are found. -/
def librarySpaces (l : Library) : List String :=
  match c.libraryNamespace? l with
  | some ns => [ns]
  | none => c.libraryHosts l

/-- Whether the components of an entity are found in a namespace. -/
def foundIn (ns : String) : Bool :=
  (c.model.library? e.library).any fun l => (c.librarySpaces l).contains ns

/-- What the documents of a generation declare in a namespace. -/
def declarationsIn (ns : String) : List Declaration :=
  c.options.formats.targets.flatMap fun format =>
    (c.generatedEntities.filter fun e => c.foundIn e ns).flatMap fun e => c.declarations e format

end GenerationContext

/-- The components of some documents that are found in a namespace. -/
def Xsd.componentsIn (documents : List Document) (ns : String) : List Component :=
  (documents.filter fun d => d.spaces.contains ns).flatMap fun d => d.schema.components

theorem Xsd.componentsIn_flatMap {α : Type} (as : List α) (f : α → List Document) (ns : String) :
    componentsIn (as.flatMap f) ns = as.flatMap fun a => componentsIn (f a) ns := by
  simp only [componentsIn, List.filter_flatMap, List.flatMap_assoc]

namespace GenerationContext

variable {c : GenerationContext}

theorem foundIn_eq {e : NamedEntity} {l : Library} (hl : c.model.library? e.library = some l)
    (ns : String) : c.foundIn e ns = (c.librarySpaces l).contains ns := by
  rw [foundIn, hl, Option.any_some]

/-- Documents that are all found in the same namespaces have all their components in one
of these or none. -/
theorem componentsIn_of_spaces {documents : List Document} {spaces : List String}
    (h : ∀ d ∈ documents, d.spaces = spaces) (ns : String) :
    componentsIn documents ns =
      if spaces.contains ns then documents.flatMap fun d => d.schema.components else [] := by
  rw [componentsIn]
  split
  · next hns =>
    rw [List.filter_eq_self.mpr fun d hd => by rw [h d hd, hns]]
  · next hns =>
    rw [List.filter_eq_nil_iff.mpr fun d hd => by rw [h d hd]; exact hns]
    rfl

theorem spaces_of_mem_servicesOf {e : NamedEntity} {l : Library}
    (hl : c.model.library? e.library = some l) {d : Document} (hd : d ∈ c.servicesOf e) :
    d.spaces = c.librarySpaces l := by
  have hservice : ∀ path documentation components,
      d ∈ (c.serviceDocument? e path documentation components).toList →
        d.spaces = c.librarySpaces l := by
    intro path documentation components hd
    rw [serviceDocument?, hl] at hd
    rw [List.mem_singleton.mp hd]
    rfl
  rw [servicesOf, messageDocuments, requestResponseDocuments] at hd
  rcases List.mem_append.mp hd with hd | hd
  · split at hd
    · exact hservice _ _ _ hd
    · exact absurd hd List.not_mem_nil
  · split at hd
    · exact hservice _ _ _ hd
    · exact absurd hd List.not_mem_nil

/-- The schema of a library declares what its entities do. -/
theorem signatures_library (hm : c.model.WellFormed) {l : Library}
    (hl : c.model.library? l.id = some l) (path ns : String) :
    (componentsIn [c.schemaDocument l path] ns).map Component.signature =
      (((c.emittedEntities l.id).filter fun e => c.foundIn e ns).flatMap fun e =>
        c.declarations e .xmlSchema).map Declaration.signature := by
  have hfound : ∀ e ∈ c.emittedEntities l.id,
      c.foundIn e ns = (c.librarySpaces l).contains ns := by
    intro e he
    refine foundIn_eq ?_ ns
    rw [((mem_emittedEntities hm).mp he).2.1, hl]
  have hspaces : ∀ d ∈ [c.schemaDocument l path], d.spaces = c.librarySpaces l := by
    intro d hd
    rw [List.mem_singleton.mp hd]
    rfl
  rw [componentsIn_of_spaces hspaces, List.flatMap_singleton]
  split
  · next hns =>
    rw [List.filter_eq_self.mpr fun e he => (hfound e he).trans hns]
    show ((c.emittedEntities l.id).flatMap c.components).map Component.signature = _
    rw [List.map_flatMap, List.map_flatMap]
    refine List.flatMap_congr fun e _ => ?_
    rw [signatures_components, declarations, List.map_map]
    rfl
  · next hns =>
    rw [List.filter_eq_nil_iff.mpr fun e he => by rw [hfound e he]; exact hns]
    rfl

/-- The schema of the services of an entity declares what the entity does. -/
theorem signatures_entity (hc : c.Closed) {e : NamedEntity} (he : c.model.entity? e.id = some e)
    (ns : String) :
    (componentsIn (c.servicesOf e) ns).map Component.signature =
      if c.foundIn e ns then (c.declarations e .serviceSchema).map Declaration.signature
      else [] := by
  obtain ⟨l, hl, -⟩ := hc.settled.wellFormed.listed he
  rw [componentsIn_of_spaces fun d hd => spaces_of_mem_servicesOf hl hd, foundIn_eq hl]
  split
  · rw [List.map_flatMap, signatures_services c e hl, declarations, List.map_map]
    rfl
  · rfl

/-- The documents of a format declare what the entities do that are found in the
namespace. -/
theorem signatures_format (hc : c.Closed) (ns : String) (format : TargetFormat) :
    (componentsIn (c.formatDocuments format) ns).map Component.signature =
      ((c.generatedEntities.filter fun e => c.foundIn e ns).flatMap fun e =>
        c.declarations e format).map Declaration.signature := by
  have hm := hc.settled.wellFormed
  rw [generatedEntities, List.filter_flatMap, List.flatMap_assoc, List.map_flatMap]
  cases format with
  | xmlSchema =>
    rw [formatDocuments, schemaDocuments, libraryFiles, List.map_flatMap, componentsIn_flatMap,
      List.map_flatMap]
    refine List.flatMap_congr fun id hid => ?_
    obtain ⟨l, hl, huser⟩ := hc.user hid
    obtain ⟨path, hpath⟩ := c.exists_libraryFile? huser (Or.inl rfl)
    have hid := hm.library_id hl
    rw [hl, Option.toList_some, List.flatMap_singleton, hpath, ← hid]
    exact signatures_library hm (hid ▸ hl) path ns
  | serviceSchema =>
    rw [formatDocuments, serviceSchemas, componentsIn_flatMap, List.map_flatMap]
    refine List.flatMap_congr fun id _ => ?_
    rw [componentsIn_flatMap, List.map_flatMap, List.map_flatMap, flatMap_filter]
    refine List.flatMap_congr fun e he => ?_
    exact signatures_entity hc ((mem_emittedEntities hm).mp he).1 ns
  | _ =>
    symm
    simp [declarations, origins, componentsIn, formatDocuments]

theorem signatures_componentsIn (hc : c.Closed) (ns : String) :
    (componentsIn (c.options.formats.targets.flatMap c.formatDocuments) ns).map
        Component.signature = (c.declarationsIn ns).map Declaration.signature := by
  rw [declarationsIn, componentsIn_flatMap, List.map_flatMap, List.map_flatMap]
  exact List.flatMap_congr fun format _ => signatures_format hc ns format

end GenerationContext

end TravelModel
