import TravelModel.Proofs.ApiSchemas

/-!
# TravelModel — operations in the documents of resources

A resource is found under its own path and below each of its parents, and brings each of
its actions to every such place. The operations are put into the document by path and
method, and the last one under both stays. Paths are compared after slashes are put in
order, so two actions can come to one path; and an action keeps its name at every place,
so the name is there as often as the resource is found.

Main results:

* `joinPath_eq_iff`, `operationKey_eq_of_start`, `operationKey_eq_of_action` — when two
  operations come under one path and method.
* `at?_paths` — of the operations under one path and method, the document has the last.
* `perm_operations_iff` — the document has each operation once if their keys differ.
* `api_operations_iff` — operations and their names in the document of a resource.
-/

namespace TravelModel

/-! ## Paths -/

/-- What a segment adds to a path. -/
def pathSegment (s : String) : List Char :=
  if (trimSlashes s).isEmpty then [] else '/' :: trimSlashes s

theorem pathSegment_eq_iff {s s' : String} :
    pathSegment s = pathSegment s' ↔ trimSlashes s = trimSlashes s' := by
  unfold pathSegment
  cases trimSlashes s with
  | nil => cases trimSlashes s' <;> simp
  | cons a rest => cases trimSlashes s' <;> simp

theorem joinPath_eq (segments : List String) :
    joinPath segments =
      if (segments.flatMap pathSegment).isEmpty then "/"
      else String.ofList (segments.flatMap pathSegment) := by
  have hpath : ((segments.map trimSlashes).filter fun s => !s.isEmpty).flatMap ('/' :: ·) =
      segments.flatMap pathSegment := by
    induction segments with
    | nil => rfl
    | cons s rest ih =>
      rw [List.map_cons, List.flatMap_cons, pathSegment, ← ih]
      by_cases hs : (trimSlashes s).isEmpty
      · rw [if_pos hs, List.filter_cons_of_neg (by simpa using hs), List.nil_append]
      · rw [if_neg hs, List.filter_cons_of_pos (by simpa using hs), List.flatMap_cons]
  rw [joinPath, hpath]

/-- No segment adds a slash alone. -/
theorem flatMap_pathSegment_ne (segments : List String) :
    segments.flatMap pathSegment ≠ ['/'] := by
  induction segments with
  | nil => exact List.cons_ne_nil _ _ |>.symm
  | cons s rest ih =>
    rw [List.flatMap_cons, pathSegment]
    by_cases hs : (trimSlashes s).isEmpty
    · rwa [if_pos hs, List.nil_append]
    · rw [if_neg hs]
      intro hslash
      have htail : trimSlashes s ++ rest.flatMap pathSegment = [] := (List.cons.inj hslash).2
      rw [(List.append_eq_nil_iff.mp htail).1] at hs
      exact hs rfl

/-- Two paths are the same if their segments add the same. -/
theorem joinPath_eq_iff {a b : List String} :
    joinPath a = joinPath b ↔ a.flatMap pathSegment = b.flatMap pathSegment := by
  have hroot : ∀ cs : List Char, cs ≠ ['/'] → "/" ≠ String.ofList cs := by
    intro cs hcs heq
    exact hcs (by rw [← String.toList_ofList (l := cs), ← heq]; rfl)
  rw [joinPath_eq, joinPath_eq]
  constructor
  · intro h
    by_cases ha : (a.flatMap pathSegment).isEmpty
    · by_cases hb : (b.flatMap pathSegment).isEmpty
      · rw [List.isEmpty_iff.mp ha, List.isEmpty_iff.mp hb]
      · rw [if_pos ha, if_neg hb] at h
        exact absurd h (hroot _ (flatMap_pathSegment_ne b))
    · by_cases hb : (b.flatMap pathSegment).isEmpty
      · rw [if_neg ha, if_pos hb] at h
        exact absurd h.symm (hroot _ (flatMap_pathSegment_ne a))
      · rw [if_neg ha, if_neg hb] at h
        exact String.ofList_injective h
  · intro h
    rw [h]

theorem HttpMethod.lower_injective : Function.Injective HttpMethod.lower := by
  intro a b
  cases a <;> cases b <;> decide

namespace Json

/-- The operations of a document, with path and method. -/
def operations (j : Json) : List (String × String × Json) :=
  (((j.at? ["paths"]).bind fields?).getD []).flatMap fun p =>
    (p.2.fields?.getD []).map fun x => (p.1, x.1, x.2)

/-- The name of an operation. -/
def operationId? (j : Json) : Option String :=
  (j.field? "operationId").bind text?

end Json

namespace GenerationContext

open Json Model

/-! ## Operations and their keys -/

section

variable (c : GenerationContext) (form : ApiForm) (e : NamedEntity) (r : Resource)

/-- A path that a resource is found under, with its parameters, and an action. -/
abbrev Placement :=
  (String × List Json) × ResourceAction

/-- Each action at each place of a resource. -/
def placements : List Placement :=
  (c.pathPrefixes form r).flatMap fun p => r.actions.map fun a => (p, a)

/-- The path and the method of an action at a place. -/
def operationKey (x : Placement) : String × String :=
  (joinPath [x.1.1, r.basePath, x.2.request.pathTemplate], x.2.request.method.lower)

/-- The operation of an action at a place. -/
def placedOperation (x : Placement) : Json :=
  c.operationObject form e x.2 (x.1.2 ++ c.namedParameters form r x.2.request.parameterGroup)

/-- The operations of a resource by path and method, one for each placement. -/
def keyedOperations : List ((String × String) × Json) :=
  (c.placements form r).map fun x => (operationKey r x, c.placedOperation form e r x)

theorem operations_eq :
    c.operations form e r =
      (c.keyedOperations form e r).map fun x => (x.1.1, x.1.2, x.2) := by
  rw [operations, keyedOperations, placements, List.map_map, List.map_flatMap]
  refine List.flatMap_congr fun p _ => ?_
  obtain ⟨start, parameters⟩ := p
  simp only [List.map_map, Function.comp_def, operationKey, placedOperation]

theorem keys_keyedOperations :
    (c.keyedOperations form e r).map Prod.fst = (c.placements form r).map (operationKey r) := by
  rw [keyedOperations, List.map_map]
  rfl

end

section

variable {c : GenerationContext} {form : ApiForm} {e : NamedEntity} {r : Resource}

/-- At one place, two actions come under one key if their methods are the same and their
paths differ in slashes at the ends only. -/
theorem operationKey_eq_of_start (p : String × List Json) (a b : ResourceAction) :
    operationKey r (p, a) = operationKey r (p, b) ↔
      a.request.method = b.request.method ∧
        trimSlashes a.request.pathTemplate = trimSlashes b.request.pathTemplate := by
  have hmethod : a.request.method.lower = b.request.method.lower ↔
      a.request.method = b.request.method := HttpMethod.lower_injective.eq_iff
  rw [operationKey, operationKey, Prod.mk.injEq, joinPath_eq_iff, hmethod, and_comm,
    ← pathSegment_eq_iff]
  simp only [List.flatMap_cons, List.flatMap_nil, List.append_nil, List.append_cancel_left_eq]

/-- An action comes under one key at two places if their paths differ in slashes at the
ends only. -/
theorem operationKey_eq_of_action (p q : String × List Json) (a : ResourceAction) :
    operationKey r (p, a) = operationKey r (q, a) ↔ trimSlashes p.1 = trimSlashes q.1 := by
  rw [operationKey, operationKey, Prod.mk.injEq, joinPath_eq_iff, ← pathSegment_eq_iff]
  simp only [List.flatMap_cons, List.append_cancel_right_eq, and_true]

/-- An operation has the name of its action. -/
theorem operationId?_placedOperation (x : Placement) :
    (c.placedOperation form e r x).operationId? = some x.2.actionId := by
  have hid : (c.placedOperation form e r x).field? "operationId" = some (.str x.2.actionId) := by
    refine field?_object ?_ fun w hw => ?_
    · simp
    · simp only [List.mem_append, List.mem_cons, Prod.mk.injEq, List.not_mem_nil, or_false] at hw
      rcases hw with (((⟨-, h⟩ | ⟨h, -⟩ | ⟨h, -⟩) | hbody) | hparameters) | hproduced
      · exact h
      · exact absurd h (by decide)
      · exact absurd h (by decide)
      · split at hbody <;> simp at hbody
      · split at hparameters <;> simp at hparameters
      · split at hproduced <;> simp at hproduced
  rw [operationId?, hid]
  rfl

/-! ## Operations in a document -/

/-- The table that the paths of a document are written from. -/
def operationTable (c : GenerationContext) (form : ApiForm) (e : NamedEntity) (r : Resource) :
    Keyed (Keyed Json) :=
  (c.operations form e r).foldl addOperation []

theorem orderedPairs_foldl_addOperation {table : Keyed (Keyed Json)}
    (h : Keyed.OrderedPairs table) (ops : List (String × String × Json)) :
    Keyed.OrderedPairs (ops.foldl addOperation table) := by
  induction ops generalizing table with
  | nil => exact h
  | cons op rest ih => exact ih (h.insert op.1 (Keyed.ordered_insert (h.getD op.1) _ _))

/-- Where a service is found is not said under the name of the paths. -/
theorem at?_paths_apiDocument (rest : List String) :
    (c.apiDocument form (e, r)).at? ("paths" :: rest) = (c.pathsObject form e r).at? rest := by
  unfold apiDocument apiObject
  generalize c.options.resourceBaseUrl.bind (fun u => (Url.parse u).toOption) = base
  refine at?_object (by simp) (fun j hj => ?_) rest
  have hserver : ∀ url, ("paths", j) ∉ serverEntries form url := by
    intro url
    cases form with
    | openApi => simp [serverEntries]
    | swagger => simp [serverEntries]
  cases base with
  | none => cases form <;> simpa using hj
  | some url => cases form <;> simpa [hserver url] using hj

theorem operations_apiDocument :
    (c.apiDocument form (e, r)).operations = Keyed.triples (c.operationTable form e r) := by
  rw [Json.operations, at?_paths_apiDocument, Keyed.triples]
  show ((c.operationTable form e r).map fun p => (p.1, Json.obj p.2)).flatMap _ = _
  rw [List.flatMap_map]
  rfl

theorem at?_pathsObject (path method : String) :
    (c.pathsObject form e r).at? [path, method] =
      Keyed.findPair? path method (c.operationTable form e r) := by
  have hpaths : ∀ table : Keyed (Keyed Json),
      Keyed.find? path (table.map fun p => (p.1, Json.obj p.2)) =
        (Keyed.find? path table).map Json.obj := by
    intro table
    induction table with
    | nil => rfl
    | cons p rest ih =>
      rw [List.map_cons, Keyed.find?_cons, Keyed.find?_cons, ih]
      split
      · rfl
      · rfl
  rw [Keyed.findPair?]
  show (Keyed.find? path ((c.operationTable form e r).map fun p => (p.1, Json.obj p.2))).bind
    (at? [method]) = _
  rw [hpaths]
  cases Keyed.find? path (c.operationTable form e r) with
  | none => rfl
  | some methods => exact Option.bind_fun_some _

/-- Of the operations under one path and method, the document has the last. -/
theorem at?_paths (path method : String) :
    (c.apiDocument form (e, r)).at? ["paths", path, method] =
      Keyed.lastUnder? (path, method) (c.keyedOperations form e r) := by
  rw [at?_paths_apiDocument, at?_pathsObject, operationTable, operations_eq, List.foldl_map]
  exact Keyed.findPair?_foldl_insert path method _

/-- What a document lists under a path and a method is what is found there. -/
theorem mem_operations_apiDocument {path method : String} {op : Json} :
    (path, method, op) ∈ (c.apiDocument form (e, r)).operations ↔
      Keyed.lastUnder? (path, method) (c.keyedOperations form e r) = some op := by
  have hordered : Keyed.OrderedPairs (c.operationTable form e r) :=
    orderedPairs_foldl_addOperation Keyed.orderedPairs_nil _
  rw [operations_apiDocument, Keyed.mem_triples hordered, ← at?_paths, at?_paths_apiDocument,
    at?_pathsObject]

/-- A document lists no path and method twice. -/
theorem nodup_keys_apiDocument (c : GenerationContext) (form : ApiForm) (e : NamedEntity)
    (r : Resource) :
    ((c.apiDocument form (e, r)).operations.map fun x => (x.1, x.2.1)).Nodup := by
  have hordered : Keyed.OrderedPairs (c.operationTable form e r) :=
    orderedPairs_foldl_addOperation Keyed.orderedPairs_nil _
  rw [operations_apiDocument, List.Nodup, List.pairwise_map]
  exact (Keyed.pairwise_triples hordered).imp fun hne heq => hne (Prod.mk.inj heq)

/-- A document has the operations of a resource, each once, if no two come under one path
and method. -/
theorem perm_operations_iff :
    (c.apiDocument form (e, r)).operations.Perm (c.operations form e r) ↔
      ((c.placements form r).map (operationKey r)).Nodup := by
  have hkeys : (c.operations form e r).map (fun x => (x.1, x.2.1)) =
      (c.placements form r).map (operationKey r) := by
    rw [operations_eq, List.map_map, ← keys_keyedOperations c form e r]
    rfl
  have hnodup := nodup_keys_apiDocument c form e r
  rw [← hkeys]
  constructor
  · intro hperm
    exact (hperm.map _).nodup_iff.mp hnodup
  · intro hoperations
    refine (List.perm_ext_iff_of_nodup hnodup.of_map hoperations.of_map).mpr ?_
    rintro ⟨path, method, op⟩
    -- with one operation under each key, the last one is the only one
    rw [hkeys, ← keys_keyedOperations c form e r] at hoperations
    rw [mem_operations_apiDocument, Keyed.lastUnder?_eq_some_iff hoperations, operations_eq]
    constructor
    · intro hmem
      exact List.mem_map.mpr ⟨_, hmem, rfl⟩
    · intro hmem
      obtain ⟨x, hx, heq⟩ := List.mem_map.mp hmem
      cases heq
      exact hx

/-- The names of the operations of a resource are those of its actions, over again for
each place. -/
theorem operationIds_operations :
    (c.operations form e r).map (fun x => x.2.2.operationId?) =
      (c.pathPrefixes form r).flatMap fun _ => (r.actions.map ResourceAction.actionId).map some := by
  rw [operations_eq, keyedOperations, placements, List.map_map, List.map_map, List.map_flatMap]
  refine List.flatMap_congr fun p _ => ?_
  rw [List.map_map, List.map_map]
  exact List.map_congr_left fun a _ => operationId?_placedOperation (p, a)

/-- If a document has all operations of a resource, no name is there twice exactly if
there is one place at most, or no action. -/
theorem nodup_operationIds_iff (hids : (r.actions.map ResourceAction.actionId).Nodup)
    (hall : (c.apiDocument form (e, r)).operations.Perm (c.operations form e r)) :
    ((c.apiDocument form (e, r)).operations.map fun x => x.2.2.operationId?).Nodup ↔
      r.actions = [] ∨ (c.pathPrefixes form r).length ≤ 1 := by
  rw [(hall.map _).nodup_iff, operationIds_operations,
    nodup_flatMap_const (hids.map (Option.some_injective _)), List.map_eq_nil_iff,
    List.map_eq_nil_iff]

/-- Operations of a document with one name are those of one action, at two places. -/
theorem action_of_operationId? (hids : (r.actions.map ResourceAction.actionId).Nodup)
    {x y : String × String × Json} (hx : x ∈ (c.apiDocument form (e, r)).operations)
    (hy : y ∈ (c.apiDocument form (e, r)).operations)
    (hname : x.2.2.operationId? = y.2.2.operationId?) :
    ∃ a ∈ r.actions, ∃ p ∈ c.pathPrefixes form r, ∃ q ∈ c.pathPrefixes form r,
      (x.1, x.2.1) = operationKey r (p, a) ∧ (y.1, y.2.1) = operationKey r (q, a) := by
  have horigin : ∀ z ∈ (c.apiDocument form (e, r)).operations, ∃ p ∈ c.pathPrefixes form r,
      ∃ a ∈ r.actions, (z.1, z.2.1) = operationKey r (p, a) ∧
        z.2.2.operationId? = some a.actionId := by
    rintro ⟨path, method, op⟩ hz
    have hmem := Keyed.mem_of_lastUnder? (mem_operations_apiDocument.mp hz)
    obtain ⟨⟨p, a⟩, hplaced, heq⟩ := List.mem_map.mp hmem
    obtain ⟨p', hp, hplaced⟩ := List.mem_flatMap.mp hplaced
    obtain ⟨a', ha, hpair⟩ := List.mem_map.mp hplaced
    cases hpair
    obtain ⟨hkey, hop⟩ := Prod.mk.inj heq
    refine ⟨p, hp, a, ha, hkey.symm, ?_⟩
    rw [← hop]
    exact operationId?_placedOperation (p, a)
  obtain ⟨p, hp, a, ha, hkey, hid⟩ := horigin x hx
  obtain ⟨q, hq, b, hb, hkey', hid'⟩ := horigin y hy
  rw [hid, hid', Option.some.injEq] at hname
  obtain rfl := List.inj_on_of_nodup_map hids ha hb hname
  exact ⟨a, ha, p, hp, q, hq, hkey, hkey'⟩

end

/-! ## A resource with a parent -/

/-- A resource below another one, with an action to get and one to change an item; it may
be of first class too. -/
def itemsRun (firstClass : Bool) : List Change :=
  [.add (sampleLibrary "Shop" (some "urn:shop") [])
    [sampleMember "Orders" (.resource { (default : Resource) with basePath := "/orders" }),
      sampleMember "Items" (.resource { (default : Resource) with
        basePath := "/items", firstClass
        parents := [{ (default : ParentRef) with
          resource := .unbound "Orders", pathTemplate := "/\x7borderId\x7d" }]
        actions :=
          [ { (default : ResourceAction) with
              actionId := "GetItem"
              request := { (default : ActionRequest) with pathTemplate := "/\x7bitemId\x7d" } },
            { (default : ResourceAction) with
              actionId := "PutItem"
              request := { (default : ActionRequest) with
                method := .put, pathTemplate := "/\x7bitemId\x7d" } } ] })]]

/-- Operations in the documents of resources. Let the scope be that of some roots in a
refreshed model, without a global scope. Then every resource that is in scope and not
abstract has a document in each form, and under a path and a method the document has the
last of the operations that come there, of the actions at all places of the resource. It
has each operation once exactly if no two come under one path and method. If no two
actions have one name, then no two operations do either, exactly if besides the resource
has one place at most or no action; two with one name are those of one action. At one
place two actions come under one key if their methods are the same and their paths up
to slashes at the ends, and an action comes under one key at two places if their paths
are the same up to slashes. -/
theorem api_operations_iff (cs : List Change) (roots : List EntityId)
    (options : GenerationOptions) :
    let m := run (cs ++ [.refresh])
    let c := ({ model := m } : Generator).context options (Scope.build m roots none) false
    ∀ form, c.apiFiles form = .ok (c.apiResources.map (c.apiOutput form)) ∧
      ∀ e r, (e, r) ∈ c.apiResources → (r.actions.map ResourceAction.actionId).Nodup →
        let document := c.apiDocument form (e, r)
        let complete := document.operations.Perm (c.operations form e r)
        let keys := (c.placements form r).map (operationKey r)
        (∀ path method, document.at? ["paths", path, method] =
          Keyed.lastUnder? (path, method) (c.keyedOperations form e r)) ∧
        (complete ↔ keys.Nodup) ∧
        (complete ∧ (document.operations.map fun x => x.2.2.operationId?).Nodup ↔
          keys.Nodup ∧ (r.actions = [] ∨ (c.pathPrefixes form r).length ≤ 1)) ∧
        (∀ x ∈ document.operations, ∀ y ∈ document.operations,
          x.2.2.operationId? = y.2.2.operationId? →
            ∃ a ∈ r.actions, ∃ p ∈ c.pathPrefixes form r, ∃ q ∈ c.pathPrefixes form r,
              (x.1, x.2.1) = operationKey r (p, a) ∧ (y.1, y.2.1) = operationKey r (q, a)) ∧
        (∀ p a b, operationKey r (p, a) = operationKey r (p, b) ↔
          a.request.method = b.request.method ∧
            trimSlashes a.request.pathTemplate = trimSlashes b.request.pathTemplate) ∧
        ∀ p q a, operationKey r (p, a) = operationKey r (q, a) ↔
          trimSlashes p.1 = trimSlashes q.1 := by
  intro m c form
  have hc : c.Closed := closed_context cs roots options
  refine ⟨apiFiles_eq hc form, fun e r _ hids => ?_⟩
  refine ⟨at?_paths, perm_operations_iff, ?_, fun x hx y hy => action_of_operationId? hids hx hy,
    operationKey_eq_of_start, operationKey_eq_of_action⟩
  rw [← perm_operations_iff (e := e)]
  exact and_congr_right fun hall => nodup_operationIds_iff hids hall

/-- The resource below another one, if it is not of first class: all operations are
there, each with a name of its own. -/
theorem itemsRun_distinct :
    let c := apiContext (run (itemsRun false ++ [.refresh])) ⟨1⟩
    ∃ d ∈ c.apiResources, (d.2.actions.map ResourceAction.actionId).Nodup ∧
      d.2.actions.length = 2 ∧
      (c.apiDocument .openApi d).operations.Perm (c.operations .openApi d.1 d.2) ∧
      ((c.apiDocument .openApi d).operations.map fun x => x.2.2.operationId?).Nodup := by
  intro c
  obtain ⟨⟨e, r⟩, hd, htest⟩ := exists_apiResource (itemsRun false) ⟨1⟩
    (fun d => (d.2.actions.map ResourceAction.actionId).Nodup && d.2.actions.length = 2 &&
      ((c.placements .openApi d.2).map (operationKey d.2)).Nodup &&
      (c.pathPrefixes .openApi d.2).length ≤ 1) (by decide +kernel)
  simp only [Bool.and_eq_true, decide_eq_true_eq] at htest
  obtain ⟨⟨⟨hids, hlength⟩, hkeys⟩, hplaces⟩ := htest
  obtain ⟨-, -, hdistinct, -⟩ :=
    (api_operations_iff (itemsRun false) [⟨1⟩] apiOptions .openApi).2 e r hd hids
  exact ⟨(e, r), hd, hids, hlength, hdistinct.mpr ⟨hkeys, Or.inr hplaces⟩⟩

/-- Nothing is reported, and in both forms the document of a resource of first class that
has a parent too has two operations of one name. -/
theorem itemsRun_repeated :
    let c := apiContext (run (itemsRun true ++ [.refresh])) ⟨1⟩
    (run (itemsRun true)).refresh.2 = [] ∧
      ∀ form, ∃ d ∈ c.apiResources, (d.2.actions.map ResourceAction.actionId).Nodup ∧
        ¬ ((c.apiDocument form d).operations.map fun x => x.2.2.operationId?).Nodup := by
  intro c
  refine ⟨by decide +kernel, fun form => ?_⟩
  obtain ⟨d, hd, htest⟩ := exists_apiResource (itemsRun true) ⟨1⟩
    (fun d => (d.2.actions.map ResourceAction.actionId).Nodup &&
      ¬ ((c.apiDocument form d).operations.map fun x => x.2.2.operationId?).Nodup)
    (by cases form <;> decide +kernel)
  simp only [Bool.and_eq_true, decide_eq_true_eq] at htest
  exact ⟨d, hd, htest⟩

end GenerationContext

end TravelModel
