import TravelModel.Entity.Body

/-!
# TravelModel — laws of replacing references

`refs` reads the references of a declaration and `putRefs` replaces them.
For every part of a declaration the two fit together: what is put is read
back in the same order, and a second replacement hides the first. Binding a
body therefore writes each target to its own reference and leaves no trace
of earlier targets.

Main results:

* `LawfulReferences` — the two laws, with an instance for every part of a
  declaration up to `EntityBody`.
* `Operation.refs_eq_messages` — an operation is read message by message.
* `EntityBody.declared` — a body without its targets; binding keeps it
  (`declared_assign`), and bodies that agree on it are bound alike
  (`assign_congr`).
-/

namespace TravelModel

/-- What is put in place of the references is read back, and the last
replacement is the one that stays. -/
class LawfulReferences (α : Type) [References α] : Prop where
  refs_putRefs : ∀ (a : α) (rs : List Reference),
    rs.length = (refs a).length → refs (putRefs a rs) = rs
  putRefs_putRefs : ∀ (a : α) (rs rs' : List Reference),
    rs.length = (refs a).length → rs'.length = (refs a).length →
      putRefs (putRefs a rs) rs' = putRefs a rs'

export LawfulReferences (refs_putRefs putRefs_putRefs)

/-! ## Building blocks -/

instance : LawfulReferences Reference where
  refs_putRefs r rs h := by
    obtain ⟨x, rfl⟩ := List.length_eq_one_iff.mp h
    rfl
  putRefs_putRefs r rs rs' _ h' := by
    obtain ⟨x, rfl⟩ := List.length_eq_one_iff.mp h'
    rfl

section

variable {α β : Type} [References α] [References β]

theorem References.refsAll_cons (a : α) (rest : List α) :
    refs (a :: rest) = refs a ++ refs rest :=
  rfl

theorem References.putAll_cons (a : α) (rest : List α) (rs : List Reference) :
    putRefs (a :: rest) rs =
      putRefs a (rs.take (refs a).length) :: putRefs rest (rs.drop (refs a).length) :=
  rfl

theorem References.refs_pair (p : α × β) : refs p = refs p.1 ++ refs p.2 :=
  rfl

theorem References.putRefs_pair (p : α × β) (rs : List Reference) :
    putRefs p rs =
      (putRefs p.1 (rs.take (refs p.1).length), putRefs p.2 (rs.drop (refs p.1).length)) :=
  rfl

/-- A list of as many references as two parts hold splits between them. -/
theorem length_take_drop {rs : List Reference} {n k : Nat} (h : rs.length = n + k) :
    (rs.take n).length = n ∧ (rs.drop n).length = k := by
  rw [List.length_take, List.length_drop]
  omega

variable [LawfulReferences α] [LawfulReferences β]

theorem length_refs_putRefs (a : α) {rs : List Reference} (h : rs.length = (refs a).length) :
    (refs (putRefs a rs)).length = (refs a).length := by
  rw [refs_putRefs a rs h, h]

instance : LawfulReferences (List α) where
  refs_putRefs as rs h := by
    induction as generalizing rs with
    | nil =>
      rw [List.length_eq_zero_iff.mp h]
      rfl
    | cons a rest ih =>
      rw [References.refsAll_cons, List.length_append] at h
      obtain ⟨hhead, hrest⟩ := length_take_drop h
      rw [References.putAll_cons, References.refsAll_cons, refs_putRefs a _ hhead, ih _ hrest,
        List.take_append_drop]
  putRefs_putRefs as rs rs' h h' := by
    induction as generalizing rs rs' with
    | nil => rfl
    | cons a rest ih =>
      rw [References.refsAll_cons, List.length_append] at h h'
      obtain ⟨hhead, hrest⟩ := length_take_drop h
      obtain ⟨hhead', hrest'⟩ := length_take_drop h'
      rw [References.putAll_cons, References.putAll_cons, References.putAll_cons,
        length_refs_putRefs a hhead, putRefs_putRefs a _ _ hhead hhead', ih _ _ hrest hrest']

instance : LawfulReferences (Option α) where
  refs_putRefs a rs h := by
    cases a with
    | none =>
      rw [List.length_eq_zero_iff.mp h]
      rfl
    | some a => exact refs_putRefs a rs h
  putRefs_putRefs a rs rs' h h' := by
    cases a with
    | none => rfl
    | some a => exact congrArg some (putRefs_putRefs a rs rs' h h')

instance : LawfulReferences (α × β) where
  refs_putRefs p rs h := by
    rw [References.refs_pair, List.length_append] at h
    obtain ⟨hfst, hsnd⟩ := length_take_drop h
    rw [References.putRefs_pair, References.refs_pair, refs_putRefs p.1 _ hfst,
      refs_putRefs p.2 _ hsnd, List.take_append_drop]
  putRefs_putRefs p rs rs' h h' := by
    rw [References.refs_pair, List.length_append] at h h'
    obtain ⟨hfst, hsnd⟩ := length_take_drop h
    obtain ⟨hfst', hsnd'⟩ := length_take_drop h'
    rw [References.putRefs_pair, References.putRefs_pair, References.putRefs_pair]
    dsimp only
    rw [length_refs_putRefs p.1 hfst, putRefs_putRefs p.1 _ _ hfst hfst',
      putRefs_putRefs p.2 _ _ hsnd hsnd']

end

/-- A record that keeps its references in some fields inherits the laws from
the tuple of these fields. -/
theorem LawfulReferences.ofFields {α β : Type} [References α] [LawfulReferences α]
    [References β] (get : β → α) (set : β → α → β)
    (hrefs : ∀ b : β, refs b = refs (get b))
    (hput : ∀ (b : β) (rs : List Reference), putRefs b rs = set b (putRefs (get b) rs))
    (hget : ∀ (b : β) (a : α), get (set b a) = a)
    (hset : ∀ (b : β) (a a' : α), set (set b a) a' = set b a') :
    LawfulReferences β where
  refs_putRefs b rs h := by
    rw [hrefs] at h
    rw [hput, hrefs, hget, refs_putRefs _ rs h]
  putRefs_putRefs b rs rs' h h' := by
    rw [hrefs] at h h'
    rw [hput, hput, hput, hset, hget, putRefs_putRefs _ rs rs' h h']

/-! ## Parts of declarations -/

instance : LawfulReferences Attribute :=
  .ofFields Attribute.type (fun a r => { a with type := r })
    (fun _ => rfl) (fun _ _ => rfl) (fun _ _ => rfl) (fun _ _ _ => rfl)

instance : LawfulReferences Element :=
  .ofFields Element.type (fun e r => { e with type := r })
    (fun _ => rfl) (fun _ _ => rfl) (fun _ _ => rfl) (fun _ _ _ => rfl)

instance : LawfulReferences FacetContent :=
  .ofFields (fun c => (c.attributes, c.elements))
    (fun c p => { c with attributes := p.1, elements := p.2 })
    (fun _ => rfl) (fun _ _ => rfl) (fun _ _ => rfl) (fun _ _ _ => rfl)

instance : LawfulReferences ParentRef :=
  .ofFields ParentRef.resource (fun p r => { p with resource := r })
    (fun _ => rfl) (fun _ _ => rfl) (fun _ _ => rfl) (fun _ _ _ => rfl)

instance : LawfulReferences ParameterGroup :=
  .ofFields ParameterGroup.facet (fun g r => { g with facet := r })
    (fun _ => rfl) (fun _ _ => rfl) (fun _ _ => rfl) (fun _ _ _ => rfl)

instance : LawfulReferences ActionRequest :=
  .ofFields ActionRequest.payload (fun q r => { q with payload := r })
    (fun _ => rfl) (fun _ _ => rfl) (fun _ _ => rfl) (fun _ _ _ => rfl)

instance : LawfulReferences ActionResponse :=
  .ofFields ActionResponse.payload (fun q r => { q with payload := r })
    (fun _ => rfl) (fun _ _ => rfl) (fun _ _ => rfl) (fun _ _ _ => rfl)

instance : LawfulReferences ResourceAction :=
  .ofFields (fun a => (a.request, a.responses))
    (fun a p => { a with request := p.1, responses := p.2 })
    (fun _ => rfl) (fun _ _ => rfl) (fun _ _ => rfl) (fun _ _ _ => rfl)

instance : LawfulReferences Resource :=
  .ofFields (fun r => (r.businessObject, r.parents, r.parameterGroups, r.actions))
    (fun r p =>
      { r with
        businessObject := p.1, parents := p.2.1, parameterGroups := p.2.2.1
        actions := p.2.2.2 })
    (fun _ => rfl) (fun _ _ => rfl) (fun _ _ => rfl) (fun _ _ _ => rfl)

instance : LawfulReferences Operation :=
  .ofFields (fun op => (op.request, op.response, op.notification))
    (fun op p => { op with request := p.1, response := p.2.1, notification := p.2.2 })
    (fun _ => rfl) (fun _ _ => rfl) (fun _ _ => rfl) (fun _ _ _ => rfl)

/-- The references of an operation are those of its messages, one message after another. -/
theorem Operation.refs_eq_messages (op : Operation) :
    refs op = op.messages.flatMap fun p => refs p.2 := by
  obtain ⟨name, request, response, notification⟩ := op
  show refs request ++ (refs response ++ refs notification) = _
  -- a message that is not declared brings no reference
  have hnone : refs (none : Option FacetContent) = [] := rfl
  have hsome : ∀ x : FacetContent, refs (some x) = refs x := fun _ => rfl
  cases request <;> cases response <;> cases notification <;> simp [messages, hnone, hsome]

instance : LawfulReferences Service :=
  .ofFields Service.operations (fun s ops => { s with operations := ops })
    (fun _ => rfl) (fun _ _ => rfl) (fun _ _ => rfl) (fun _ _ _ => rfl)

instance : LawfulReferences SimpleType :=
  .ofFields SimpleType.base (fun t r => { t with base := r })
    (fun _ => rfl) (fun _ _ => rfl) (fun _ _ => rfl) (fun _ _ _ => rfl)

instance : LawfulReferences Enumeration :=
  .ofFields Enumeration.extension (fun e r => { e with extension := r })
    (fun _ => rfl) (fun _ _ => rfl) (fun _ _ => rfl) (fun _ _ _ => rfl)

instance : LawfulReferences ValueWithAttributes :=
  .ofFields (fun v => (v.valueType, v.content))
    (fun v p => { v with valueType := p.1, content := p.2 })
    (fun _ => rfl) (fun _ _ => rfl) (fun _ _ => rfl) (fun _ _ _ => rfl)

instance : LawfulReferences CoreObject :=
  .ofFields (fun o => (o.extension, o.simpleType, o.summary, o.detail))
    (fun o p =>
      { o with extension := p.1, simpleType := p.2.1, summary := p.2.2.1, detail := p.2.2.2 })
    (fun _ => rfl) (fun _ _ => rfl) (fun _ _ => rfl) (fun _ _ _ => rfl)

instance : LawfulReferences BusinessObject :=
  .ofFields (fun o => (o.extension, o.id, o.summary, o.detail))
    (fun o p => { o with extension := p.1, id := p.2.1, summary := p.2.2.1, detail := p.2.2.2 })
    (fun _ => rfl) (fun _ _ => rfl) (fun _ _ => rfl) (fun _ _ _ => rfl)

instance : LawfulReferences ChoiceObject :=
  .ofFields (fun o => (o.extension, o.shared))
    (fun o p => { o with extension := p.1, shared := p.2 })
    (fun _ => rfl) (fun _ _ => rfl) (fun _ _ => rfl) (fun _ _ _ => rfl)

instance : LawfulReferences ContextualFacet :=
  .ofFields (fun f => (f.owner, f.content))
    (fun f p => { f with owner := p.1, content := p.2 })
    (fun _ => rfl) (fun _ _ => rfl) (fun _ _ => rfl) (fun _ _ _ => rfl)

instance : LawfulReferences ExtensionPointFacet :=
  .ofFields (fun f => (f.extended, f.content))
    (fun f p => { f with extended := p.1, content := p.2 })
    (fun _ => rfl) (fun _ _ => rfl) (fun _ _ => rfl) (fun _ _ _ => rfl)

instance : LawfulReferences EntityBody where
  refs_putRefs b rs h := by
    cases b with
    | simpleType t => exact refs_putRefs t rs h
    | enumeration e => exact refs_putRefs e rs h
    | valueWithAttributes v => exact refs_putRefs v rs h
    | coreObject o => exact refs_putRefs o rs h
    | businessObject o => exact refs_putRefs o rs h
    | choiceObject o => exact refs_putRefs o rs h
    | contextualFacet f => exact refs_putRefs f rs h
    | extensionPointFacet f => exact refs_putRefs f rs h
    | resource r => exact refs_putRefs r rs h
    | service s => exact refs_putRefs s rs h
  putRefs_putRefs b rs rs' h h' := by
    cases b with
    | simpleType t => exact congrArg EntityBody.simpleType (putRefs_putRefs t rs rs' h h')
    | enumeration e => exact congrArg EntityBody.enumeration (putRefs_putRefs e rs rs' h h')
    | valueWithAttributes v =>
      exact congrArg EntityBody.valueWithAttributes (putRefs_putRefs v rs rs' h h')
    | coreObject o => exact congrArg EntityBody.coreObject (putRefs_putRefs o rs rs' h h')
    | businessObject o => exact congrArg EntityBody.businessObject (putRefs_putRefs o rs rs' h h')
    | choiceObject o => exact congrArg EntityBody.choiceObject (putRefs_putRefs o rs rs' h h')
    | contextualFacet f =>
      exact congrArg EntityBody.contextualFacet (putRefs_putRefs f rs rs' h h')
    | extensionPointFacet f =>
      exact congrArg EntityBody.extensionPointFacet (putRefs_putRefs f rs rs' h h')
    | resource r => exact congrArg EntityBody.resource (putRefs_putRefs r rs rs' h h')
    | service s => exact congrArg EntityBody.service (putRefs_putRefs s rs rs' h h')

/-! ## Bodies without their targets -/

namespace EntityBody

/-- A body as declared: every reference keeps its name and stands for nothing. -/
def declared (b : EntityBody) : EntityBody :=
  putRefs b ((refs b).map fun r => .unbound r.name)

/-- The names of the references, in order. -/
def refNames (b : EntityBody) : List String :=
  (refs b).map Reference.name

theorem refs_declared (b : EntityBody) : refs b.declared = b.refNames.map .unbound := by
  rw [declared, refs_putRefs b _ (List.length_map ..), refNames, List.map_map]
  rfl

theorem length_refNames (b : EntityBody) : b.refNames.length = (refs b).length :=
  List.length_map ..

/-- Bodies that agree on what they declare refer to the same names. -/
theorem refNames_congr {b b' : EntityBody} (h : b.declared = b'.declared) :
    b.refNames = b'.refNames := by
  have hnames : ∀ c : EntityBody, c.refNames = (refs c.declared).map Reference.name := by
    intro c
    rw [refs_declared, List.map_map]
    exact (List.map_id _).symm
  rw [hnames, h, ← hnames]

/-- A bound reference is its name with the target. -/
theorem assign_eq (b : EntityBody) (targets : List (Option Symbol)) :
    b.assign targets = putRefs b (b.refNames.zipWith Reference.mk targets) := by
  rw [assign, refNames, List.zipWith_map_left]

theorem length_bound {b : EntityBody} {targets : List (Option Symbol)}
    (h : targets.length = (refs b).length) :
    (b.refNames.zipWith Reference.mk targets).length = (refs b).length := by
  rw [List.length_zipWith, length_refNames, h, Nat.min_self]

/-- Binding writes each target to its own reference. -/
theorem refs_assign {b : EntityBody} {targets : List (Option Symbol)}
    (h : targets.length = (refs b).length) :
    refs (b.assign targets) = b.refNames.zipWith Reference.mk targets := by
  rw [assign_eq, refs_putRefs b _ (length_bound h)]

/-- Binding keeps what a body declares. -/
theorem declared_assign {b : EntityBody} {targets : List (Option Symbol)}
    (h : targets.length = (refs b).length) : (b.assign targets).declared = b.declared := by
  have hnames : (refs (b.assign targets)).map (fun r => Reference.unbound r.name) =
      (refs b).map fun r => .unbound r.name := by
    rw [refs_assign h]
    apply List.ext_getElem
    · rw [List.length_map, List.length_map, length_bound h]
    · intro i _ _
      simp [refNames]
  rw [declared, hnames, assign_eq, putRefs_putRefs b _ _ (length_bound h) (List.length_map ..)]
  rfl

/-- Bodies that agree on what they declare are alike once bound. -/
theorem assign_congr {b b' : EntityBody} (h : b.declared = b'.declared)
    {targets : List (Option Symbol)} (ht : targets.length = (refs b).length) :
    b.assign targets = b'.assign targets := by
  have hnames := refNames_congr h
  have ht' : targets.length = (refs b').length := by
    rw [ht, ← length_refNames, hnames, length_refNames]
  -- a replacement hides what was there before, so it can start from the declared body
  have hvia : ∀ c : EntityBody, targets.length = (refs c).length →
      c.assign targets = putRefs c.declared (c.refNames.zipWith Reference.mk targets) := by
    intro c hc
    rw [assign_eq, declared, putRefs_putRefs c _ _ (List.length_map ..) (length_bound hc)]
  rw [hvia b ht, hvia b' ht', h, hnames]

end EntityBody

end TravelModel
