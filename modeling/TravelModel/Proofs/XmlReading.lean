import TravelModel.Proofs.XmlTokens

/-!
# TravelModel — reading XML

Tokens are put together to a tree with a stack of the tags that are open. Which tags hold
text is given; text elsewhere has to be blank and is dropped, as the indents of written
elements are.

Main results:

* `balanced_tokens` — in the tokens of an element every tag is closed, by a tag of its name.
* `run_buildStep` — the tokens of an element add it to what was read before it.
* `read?_document` — a document is read back as the markup it was written from.
-/

namespace TravelModel

namespace Xml

open Markup

/-! ## Matching tags -/

/-- Tokens in which every opening tag is closed by one of its name, with such tokens
between the two. -/
inductive Balanced : List Token → Prop where
  | nil : Balanced []
  | text {content : String} {rest : List Token} : Balanced rest → Balanced (.text content :: rest)
  | empty {tag : String} {as : List (String × String)} {rest : List Token} :
    Balanced rest → Balanced (.empty tag as :: rest)
  | element {tag : String} {as : List (String × String)} {inner rest : List Token} :
    Balanced inner → Balanced rest →
      Balanced (.opening tag as :: (inner ++ .closing tag :: rest))

theorem Balanced.append {ts us : List Token} (hts : Balanced ts) (hus : Balanced us) :
    Balanced (ts ++ us) := by
  induction hts with
  | nil => exact hus
  | text _ ih => exact .text ih
  | empty _ ih => exact .empty ih
  | element hinner _ _ ih =>
    rw [List.cons_append, List.append_assoc]
    exact .element hinner ih

theorem balanced_textTokens (content : String) : Balanced (textTokens content) := by
  unfold textTokens
  split
  · exact .nil
  · exact .text .nil

mutual

/-- The tags of an element match. -/
theorem balanced_tokens (level : Nat) : ∀ m : Markup, Balanced (m.tokens level)
  | .leaf _ _ => by
    rw [tokens_leaf]
    exact .text (.empty .nil)
  | .text _ _ content => by
    rw [tokens_text]
    exact .text (.element (balanced_textTokens content) .nil)
  | .node tag _ children => by
    have hinner : Balanced (children.flatMap (tokens (level + 1)) ++ [breakToken level]) :=
      (balanced_flatMap_tokens (level + 1) children).append (.text .nil)
    have hclosed : children.flatMap (tokens (level + 1)) ++ [breakToken level, .closing tag] =
        (children.flatMap (tokens (level + 1)) ++ [breakToken level]) ++ [.closing tag] := by
      rw [List.append_assoc]
      rfl
    rw [tokens_node, hclosed]
    exact .text (.element hinner .nil)

theorem balanced_flatMap_tokens (level : Nat) :
    ∀ ms : List Markup, Balanced (ms.flatMap (tokens level))
  | [] => .nil
  | m :: rest => by
    rw [List.flatMap_cons]
    exact (balanced_tokens level m).append (balanced_flatMap_tokens level rest)

end

/-- What attributes a token can have. -/
def AttributesFrom (es : List Heading) (t : Token) : Prop :=
  t.attributes = [] ∨ ∃ e ∈ es, t.attributes = e.attributes

mutual

/-- The attributes of tokens are those of elements. -/
theorem attributes_of_mem_tokens (level : Nat) (m : Markup) :
    ∀ t ∈ m.tokens level, AttributesFrom m.elements t := by
  cases m with
  | leaf tag as =>
    rw [tokens_leaf, elements_leaf, List.forall_mem_cons, List.forall_mem_singleton]
    exact ⟨Or.inl rfl, Or.inr ⟨_, List.mem_cons_self, rfl⟩⟩
  | text tag as content =>
    have htext : ∀ t ∈ textTokens content, t.attributes = [] := by
      unfold textTokens
      split
      · exact fun t ht => absurd ht List.not_mem_nil
      · exact List.forall_mem_singleton.mpr rfl
    rw [tokens_text, elements_text, List.forall_mem_cons, List.forall_mem_cons,
      List.forall_mem_append, List.forall_mem_singleton]
    exact ⟨Or.inl rfl, Or.inr ⟨_, List.mem_cons_self, rfl⟩, fun t ht => Or.inl (htext t ht),
      Or.inl rfl⟩
  | node tag as children =>
    rw [tokens_node, elements_node, List.forall_mem_cons, List.forall_mem_cons,
      List.forall_mem_append, List.forall_mem_cons, List.forall_mem_singleton]
    refine ⟨Or.inl rfl, Or.inr ⟨_, List.mem_cons_self, rfl⟩, fun t ht => ?_, Or.inl rfl, Or.inl rfl⟩
    exact (attributes_of_mem_flatMap_tokens (level + 1) children t ht).imp_right
      (Exists.imp fun _ h => ⟨List.mem_cons_of_mem _ h.1, h.2⟩)

theorem attributes_of_mem_flatMap_tokens (level : Nat) (ms : List Markup) :
    ∀ t ∈ ms.flatMap (tokens level), AttributesFrom (ms.flatMap elements) t := by
  cases ms with
  | nil => exact fun t ht => absurd ht List.not_mem_nil
  | cons m rest =>
    rw [List.flatMap_cons, List.flatMap_cons, List.forall_mem_append]
    constructor
    · exact fun t ht => (attributes_of_mem_tokens level m t ht).imp_right
        (Exists.imp fun _ h => ⟨List.mem_append_left _ h.1, h.2⟩)
    · exact fun t ht => (attributes_of_mem_flatMap_tokens level rest t ht).imp_right
        (Exists.imp fun _ h => ⟨List.mem_append_right _ h.1, h.2⟩)

end

/-! ## Trees -/

/-- An open tag, with its text so far and the elements before it. -/
structure Frame where
  tag : String
  attributes : List (String × String)
  content : String
  before : List Markup

/-- The open tags, and the elements so far below the innermost of them. -/
structure Partial where
  opened : List Frame
  inner : List Markup

/-- Whether the innermost open tag holds text. -/
def Partial.atText (textual : String → Bool) (p : Partial) : Bool :=
  p.opened.head?.any fun f => textual f.tag

/-- The element of a tag that is closed. -/
def Frame.close (textual : String → Bool) (f : Frame) (inner : List Markup) : Markup :=
  if textual f.tag then .text f.tag f.attributes f.content else .node f.tag f.attributes inner

/-- Adds text to the innermost open tag. -/
def Partial.addText (p : Partial) (content : String) : Option Partial :=
  match p.opened with
  | [] => none
  | f :: below => some { p with opened := { f with content := f.content ++ content } :: below }

/-- Adds one more token to what was read. -/
def buildStep (textual : String → Bool) (p : Partial) : Token → Option Partial
  | .declaration _ => if p.opened.isEmpty && p.inner.isEmpty then some p else none
  | .text content =>
    if p.atText textual then p.addText content
    else if content.toList.all isBlank then some p
    else none
  | .opening tag attributes =>
    if p.atText textual then none else some ⟨⟨tag, attributes, "", p.inner⟩ :: p.opened, []⟩
  | .empty tag attributes =>
    if p.atText textual then none else some { p with inner := p.inner ++ [.leaf tag attributes] }
  | .closing tag =>
    match p.opened with
    | [] => none
    | f :: below =>
      if f.tag = tag then some ⟨below, f.before ++ [f.close textual p.inner]⟩ else none

/-- The root of a text. -/
def read? (textual : String → Bool) (text : String) : Option Markup :=
  (tokens? text).bind fun ts =>
    (run (buildStep textual) ⟨[], []⟩ ts).bind fun p =>
      match p.opened, p.inner with
      | [], [root] => some root
      | _, _ => none

section

variable {textual : String → Bool} {p : Partial} {ts : List Token}

theorem all_isBlank_break (level : Nat) : ("\n" ++ indent level).toList.all isBlank = true := by
  have hindent : (indent level).toList = List.replicate (2 * level) ' ' := String.toList_ofList
  rw [String.toList_append, hindent, List.all_append, List.all_replicate]
  split <;> rfl

/-- Indents are dropped. -/
theorem run_buildStep_break (level : Nat) (hp : p.atText textual = false) :
    run (buildStep textual) p (breakToken level :: ts) = run (buildStep textual) p ts := by
  refine run_cons_of_step ?_
  rw [breakToken, buildStep, hp, if_neg Bool.false_ne_true, if_pos (all_isBlank_break level)]

theorem run_buildStep_opening {tag : String} (as : List (String × String))
    (hp : p.atText textual = false) :
    run (buildStep textual) p (.opening tag as :: ts) =
      run (buildStep textual) ⟨⟨tag, as, "", p.inner⟩ :: p.opened, []⟩ ts := by
  refine run_cons_of_step ?_
  rw [buildStep, hp, if_neg Bool.false_ne_true]

/-- Text is kept behind a tag that holds text. -/
theorem run_buildStep_text {f : Frame} (hf : textual f.tag = true) (hcontent : f.content = "")
    (below : List Frame) (inner : List Markup) (content : String) :
    run (buildStep textual) ⟨f :: below, inner⟩ (textTokens content) =
      some ⟨{ f with content } :: below, inner⟩ := by
  unfold textTokens
  split
  · next hempty => rw [run_nil, hempty, ← hcontent]
  · have hstep : buildStep textual ⟨f :: below, inner⟩ (.text content) =
        some ⟨{ f with content } :: below, inner⟩ := by
      have hat : Partial.atText textual ⟨f :: below, inner⟩ = true := hf
      rw [buildStep, hat, if_pos rfl, Partial.addText]
      dsimp only
      rw [hcontent, String.empty_append]
    rw [run_cons_of_step hstep, run_nil]

theorem run_buildStep_closing (f : Frame) (below : List Frame) (inner : List Markup) :
    run (buildStep textual) ⟨f :: below, inner⟩ [.closing f.tag] =
      some ⟨below, f.before ++ [f.close textual inner]⟩ := by
  have hstep : buildStep textual ⟨f :: below, inner⟩ (.closing f.tag) =
      some ⟨below, f.before ++ [f.close textual inner]⟩ := if_pos rfl
  rw [run_cons_of_step hstep, run_nil]

mutual

/-- The tokens of an element add it to what was read before it. -/
theorem run_buildStep (level : Nat) (m : Markup)
    (h : ∀ e ∈ m.elements, e.holdsText = textual e.tag) (p : Partial)
    (hp : p.atText textual = false) :
    run (buildStep textual) p (m.tokens level) = some { p with inner := p.inner ++ [m] } := by
  cases m with
  | leaf tag as =>
    have hstep : buildStep textual p (.empty tag as) =
        some { p with inner := p.inner ++ [.leaf tag as] } := by
      rw [buildStep, hp, if_neg Bool.false_ne_true]
    rw [tokens_leaf, run_buildStep_break level hp, run_cons_of_step hstep, run_nil]
  | text tag as content =>
    have htag : textual tag = true := (h ⟨tag, as, true⟩ List.mem_cons_self).symm
    rw [tokens_text, run_buildStep_break level hp, run_buildStep_opening as hp,
      run_append_of_run (run_buildStep_text htag rfl _ _ content),
      run_buildStep_closing ⟨tag, as, content, p.inner⟩, Frame.close, if_pos htag]
  | node tag as children =>
    rw [elements_node, List.forall_mem_cons] at h
    have htag : textual tag = false := h.1.symm
    -- elements below the tag change what was read there, never that it holds no text
    have hinner : ∀ inner, Partial.atText textual ⟨⟨tag, as, "", p.inner⟩ :: p.opened, inner⟩ =
        false := fun _ => htag
    rw [tokens_node, run_buildStep_break level hp, run_buildStep_opening as hp,
      run_append_of_run (run_buildStep_all (level + 1) children h.2 _ (hinner [])),
      run_buildStep_break level (hinner _), run_buildStep_closing ⟨tag, as, "", p.inner⟩,
      Frame.close, htag, if_neg Bool.false_ne_true, List.nil_append]

theorem run_buildStep_all (level : Nat) (ms : List Markup)
    (h : ∀ e ∈ ms.flatMap elements, e.holdsText = textual e.tag) (p : Partial)
    (hp : p.atText textual = false) :
    run (buildStep textual) p (ms.flatMap (tokens level)) =
      some { p with inner := p.inner ++ ms } := by
  cases ms with
  | nil => rw [List.flatMap_nil, run_nil, List.append_nil]
  | cons m rest =>
    rw [List.flatMap_cons, List.forall_mem_append] at h
    have hrest := run_buildStep_all level rest h.2 { p with inner := p.inner ++ [m] } hp
    rw [List.flatMap_cons, run_append_of_run (run_buildStep level m h.1 p hp), hrest,
      List.append_assoc]
    rfl

end

/-- A document is read back as the markup it was written from. -/
theorem read?_document {root : Markup} (hnamed : ∀ e ∈ root.elements, e.Named)
    (htext : ∀ e ∈ root.elements, e.holdsText = textual e.tag) :
    read? textual (document root) = some root := by
  have hdeclaration : buildStep textual ⟨[], []⟩ declarationToken = some ⟨[], []⟩ := rfl
  have hend : buildStep textual ⟨[], [root]⟩ (.text "\n") = some ⟨[], [root]⟩ := by
    rw [buildStep, if_neg (by exact Bool.false_ne_true), if_pos (by decide)]
  rw [read?, tokens?_document hnamed, Option.bind_some, run_cons_of_step hdeclaration,
    run_append_of_run (run_buildStep 0 root htext ⟨[], []⟩ rfl), List.nil_append,
    run_cons_of_step hend, run_nil]
  rfl

end

end Xml

end TravelModel
