import TravelModel.Xsd.Markup

/-!
# TravelModel — XML tokens

Texts are cut into tags and text character by character, by a machine that knows nothing of
how texts are written: names are those of XML 1.0, values stand in quotes and hold no `<`,
and only the five references that every XML text may use are replaced. Comments, sections
and other instructions are not accepted, so that what passes here is XML.

Main results:

* `unescape?_escape` — replacing references undoes writing them, for every text.
* `run_attributes` — the written attributes of a tag are read back, in order.
* `run_render` — an element is cut into its tags and texts, whatever came before.
* `tokens?_document` — a document is cut into a declaration and the tokens of its root.
-/

namespace TravelModel

namespace Xml

/-! ## Machines -/

/-- Goes through items one after another, as long as each is accepted. -/
def run {σ α : Type} (step : σ → α → Option σ) (s : σ) (items : List α) : Option σ :=
  items.foldlM step s

section

variable {σ α : Type} {step : σ → α → Option σ} {s s' : σ} {x : α} {xs : List α}

@[simp] theorem run_nil : run step s [] = some s :=
  rfl

theorem run_cons : run step s (x :: xs) = (step s x).bind fun s' => run step s' xs :=
  List.foldlM_cons

/-- Going on from an item that was accepted. -/
theorem run_cons_of_step (h : step s x = some s') : run step s (x :: xs) = run step s' xs := by
  rw [run_cons, h, Option.bind_some]

/-- Going on from items that were accepted. -/
theorem run_append_of_run (h : run step s xs = some s') (ys : List α) :
    run step s (xs ++ ys) = run step s' ys := by
  rw [run, List.foldlM_append, Option.bind_eq_bind, ← run, h, Option.bind_some, run]

end

/-! ## Names and references -/

/-- The characters that can begin a name. -/
def startRanges : List (Nat × Nat) :=
  [ (0x3A, 0x3A), (0x41, 0x5A), (0x5F, 0x5F), (0x61, 0x7A), (0xC0, 0xD6), (0xD8, 0xF6),
    (0xF8, 0x2FF), (0x370, 0x37D), (0x37F, 0x1FFF), (0x200C, 0x200D), (0x2070, 0x218F),
    (0x2C00, 0x2FEF), (0x3001, 0xD7FF), (0xF900, 0xFDCF), (0xFDF0, 0xFFFD),
    (0x10000, 0xEFFFF) ]

/-- The characters that can stand in a name but not begin it. -/
def innerRanges : List (Nat × Nat) :=
  [(0x2D, 0x2E), (0x30, 0x39), (0xB7, 0xB7), (0x300, 0x36F), (0x203F, 0x2040)]

def inRanges (ranges : List (Nat × Nat)) (c : Char) : Bool :=
  ranges.any fun r => r.1 ≤ c.toNat && c.toNat ≤ r.2

def isNameStart (c : Char) : Bool :=
  inRanges startRanges c

def isNameChar (c : Char) : Bool :=
  isNameStart c || inRanges innerRanges c

/-- Whether characters are a name. -/
def isName : List Char → Bool
  | [] => false
  | c :: rest => isNameStart c && rest.all isNameChar

def isBlank (c : Char) : Bool :=
  c = ' ' || c = '\t' || c = '\n' || c = '\r'

/-- The characters that end a name in a tag. -/
def delimiters : List Char :=
  [' ', '\t', '\n', '\r', '/', '>', '=', '<', '?', '\x22', '\x27']

theorem not_isNameChar_of_mem {c : Char} (h : c ∈ delimiters) : isNameChar c = false := by
  have hall : delimiters.all (fun c => !isNameChar c) = true := by decide
  simpa using List.all_eq_true.mp hall c h

theorem isNameChar_of_isName {cs : List Char} (h : isName cs = true) :
    ∀ c ∈ cs, isNameChar c = true := by
  cases cs with
  | nil => exact fun c hc => absurd hc List.not_mem_nil
  | cons c rest =>
    rw [isName, Bool.and_eq_true] at h
    rw [List.forall_mem_cons]
    exact ⟨by rw [isNameChar, h.1, Bool.true_or], List.all_eq_true.mp h.2⟩

theorem isName_append {cs ds : List Char} (hcs : isName cs = true) (hds : isName ds = true) :
    isName (cs ++ ds) = true := by
  cases cs with
  | nil => exact absurd hcs Bool.false_ne_true
  | cons c rest =>
    rw [isName, Bool.and_eq_true] at hcs
    rw [List.cons_append, isName, hcs.1, List.all_append, hcs.2, Bool.true_and, Bool.true_and]
    exact List.all_eq_true.mpr (isNameChar_of_isName hds)

theorem not_mem_delimiters {cs : List Char} (h : isName cs = true) :
    ∀ c ∈ cs, c ∉ delimiters := by
  intro c hc hmem
  have hchar := isNameChar_of_isName h c hc
  rw [not_isNameChar_of_mem hmem] at hchar
  exact Bool.false_ne_true hchar

/-- The character that a reference stands for. -/
def reference? (name : List Char) : Option Char :=
  if name = "lt".toList then some '<'
  else if name = "gt".toList then some '>'
  else if name = "amp".toList then some '&'
  else if name = "apos".toList then some '\x27'
  else if name = "quot".toList then some '\x22'
  else none

/-- Reads one more character of a text with references: what was read of the text, and of
a reference if one is open. -/
def unescapeStep (s : List Char × Option (List Char)) (c : Char) :
    Option (List Char × Option (List Char)) :=
  match s.2 with
  | none => some (if c = '&' then (s.1, some []) else (s.1 ++ [c], none))
  | some name =>
    if c = ';' then (reference? name).map fun r => (s.1 ++ [r], none)
    else some (s.1, some (name ++ [c]))

/-- A text with its references replaced. -/
def unescape? (cs : List Char) : Option (List Char) :=
  (run unescapeStep ([], none) cs).bind fun s =>
    if s.2.isNone then some s.1 else none

theorem run_escapeChar (read : List Char) (c : Char) :
    run unescapeStep (read, none) (Markup.escapeChar c) = some (read ++ [c], none) := by
  unfold Markup.escapeChar
  split
  · rfl
  · rfl
  · rfl
  · rfl
  · rfl
  · next hamp _ _ =>
    rw [run_cons, unescapeStep, if_neg hamp]
    rfl

theorem run_unescape (cs read : List Char) :
    run unescapeStep (read, none) (cs.flatMap Markup.escapeChar) = some (read ++ cs, none) := by
  induction cs generalizing read with
  | nil => rw [List.append_nil]; rfl
  | cons c rest ih =>
    rw [List.flatMap_cons, run_append_of_run (run_escapeChar read c), ih,
      List.append_assoc]
    rfl

theorem toList_escape (s : String) :
    (Markup.escape s).toList = s.toList.flatMap Markup.escapeChar :=
  String.toList_ofList

/-- Replacing references undoes writing them. -/
theorem unescape?_escape (s : String) : unescape? (Markup.escape s).toList = some s.toList := by
  rw [unescape?, toList_escape, run_unescape]
  rfl

theorem all_escapeChar (d : Char) :
    (Markup.escapeChar d).all (fun c => c ≠ '<' ∧ c ≠ '\x22') = true := by
  unfold Markup.escapeChar
  split
  · decide
  · decide
  · decide
  · decide
  · decide
  · next hlt _ _ _ hquot => simpa using ⟨hlt, hquot⟩

/-- A written text holds no character that ends text or a value. -/
theorem ne_of_mem_escape (s : String) :
    ∀ c ∈ (Markup.escape s).toList, c ≠ '<' ∧ c ≠ '\x22' := by
  intro c hc
  rw [toList_escape, List.mem_flatMap] at hc
  obtain ⟨d, -, hc⟩ := hc
  exact of_decide_eq_true (List.all_eq_true.mp (all_escapeChar d) c hc)

/-! ## The machine -/

/-- A tag or a text. -/
inductive Token where
  | declaration (content : String)
  | opening (tag : String) (attributes : List (String × String))
  | empty (tag : String) (attributes : List (String × String))
  | closing (tag : String)
  | text (content : String)
deriving DecidableEq, Repr

/-- The attributes of a token. -/
def Token.attributes : Token → List (String × String)
  | opening _ attributes | empty _ attributes => attributes
  | declaration _ | closing _ | text _ => []

/-- What is being read. -/
inductive Mode where
  | content (read : List Char)
  /-- Behind `<`. -/
  | angle
  | declaration (read : List Char)
  /-- Behind `?` in a declaration. -/
  | question (read : List Char)
  | name (read : List Char)
  /-- Behind a blank in a tag. -/
  | within (tag : String) (attributes : List (String × String))
  | key (tag : String) (attributes : List (String × String)) (read : List Char)
  /-- Behind `=`. -/
  | equals (tag : String) (attributes : List (String × String)) (key : String)
  | value (tag : String) (attributes : List (String × String)) (key : String) (quote : Char)
    (read : List Char)
  /-- Behind the name of a tag or a value. -/
  | behind (tag : String) (attributes : List (String × String))
  /-- Behind `/` at the end of a tag. -/
  | slash (tag : String) (attributes : List (String × String))
  | closing (read : List Char)
deriving DecidableEq, Repr

/-- The tokens so far, and what is being read. -/
structure State where
  tokens : List Token
  mode : Mode
deriving DecidableEq, Repr

/-- Text between tags is a token unless there is none. -/
def flush (tokens : List Token) (read : List Char) : Option (List Token) :=
  if read.isEmpty then some tokens
  else (unescape? read).map fun cs => tokens ++ [.text (String.ofList cs)]

/-- Reads a character where a tag can end. -/
def endStep (tokens : List Token) (tag : String) (attributes : List (String × String))
    (c : Char) : Option State :=
  if isBlank c then some ⟨tokens, .within tag attributes⟩
  else if c = '/' then some ⟨tokens, .slash tag attributes⟩
  else if c = '>' then some ⟨tokens ++ [.opening tag attributes], .content []⟩
  else none

/-- Reads one more character. -/
def step (s : State) (c : Char) : Option State :=
  match s.mode with
  | .content read =>
    if c = '<' then (flush s.tokens read).map (⟨·, .angle⟩)
    else some ⟨s.tokens, .content (read ++ [c])⟩
  | .angle =>
    if c = '/' then some ⟨s.tokens, .closing []⟩
    else if c = '?' then some ⟨s.tokens, .declaration []⟩
    else some ⟨s.tokens, .name [c]⟩
  | .declaration read =>
    if c = '?' then some ⟨s.tokens, .question read⟩
    else some ⟨s.tokens, .declaration (read ++ [c])⟩
  | .question read =>
    if c = '>' then some ⟨s.tokens ++ [.declaration (String.ofList read)], .content []⟩ else none
  | .name read =>
    if isNameChar c then some ⟨s.tokens, .name (read ++ [c])⟩
    else if isName read then endStep s.tokens (String.ofList read) [] c
    else none
  | .within tag attributes =>
    if isNameChar c then some ⟨s.tokens, .key tag attributes [c]⟩
    else endStep s.tokens tag attributes c
  | .key tag attributes read =>
    if isNameChar c then some ⟨s.tokens, .key tag attributes (read ++ [c])⟩
    else if c = '=' && isName read then some ⟨s.tokens, .equals tag attributes (String.ofList read)⟩
    else none
  | .equals tag attributes key =>
    if c = '\x22' || c = '\x27' then some ⟨s.tokens, .value tag attributes key c []⟩ else none
  | .value tag attributes key quote read =>
    if c = quote then
      (unescape? read).map fun v =>
        ⟨s.tokens, .behind tag (attributes ++ [(key, String.ofList v)])⟩
    else if c = '<' then none
    else some ⟨s.tokens, .value tag attributes key quote (read ++ [c])⟩
  | .behind tag attributes => endStep s.tokens tag attributes c
  | .slash tag attributes =>
    if c = '>' then some ⟨s.tokens ++ [.empty tag attributes], .content []⟩ else none
  | .closing read =>
    if isNameChar c then some ⟨s.tokens, .closing (read ++ [c])⟩
    else if c = '>' && isName read then
      some ⟨s.tokens ++ [.closing (String.ofList read)], .content []⟩
    else none

/-- The tokens of a text. -/
def tokens? (text : String) : Option (List Token) :=
  (run step ⟨[], .content []⟩ text.toList).bind fun s =>
    match s.mode with
    | .content read => flush s.tokens read
    | _ => none

section

variable {ts : List Token} {tag : String} {as : List (String × String)} {c : Char}
  {cs : List Char}

/-- Where every character is taken in, all of them are. -/
theorem run_collect (mode : List Char → Mode) (read : List Char)
    (h : ∀ read, ∀ c ∈ cs, step ⟨ts, mode read⟩ c = some ⟨ts, mode (read ++ [c])⟩) :
    run step ⟨ts, mode read⟩ cs = some ⟨ts, mode (read ++ cs)⟩ := by
  induction cs generalizing read with
  | nil => rw [List.append_nil, run_nil]
  | cons c rest ih =>
    rw [run_cons_of_step (h read c List.mem_cons_self),
      ih _ fun read d hd => h read d (List.mem_cons_of_mem _ hd), List.append_assoc]
    rfl

theorem run_collect_nil (mode : List Char → Mode)
    (h : ∀ read, ∀ c ∈ cs, step ⟨ts, mode read⟩ c = some ⟨ts, mode (read ++ [c])⟩) :
    run step ⟨ts, mode []⟩ cs = some ⟨ts, mode cs⟩ := by
  rw [run_collect mode [] h, List.nil_append]

/-! ## Written parts of tags -/

/-- Text up to a tag. -/
theorem run_text (h : ∀ c ∈ cs, c ≠ '<') :
    run step ⟨ts, .content []⟩ cs = some ⟨ts, .content cs⟩ :=
  run_collect_nil .content fun _ c hc => if_neg (h c hc)

/-- Behind the name of a tag, reading goes on as behind its attributes. -/
theorem run_name (htag : isName tag.toList = true) (hc : isNameChar c = false) :
    run step ⟨ts, .angle⟩ (tag.toList ++ c :: cs) = run step ⟨ts, .behind tag []⟩ (c :: cs) := by
  have hchars := isNameChar_of_isName htag
  have hlimits := not_mem_delimiters htag
  have hread : run step ⟨ts, .angle⟩ tag.toList = some ⟨ts, .name tag.toList⟩ := by
    cases hlist : tag.toList with
    | nil =>
      rw [hlist] at htag
      exact absurd htag Bool.false_ne_true
    | cons d rest =>
      rw [hlist, List.forall_mem_cons] at hchars hlimits
      have hstep : step ⟨ts, .angle⟩ d = some ⟨ts, .name [d]⟩ := by
        have hslash : d ≠ '/' := fun h => hlimits.1 (h ▸ by decide)
        have hquestion : d ≠ '?' := fun h => hlimits.1 (h ▸ by decide)
        exact (if_neg hslash).trans (if_neg hquestion)
      rw [run_cons_of_step hstep]
      exact run_collect .name [d] fun _ c hc => if_pos (hchars.2 c hc)
  have hend : step ⟨ts, .name tag.toList⟩ c = step ⟨ts, .behind tag []⟩ c := by
    dsimp only [step]
    rw [hc, if_neg Bool.false_ne_true, if_pos htag, String.ofList_toList]
  rw [run_append_of_run hread, run_cons, hend, ← run_cons]

/-- The characters of a written attribute. -/
def attributeText (a : String × String) : List Char :=
  ' ' :: (a.1.toList ++ '=' :: '\x22' :: ((Markup.escape a.2).toList ++ ['\x22']))

/-- A written attribute is read back. -/
theorem run_attribute {k : String} (hk : isName k.toList = true) (v : String) :
    run step ⟨ts, .behind tag as⟩ (attributeText (k, v)) =
      some ⟨ts, .behind tag (as ++ [(k, v)])⟩ := by
  have hkey : run step ⟨ts, .within tag as⟩ k.toList = some ⟨ts, .key tag as k.toList⟩ := by
    have hchars := isNameChar_of_isName hk
    cases hlist : k.toList with
    | nil =>
      rw [hlist] at hk
      exact absurd hk Bool.false_ne_true
    | cons d rest =>
      rw [hlist, List.forall_mem_cons] at hchars
      have hstep : step ⟨ts, .within tag as⟩ d = some ⟨ts, .key tag as [d]⟩ := if_pos hchars.1
      rw [run_cons_of_step hstep]
      exact run_collect (.key tag as) [d] fun _ c hc => if_pos (hchars.2 c hc)
  have hequals : step ⟨ts, .key tag as k.toList⟩ '=' = some ⟨ts, .equals tag as k⟩ := by
    have hlimit : isNameChar '=' = false := by decide
    dsimp only [step]
    rw [hlimit, if_neg Bool.false_ne_true, hk, String.ofList_toList]
    rfl
  have hvalue : run step ⟨ts, .value tag as k '\x22' []⟩ (Markup.escape v).toList =
      some ⟨ts, .value tag as k '\x22' (Markup.escape v).toList⟩ :=
    run_collect_nil (.value tag as k '\x22') fun _ c hc =>
      (if_neg (ne_of_mem_escape v c hc).2).trans (if_neg (ne_of_mem_escape v c hc).1)
  have hquote : step ⟨ts, .value tag as k '\x22' (Markup.escape v).toList⟩ '\x22' =
      some ⟨ts, .behind tag (as ++ [(k, v)])⟩ := by
    dsimp only [step]
    rw [if_pos rfl, unescape?_escape, Option.map_some, String.ofList_toList]
  have hblank : step ⟨ts, .behind tag as⟩ ' ' = some ⟨ts, .within tag as⟩ := rfl
  have hopen : step ⟨ts, .equals tag as k⟩ '\x22' = some ⟨ts, .value tag as k '\x22' []⟩ := rfl
  rw [attributeText, run_cons_of_step hblank, run_append_of_run hkey, run_cons_of_step hequals,
    run_cons_of_step hopen, run_append_of_run hvalue, run_cons_of_step hquote, run_nil]

/-- Written attributes are read back, in order. -/
theorem run_attributes (bs : List (String × String)) (h : ∀ b ∈ bs, isName b.1.toList = true)
    (as : List (String × String)) :
    run step ⟨ts, .behind tag as⟩ (bs.flatMap attributeText) =
      some ⟨ts, .behind tag (as ++ bs)⟩ := by
  induction bs generalizing as with
  | nil => rw [List.append_nil]; rfl
  | cons b rest ih =>
    rw [List.forall_mem_cons] at h
    rw [List.flatMap_cons, run_append_of_run (run_attribute h.1 b.2), ih h.2, List.append_assoc]
    rfl

theorem toList_head (tag : String) (as : List (String × String)) :
    (Markup.head tag as).toList = tag.toList ++ as.flatMap attributeText := by
  rw [Markup.head, String.toList_append, String.toList_join, List.flatMap_map]
  congr 2
  funext a
  simp [attributeText]

/-- A tag with its attributes, up to its end. -/
theorem run_head (htag : isName tag.toList = true) (has : ∀ a ∈ as, isName a.1.toList = true)
    (hc : isNameChar c = false) :
    run step ⟨ts, .angle⟩ ((Markup.head tag as).toList ++ c :: cs) =
      run step ⟨ts, .behind tag as⟩ (c :: cs) := by
  -- a name ends at the blank before the first attribute, or at the character given
  obtain ⟨d, ds, hd, hlist⟩ :
      ∃ d ds, isNameChar d = false ∧ as.flatMap attributeText ++ c :: cs = d :: ds := by
    cases as with
    | nil => exact ⟨c, cs, hc, rfl⟩
    | cons a rest => exact ⟨' ', _, by decide, rfl⟩
  rw [toList_head, List.append_assoc, hlist, run_name htag hd, ← hlist,
    run_append_of_run (run_attributes as has []), List.nil_append]

/-- The end of an element. -/
theorem run_closing (htag : isName tag.toList = true) :
    run step ⟨ts, .angle⟩ ('/' :: (tag.toList ++ '>' :: cs)) =
      run step ⟨ts ++ [.closing tag], .content []⟩ cs := by
  have hslash : step ⟨ts, .angle⟩ '/' = some ⟨ts, .closing []⟩ := rfl
  have hname : run step ⟨ts, .closing []⟩ tag.toList = some ⟨ts, .closing tag.toList⟩ :=
    run_collect_nil .closing fun _ c hc => if_pos (isNameChar_of_isName htag c hc)
  have hend : step ⟨ts, .closing tag.toList⟩ '>' = some ⟨ts ++ [.closing tag], .content []⟩ := by
    have hlimit : isNameChar '>' = false := by decide
    dsimp only [step]
    rw [hlimit, if_neg Bool.false_ne_true, htag, String.ofList_toList]
    rfl
  rw [run_cons_of_step hslash, run_append_of_run hname, run_cons_of_step hend]

end

end Xml

/-! ## Tokens of elements -/

namespace Markup

/-- A tag with its attributes, and whether text stands behind it. -/
structure Heading where
  tag : String
  attributes : List (String × String)
  holdsText : Bool
deriving DecidableEq, Repr

mutual

/-- An element and all elements below it, in the order of their tags. -/
def elements : Markup → List Heading
  | leaf tag attributes => [⟨tag, attributes, false⟩]
  | text tag attributes _ => [⟨tag, attributes, true⟩]
  | node tag attributes children => ⟨tag, attributes, false⟩ :: elementsAll children

/-- The elements of some markups one after another. -/
def elementsAll : List Markup → List Heading
  | [] => []
  | m :: rest => m.elements ++ elementsAll rest

end

theorem elementsAll_eq_flatMap (ms : List Markup) : elementsAll ms = ms.flatMap elements := by
  induction ms with
  | nil => rfl
  | cons m rest ih => exact congrArg (m.elements ++ ·) ih

section

variable (tag : String) (as : List (String × String)) (content : String) (ms : List Markup)

@[simp] theorem elements_leaf : (leaf tag as).elements = [⟨tag, as, false⟩] :=
  rfl

@[simp] theorem elements_text : (text tag as content).elements = [⟨tag, as, true⟩] :=
  rfl

@[simp] theorem elements_node :
    (node tag as ms).elements = ⟨tag, as, false⟩ :: ms.flatMap elements :=
  congrArg (_ :: ·) (elementsAll_eq_flatMap ms)

end

/-- Whether the tag and the attributes of an element have names. -/
def Heading.Named (e : Heading) : Prop :=
  Xml.isName e.tag.toList = true ∧ ∀ a ∈ e.attributes, Xml.isName a.1.toList = true

open Xml (Token)

/-- The line break and the indent before a tag. -/
def breakToken (level : Nat) : Token :=
  .text ("\n" ++ indent level)

/-- The token of a text, if there is one. -/
def textTokens (content : String) : List Token :=
  if content = "" then [] else [.text content]

mutual

/-- The tokens of an element at a level. -/
def tokens (level : Nat) : Markup → List Token
  | leaf tag attributes => [breakToken level, .empty tag attributes]
  | text tag attributes content =>
    breakToken level :: .opening tag attributes :: (textTokens content ++ [.closing tag])
  | node tag attributes children =>
    breakToken level :: .opening tag attributes ::
      (tokensAll (level + 1) children ++ [breakToken level, .closing tag])

/-- The tokens of elements one after another. -/
def tokensAll (level : Nat) : List Markup → List Token
  | [] => []
  | m :: rest => m.tokens level ++ tokensAll level rest

end

theorem tokensAll_eq_flatMap (level : Nat) (ms : List Markup) :
    tokensAll level ms = ms.flatMap (tokens level) := by
  induction ms with
  | nil => rfl
  | cons m rest ih => exact congrArg (m.tokens level ++ ·) ih

section

variable (level : Nat) (tag : String) (as : List (String × String)) (content : String)
  (ms : List Markup)

@[simp] theorem tokens_leaf : (leaf tag as).tokens level = [breakToken level, .empty tag as] :=
  rfl

@[simp] theorem tokens_text : (text tag as content).tokens level =
    breakToken level :: .opening tag as :: (textTokens content ++ [.closing tag]) :=
  rfl

@[simp] theorem tokens_node : (node tag as ms).tokens level =
    breakToken level :: .opening tag as ::
      (ms.flatMap (tokens (level + 1)) ++ [breakToken level, .closing tag]) := by
  rw [← tokensAll_eq_flatMap]
  rfl

end

end Markup

namespace Xml

open Markup

section

variable {ts : List Token} {tag : String} {as : List (String × String)} {cs : List Char}

theorem flush_escape (content : String) :
    flush ts (escape content).toList = some (ts ++ textTokens content) := by
  rw [flush, textTokens, unescape?_escape, Option.map_some, String.ofList_toList]
  by_cases hempty : content = ""
  · subst hempty
    rw [if_pos rfl, List.append_nil, toList_escape]
    rfl
  · rw [if_neg, if_neg hempty]
    intro hwritten
    -- what is written for a text is empty only if the text is, as it is read back
    have hread := unescape?_escape content
    rw [List.isEmpty_iff.mp hwritten] at hread
    exact hempty (String.toList_eq_nil_iff.mp (Option.some.inj hread).symm)

/-- Written text up to a tag. -/
theorem run_escape (content : String) :
    run step ⟨ts, .content []⟩ ((escape content).toList ++ '<' :: cs) =
      run step ⟨ts ++ textTokens content, .angle⟩ cs := by
  have hstep : step ⟨ts, .content (escape content).toList⟩ '<' =
      some ⟨ts ++ textTokens content, .angle⟩ := by
    dsimp only [step]
    rw [if_pos rfl, flush_escape, Option.map_some]
  rw [run_append_of_run (run_text fun c hc => (ne_of_mem_escape content c hc).1),
    run_cons_of_step hstep]

theorem escape_break (level : Nat) : escape ("\n" ++ indent level) = "\n" ++ indent level := by
  have hindent : (indent level).toList = List.replicate (2 * level) ' ' := String.toList_ofList
  rw [← String.toList_inj, toList_escape, String.toList_append, List.flatMap_append, hindent,
    List.flatMap_replicate]
  exact congrArg _ List.flatten_replicate_singleton

/-- A line break and an indent, up to a tag. -/
theorem run_break (level : Nat) :
    run step ⟨ts, .content []⟩ (("\n" ++ indent level).toList ++ '<' :: cs) =
      run step ⟨ts ++ [breakToken level], .angle⟩ cs := by
  have htokens : textTokens ("\n" ++ indent level) = [breakToken level] := by
    rw [textTokens, if_neg, breakToken]
    intro hempty
    simpa using congrArg String.toList hempty
  rw [← escape_break, run_escape, htokens]

/-- The opening tag of an element with content. -/
theorem run_opening (htag : isName tag.toList = true)
    (has : ∀ a ∈ as, isName a.1.toList = true) :
    run step ⟨ts, .angle⟩ ((head tag as).toList ++ '>' :: cs) =
      run step ⟨ts ++ [.opening tag as], .content []⟩ cs := by
  rw [run_head htag has (by decide)]
  exact run_cons_of_step rfl

mutual

/-- An element is cut into its tokens. -/
theorem run_render (level : Nat) (m : Markup) (h : ∀ e ∈ m.elements, e.Named) (ts : List Token) :
    run step ⟨ts, .content []⟩ (m.render level).toList =
      some ⟨ts ++ m.tokens level, .content []⟩ := by
  -- each case lays the written characters out as parts that were read back above; the text
  -- ends behind `>`, so that what follows starts again from no text
  cases m with
  | leaf tag as =>
    obtain ⟨htag, has⟩ := h ⟨tag, as, false⟩ List.mem_cons_self
    have hrender : render level (.leaf tag as) =
        "\n" ++ indent level ++ "<" ++ head tag as ++ "/>" := rfl
    have hchars : (render level (.leaf tag as)).toList =
        ("\n" ++ indent level).toList ++ '<' :: ((head tag as).toList ++ '/' :: ['>']) := by
      simp [hrender]
    have hslash : step ⟨ts ++ [breakToken level], .behind tag as⟩ '/' =
        some ⟨ts ++ [breakToken level], .slash tag as⟩ := rfl
    rw [hchars, run_break, run_head htag has (by decide), run_cons_of_step hslash,
      run_cons_of_step rfl, run_nil, tokens_leaf, List.append_assoc]
    rfl
  | text tag as content =>
    obtain ⟨htag, has⟩ := h ⟨tag, as, true⟩ List.mem_cons_self
    have hrender : render level (.text tag as content) = "\n" ++ indent level ++ "<" ++
        head tag as ++ ">" ++ escape content ++ "</" ++ tag ++ ">" := rfl
    have hchars : (render level (.text tag as content)).toList =
        ("\n" ++ indent level).toList ++ '<' :: ((head tag as).toList ++ '>' ::
          ((escape content).toList ++ '<' :: '/' :: (tag.toList ++ ['>']))) := by
      simp [hrender]
    rw [hchars, run_break, run_opening htag has, run_escape, run_closing htag, run_nil,
      tokens_text]
    simp
  | node tag as children =>
    rw [elements_node, List.forall_mem_cons] at h
    obtain ⟨⟨htag, has⟩, hchildren⟩ := h
    have hrender : render level (.node tag as children) = "\n" ++ indent level ++ "<" ++
        head tag as ++ ">" ++ renderAll (level + 1) children ++ "\n" ++ indent level ++ "</" ++
        tag ++ ">" := rfl
    have hchars : (render level (.node tag as children)).toList =
        ("\n" ++ indent level).toList ++ '<' :: ((head tag as).toList ++ '>' ::
          ((renderAll (level + 1) children).toList ++
            (("\n" ++ indent level).toList ++ '<' :: '/' :: (tag.toList ++ ['>'])))) := by
      simp [hrender]
    rw [hchars, run_break, run_opening htag has,
      run_append_of_run (run_renderAll (level + 1) children hchildren _), run_break,
      run_closing htag, run_nil, tokens_node]
    simp

theorem run_renderAll (level : Nat) (ms : List Markup)
    (h : ∀ e ∈ ms.flatMap elements, e.Named) (ts : List Token) :
    run step ⟨ts, .content []⟩ (renderAll level ms).toList =
      some ⟨ts ++ ms.flatMap (tokens level), .content []⟩ := by
  cases ms with
  | nil => simp [renderAll]
  | cons m rest =>
    rw [List.flatMap_cons, List.forall_mem_append] at h
    rw [renderAll, String.toList_append, run_append_of_run (run_render level m h.1 ts),
      run_renderAll level rest h.2, List.flatMap_cons, List.append_assoc]

end

/-- The declaration that every document begins with. -/
def declarationToken : Token :=
  .declaration "xml version=\x221.0\x22 encoding=\x22UTF-8\x22"

theorem run_declaration : run step ⟨[], .content []⟩
    "<?xml version=\x221.0\x22 encoding=\x22UTF-8\x22?>".toList =
      some ⟨[declarationToken], .content []⟩ := by
  decide +kernel

/-- A document is cut into its declaration and the tokens of its root. -/
theorem tokens?_document {root : Markup} (h : ∀ e ∈ root.elements, e.Named) :
    tokens? (document root) = some (declarationToken :: (root.tokens 0 ++ [.text "\n"])) := by
  have hrun : run step ⟨[], .content []⟩ (document root).toList =
      some ⟨[declarationToken] ++ root.tokens 0, .content ['\n']⟩ := by
    unfold document
    rw [String.toList_append, String.toList_append, List.append_assoc,
      run_append_of_run run_declaration, run_append_of_run (run_render 0 root h _)]
    exact run_text (List.forall_mem_singleton.mpr (by decide))
  have hflush : flush ([declarationToken] ++ root.tokens 0) (escape "\n").toList =
      some ([declarationToken] ++ root.tokens 0 ++ textTokens "\n") := flush_escape "\n"
  rw [tokens?, hrun]
  exact hflush

end

end Xml

end TravelModel
