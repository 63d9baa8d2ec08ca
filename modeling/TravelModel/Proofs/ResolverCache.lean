import TravelModel.Proofs.ProjectWaves

/-!
# TravelModel — kept answers do not show

A resolver keeps what its repositories answer to a reference, the answer that there is
nothing as well, under the reference and the namespace; no namespace counts as the empty
one. An answer is determined by the reference alone, so whatever was asked before, and
whatever libraries were noted in between, asking again gives what asking the repositories
anew would give.

Main results:

* `truthful_call` — every kept answer is the one that the repositories give, after each
  call.
* `resolve_eq_locations` — resolving with such answers is resolving without any.
* `calls_eq_plainCalls` — a run of calls gives the same locations with and without kept
  answers.
-/

namespace TravelModel

namespace Resolver

/-! ## Resolving without kept answers -/

/-- Where a hint leads: the first of a loaded library, a file, an item of a repository, a
file of the namespace in a repository, and the location that the hint names. -/
def locate? (r : Resolver) (t : FileTree) (ns : Option String) (base : Option Url)
    (hint : String) : Option Url :=
  (r.fromLoaded? ns hint).or <| (localFile? t hint base).or <| (r.referenced? t hint).or <|
    (ns.bind fun n => r.search? t n hint).or (fallback? hint base)

/-- What the catalog lists for a namespace. -/
def listed? (r : Resolver) (ns : Option String) : Option (List Url) :=
  ns.bind fun n => r.catalog.bind fun c => c.locations? n

/-- What a namespace with hints is resolved to, each location once unless the catalog
lists them. -/
def locations (r : Resolver) (t : FileTree) (ns : Option String) (hints : List String)
    (base : Option Url) : List Url :=
  match r.listed? ns with
  | some urls => urls
  | none => (hints.filterMap (r.locate? t ns base)).eraseDups

/-! ## Runs -/

/-- A call on a resolver: a library has been loaded, or hints are to be resolved. -/
inductive Call where
  | register (ns : Option String) (url : Url)
  | resolve (ns : Option String) (hints : List String) (base : Option Url)
deriving DecidableEq, Repr

/-- A call, with the locations that it returns if it asks for any. -/
def call (t : FileTree) (r : Resolver) : Call → Resolver × Option (List Url)
  | .register ns url => (r.register ns url, none)
  | .resolve ns hints base =>
    ((r.resolve t ns hints base).1, some (r.resolve t ns hints base).2)

/-- A call on a resolver that keeps no answers. -/
def plainCall (t : FileTree) (r : Resolver) : Call → Resolver × Option (List Url)
  | .register ns url => (r.register ns url, none)
  | .resolve ns hints base => (r, some (r.locations t ns hints base))

/-- Calls in turn, with all that they return. -/
def runCalls (step : Resolver → Call → Resolver × Option (List Url)) :
    Resolver → List Call → Resolver × List (Option (List Url))
  | r, [] => (r, [])
  | r, c :: rest =>
    ((runCalls step (step r c).1 rest).1, (step r c).2 :: (runCalls step (step r c).1 rest).2)

/-- Every kept answer is the one that the repositories give. -/
def Truthful (t : FileTree) (r : Resolver) : Prop :=
  ∀ a ∈ r.answers, a.2 = r.referenced? t a.1.2

section

variable {t : FileTree} {r : Resolver} {ns : Option String} {hint : String} {base : Option Url}

/-! ## One call -/

theorem Truthful.of_grown {start : Resolver} (hstart : start.Truthful t)
    (h : Grown t start r) : r.Truthful t := by
  intro a ha
  rw [h.referenced?]
  exact (h.answers a ha).elim (hstart a) id

theorem truthful_call (h : r.Truthful t) (c : Call) : (call t r c).1.Truthful t := by
  cases c with
  | register ns url => exact h.of_grown ((Grown.refl t r).register url)
  | resolve ns hints base => exact h.of_grown (steps_resolve (Grown.refl t r)).grown

theorem fromReference_eq_referenced? (h : r.Truthful t) :
    (r.fromReference t ns hint).2 = r.referenced? t hint := by
  rw [fromReference]
  dsimp only
  split
  · next a ha =>
    have hkey : a.1 = (ns.getD "", hint) := by simpa using List.find?_some ha
    rw [h a (List.mem_of_find?_eq_some ha), hkey]
  · rfl

/-- A text that is no reference is not asked for, and would not be answered. -/
theorem referenced?_eq_none (h : Repository.parseUri? hint = none) :
    r.referenced? t hint = none := by
  rw [Resolver.referenced?, h, Option.bind_none]

theorem resolveHint_eq_locate? (h : r.Truthful t) :
    (r.resolveHint t ns hint base).2.or (fallback? hint base) = r.locate? t ns base hint := by
  rw [resolveHint, locate?]
  cases hloaded : r.fromLoaded? ns hint with
  | some url => rfl
  | none =>
    cases hfile : localFile? t hint base with
    | some url => rfl
    | none =>
      dsimp only [Option.none_or]
      have hsearch : ∀ n, (r.fromReference t ns hint).1.search? t n hint = r.search? t n hint :=
        fun n => (steps_fromReference (Grown.refl t r)).grown.search? n
      cases hparse : Repository.parseUri? hint with
      | none =>
        rw [Option.isSome_none, referenced?_eq_none hparse]
        rfl
      | some item =>
        rw [Option.isSome_some, if_pos rfl, fromReference_eq_referenced? h, Option.or_assoc]
        simp only [hsearch]

/-- What was found so far is what is left of all locations up to here, each once. -/
theorem resolveHints_eq_eraseDups {start : Resolver} {hints : List String} (before : List Url)
    (hstart : start.Truthful t) (h : Grown t start r) (hloaded : r.loaded = start.loaded) :
    (resolveHints t ns base hints r before.eraseDups).2 =
      (before ++ hints.filterMap (start.locate? t ns base)).eraseDups := by
  induction hints generalizing r before with
  | nil => rw [resolveHints, List.filterMap_nil, List.append_nil]
  | cons hint rest ih =>
    have hstep : Steps t start r (r.resolveHint t ns hint base).1 _ _ := steps_resolveHint h
    have hnext := hstep.loaded.trans hloaded
    have hlocate : r.locate? t ns base hint = start.locate? t ns base hint := by
      simp only [locate?, fromLoaded?, hloaded, h.referenced?, h.search?]
    rw [resolveHints]
    dsimp only
    rw [resolveHint_eq_locate? (hstart.of_grown h), hlocate, List.filterMap_cons]
    cases start.locate? t ns base hint with
    | none => exact ih before hstep.grown hnext
    | some u =>
      dsimp only
      have hmore : (if before.eraseDups.contains u then before.eraseDups
          else before.eraseDups ++ [u]) = (before ++ [u]).eraseDups := by
        rw [List.eraseDups_append, List.removeAll]
        by_cases hu : u ∈ before <;> simp [hu, List.mem_eraseDups, List.eraseDups_cons]
      rw [hmore, ih _ hstep.grown hnext, List.append_assoc, List.singleton_append]

/-- Resolving with answers that the repositories would give again is resolving without
any. -/
theorem resolve_eq_locations (h : r.Truthful t) (hints : List String) :
    (r.resolve t ns hints base).2 = r.locations t ns hints base := by
  rw [resolve, locations, listed?]
  cases ns.bind fun n => r.catalog.bind fun c => c.locations? n with
  | some urls => rfl
  | none => exact resolveHints_eq_eraseDups [] h (Grown.refl t r) rfl

/-! ## Calls in turn -/

/-- Resolvers that differ in kept answers only. -/
structure SameSources (r p : Resolver) : Prop where
  catalog : r.catalog = p.catalog
  repositories : r.repositories = p.repositories
  loaded : r.loaded = p.loaded

theorem sameSources_resolve (r : Resolver) (hints : List String) :
    SameSources (r.resolve t ns hints base).1 r :=
  have hsteps := steps_resolve (Grown.refl t r)
  ⟨hsteps.grown.catalog, hsteps.grown.repositories, hsteps.loaded⟩

theorem SameSources.locations {p : Resolver} (h : SameSources r p) (hints : List String) :
    r.locations t ns hints base = p.locations t ns hints base := by
  have hlocate : r.locate? t ns base = p.locate? t ns base := by
    funext hint
    simp only [locate?, fromLoaded?, Resolver.referenced?, Resolver.search?, h.loaded,
      h.repositories]
  rw [Resolver.locations, Resolver.locations, listed?, listed?, h.catalog, hlocate]

theorem SameSources.call {p : Resolver} (h : SameSources r p) (hr : r.Truthful t) (c : Call) :
    SameSources (Resolver.call t r c).1 (plainCall t p c).1 ∧
      (Resolver.call t r c).2 = (plainCall t p c).2 := by
  cases c with
  | register ns url =>
    refine ⟨?_, rfl⟩
    simp only [Resolver.call, plainCall, Resolver.register, h.loaded]
    split
    · exact h
    · exact ⟨h.catalog, h.repositories, rfl⟩
  | resolve ns hints base =>
    have hafter : SameSources (r.resolve t ns hints base).1 r := sameSources_resolve r hints
    refine ⟨⟨hafter.catalog.trans h.catalog, hafter.repositories.trans h.repositories,
      hafter.loaded.trans h.loaded⟩, ?_⟩
    rw [Resolver.call, plainCall, resolve_eq_locations hr, h.locations]

theorem catalog_plainCalls (calls : List Call) :
    (runCalls (plainCall t) r calls).1.catalog = r.catalog := by
  induction calls generalizing r with
  | nil => rfl
  | cons c rest ih =>
    refine ih.trans ?_
    cases c with
    | register ns url =>
      rw [plainCall, Resolver.register]
      split <;> rfl
    | resolve ns hints base => rfl

theorem calls_eq_plainCalls {p : Resolver} (h : SameSources r p) (hr : r.Truthful t)
    (calls : List Call) :
    SameSources (runCalls (call t) r calls).1 (runCalls (plainCall t) p calls).1 ∧
      (runCalls (call t) r calls).1.Truthful t ∧
      (runCalls (call t) r calls).2 = (runCalls (plainCall t) p calls).2 := by
  induction calls generalizing r p with
  | nil => exact ⟨h, hr, rfl⟩
  | cons c rest ih =>
    obtain ⟨hsame, hanswer⟩ := h.call hr c
    obtain ⟨hsources, htruthful, hanswers⟩ := ih hsame (truthful_call hr c)
    refine ⟨hsources, htruthful, ?_⟩
    rw [runCalls, runCalls, hanswer, hanswers]

end

/-- Kept answers do not show. In every run of calls, whichever libraries are noted and
hints resolved in whichever order, each resolving returns what a resolver returns that
keeps no answers and has noted the same libraries. After every run, asking twice with
nothing in between gives the same locations, and each of them once unless the catalog
lists them. -/
theorem kept_answers_invisible (t : FileTree) (catalog : Option Catalog)
    (repositories : List Repository) (calls : List Call) :
    let start : Resolver := { catalog, repositories }
    let kept := runCalls (call t) start calls
    let plain := runCalls (plainCall t) start calls
    kept.2 = plain.2 ∧ kept.1.loaded = plain.1.loaded ∧
      ∀ ns hints base,
        (kept.1.resolve t ns hints base).2 = plain.1.locations t ns hints base ∧
        ((kept.1.resolve t ns hints base).1.resolve t ns hints base).2 =
          (kept.1.resolve t ns hints base).2 ∧
        (start.listed? ns = none → (kept.1.resolve t ns hints base).2.Nodup) := by
  intro start kept plain
  have hstart : start.Truthful t := fun a ha => absurd ha List.not_mem_nil
  obtain ⟨hsame, htruthful, hanswers⟩ :=
    calls_eq_plainCalls (p := start) ⟨rfl, rfl, rfl⟩ hstart calls
  refine ⟨hanswers, hsame.loaded, fun ns hints base => ?_⟩
  have hfirst : (kept.1.resolve t ns hints base).2 = kept.1.locations t ns hints base :=
    resolve_eq_locations htruthful hints
  refine ⟨hfirst.trans (hsame.locations hints), ?_, fun hlisted => ?_⟩
  · have hagain : ((kept.1.resolve t ns hints base).1.resolve t ns hints base).2 =
        (kept.1.resolve t ns hints base).1.locations t ns hints base :=
      resolve_eq_locations (truthful_call htruthful (.resolve ns hints base)) hints
    exact hagain.trans (((sameSources_resolve _ hints).locations hints).trans hfirst.symm)
  · have hcatalog : kept.1.listed? ns = none := by
      rw [listed?, hsame.catalog, catalog_plainCalls]
      exact hlisted
    rw [hfirst, Resolver.locations, hcatalog]
    exact nodup_eraseDups _

/-- A repository with one item. -/
def centralTree : FileTree :=
  { nodes :=
      [ ("/repo", .directory), ("/repo/travel", .directory),
        ("/repo/travel/Base.otm", .file ⟨#[]⟩) ] }

/-- An item is asked for, and one that is not there. -/
def centralHints : List String :=
  ["otm://central/travel/Base.otm", "otm://central/Lost.otm"]

/-- With an answer kept that there is an item and one that there is none, resolving
without a namespace and in the empty one gives the same locations, each once. -/
theorem centralTree_kept :
    let start : Resolver := { repositories := [⟨"central", "/repo"⟩] }
    let kept := runCalls (call centralTree) start [.resolve none centralHints none]
    kept.1.answers.map (fun a => a.2.isSome) = [false, true] ∧
      start.listed? (some "") = none ∧
      (kept.1.resolve centralTree (some "") centralHints none).2.length = 2 ∧
      (kept.1.resolve centralTree (some "") centralHints none).2.Nodup := by
  intro start kept
  obtain ⟨-, -, hafter⟩ := kept_answers_invisible centralTree none [⟨"central", "/repo"⟩]
    [.resolve none centralHints none]
  have hlisted : start.listed? (some "") = none := rfl
  exact ⟨by decide +kernel, hlisted, by decide +kernel, (hafter _ centralHints none).2.2 hlisted⟩

end Resolver

end TravelModel
