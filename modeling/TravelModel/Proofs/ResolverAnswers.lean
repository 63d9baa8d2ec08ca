import TravelModel.Project
import TravelModel.Proofs.Loading

/-!
# TravelModel — where a resolver can lead

A resolver answers from what is loaded, from its catalog and its repositories, from
files, and from the hints themselves. All but the first are settled before loading
starts: taking note of libraries and of answers changes no other answer.

Main results:

* `steps_fromReference`, `steps_resolveHint`, `steps_resolveHints` — what each source of
  answers adds to a resolver, and where its answers come from.
* `steps_resolve` — resolving leaves the catalog, the repositories and the loaded
  libraries of a resolver alone, and an answer is a loaded library or one of the
  candidates of the resolver that loading started with.
-/

namespace TravelModel

namespace Resolver

/-- What the repositories say on a reference. -/
def referenced? (r : Resolver) (t : FileTree) (uri : String) : Option Url :=
  (Repository.parseUri? uri).bind fun (id, path) =>
    (r.repositories.find? fun p => p.id = id).bind fun p => p.resolvePath? t path

/-- What the repositories have said on a reference before. -/
def recorded (r : Resolver) (ns : Option String) (uri : String) : List Url :=
  (r.answers.filter fun a => a.1 = (ns.getD "", uri)).filterMap Prod.snd

/-- The locations a hint can lead to, loaded libraries apart. -/
def hintCandidates (r : Resolver) (t : FileTree) (ns : Option String) (base : Option Url)
    (hint : String) : List Url :=
  (localFile? t hint base).toList ++ (r.referenced? t hint).toList ++ r.recorded ns hint ++
    (ns.bind fun n => r.search? t n hint).toList ++ (fallback? hint base).toList

/-- The locations a namespace with hints can lead to, loaded libraries apart. -/
def candidates (r : Resolver) (t : FileTree) (ns : Option String) (hints : List String)
    (base : Option Url) : List Url :=
  (ns.bind fun n => r.catalog.bind fun c => c.locations? n).getD [] ++
    hints.flatMap (r.hintCandidates t ns base)

/-- A resolver that has come of another: what is new is what its repositories say. -/
structure Grown (t : FileTree) (start r : Resolver) : Prop where
  catalog : r.catalog = start.catalog
  repositories : r.repositories = start.repositories
  answers : ∀ a ∈ r.answers, a ∈ start.answers ∨ a.2 = start.referenced? t a.1.2

section

variable {t : FileTree} {start r : Resolver} {ns : Option String} {hint : String}
  {base : Option Url}

theorem Grown.refl (t : FileTree) (r : Resolver) : Grown t r r :=
  ⟨rfl, rfl, fun _ ha => Or.inl ha⟩

theorem Grown.register (h : Grown t start r) (url : Url) : Grown t start (r.register ns url) := by
  rw [Resolver.register]
  split
  · exact h
  · exact ⟨h.catalog, h.repositories, h.answers⟩

theorem mem_loaded_register {url : Url} {x : Option String × Url} :
    x ∈ (r.register ns url).loaded ↔ x ∈ r.loaded ∨ x = (ns, url) := by
  rw [Resolver.register]
  split
  · next hmem =>
    rw [List.contains_iff_mem] at hmem
    exact ⟨Or.inl, fun h => h.elim id fun heq => heq ▸ hmem⟩
  · rw [List.mem_append, List.mem_singleton]

theorem Grown.referenced? (h : Grown t start r) (uri : String) :
    r.referenced? t uri = start.referenced? t uri := by
  rw [Resolver.referenced?, h.repositories, Resolver.referenced?]

theorem Grown.search? (h : Grown t start r) (n : String) :
    r.search? t n hint = start.search? t n hint := by
  rw [Resolver.search?, h.repositories, Resolver.search?]

/-- What a step of resolving keeps, and where its answer comes from. -/
structure Steps (t : FileTree) (start r next : Resolver) (found : List Url)
    (sources : List Url) : Prop where
  grown : Grown t start next
  loaded : next.loaded = r.loaded
  found : ∀ u ∈ found, (∃ x ∈ r.loaded, x.2 = u) ∨ u ∈ sources

theorem steps_fromReference (h : Grown t start r) :
    Steps t start r (r.fromReference t ns hint).1 (r.fromReference t ns hint).2.toList
      ((start.referenced? t hint).toList ++ start.recorded ns hint) := by
  rw [fromReference]
  dsimp only
  split
  · next a ha =>
    refine ⟨h, rfl, fun u hu => Or.inr ?_⟩
    have hkey : a.1 = (ns.getD "", hint) := by simpa using List.find?_some ha
    rw [Option.mem_toList] at hu
    rcases h.answers a (List.mem_of_find?_eq_some ha) with hold | hnew
    · refine List.mem_append_right _ (List.mem_filterMap.mpr ⟨a, ?_, hu⟩)
      exact List.mem_filter.mpr ⟨hold, decide_eq_true hkey⟩
    · refine List.mem_append_left _ (Option.mem_toList.mpr ?_)
      rw [hkey] at hnew
      exact hnew.symm.trans hu
  · have hanswer : r.referenced? t hint = start.referenced? t hint := h.referenced? hint
    rw [Resolver.referenced?] at hanswer
    refine ⟨⟨h.catalog, h.repositories, fun a ha => ?_⟩, rfl, fun u hu => Or.inr ?_⟩
    · rcases List.mem_cons.mp ha with rfl | ha
      · exact Or.inr hanswer
      · exact h.answers a ha
    · rw [hanswer] at hu
      exact List.mem_append_left _ hu

theorem steps_resolveHint (h : Grown t start r) :
    Steps t start r (r.resolveHint t ns hint base).1
      ((r.resolveHint t ns hint base).2.or (fallback? hint base)).toList
      (start.hintCandidates t ns base hint) := by
  rw [resolveHint]
  split
  · next url hurl =>
    refine ⟨h, rfl, fun u hu => ?_⟩
    rw [Option.mem_toList, Option.some_or, Option.some.injEq] at hu
    subst hu
    rcases Option.or_eq_some_iff.mp hurl with hloaded | ⟨-, hfile⟩
    · obtain ⟨x, hx, hsame⟩ := Option.map_eq_some_iff.mp hloaded
      exact Or.inl ⟨x, List.mem_of_find?_eq_some hx, hsame⟩
    · exact Or.inr (by simp [hintCandidates, hfile])
  · -- the repositories are asked for the reference first, and then for the file name
    have hreference : Steps t start r
        (if (Repository.parseUri? hint).isSome then r.fromReference t ns hint else (r, none)).1
        (if (Repository.parseUri? hint).isSome then r.fromReference t ns hint
          else (r, none)).2.toList
        ((start.referenced? t hint).toList ++ start.recorded ns hint) := by
      split
      · exact steps_fromReference h
      · exact ⟨h, rfl, fun u hu => absurd hu List.not_mem_nil⟩
    generalize (if (Repository.parseUri? hint).isSome then r.fromReference t ns hint
      else (r, none)) = asked at hreference
    obtain ⟨next, answer⟩ := asked
    refine ⟨hreference.grown, hreference.loaded, fun u hu => ?_⟩
    rw [Option.mem_toList, Option.or_eq_some_iff, Option.or_eq_some_iff] at hu
    rcases hu with (hfound | ⟨-, hsearch⟩) | ⟨-, hfallback⟩
    · refine (hreference.found u (Option.mem_toList.mpr hfound)).imp_right fun hmem => ?_
      rw [hintCandidates, List.append_assoc (localFile? t hint base).toList]
      exact List.mem_append_left _ (List.mem_append_left _ (List.mem_append_right _ hmem))
    · obtain ⟨n, hn, hsearch⟩ := Option.bind_eq_some_iff.mp hsearch
      rw [hreference.grown.search?] at hsearch
      exact Or.inr (by simp [hintCandidates, hn, hsearch])
    · exact Or.inr (by simp [hintCandidates, hfallback])

theorem steps_resolveHints {hints : List String} {found sources : List Url}
    (h : Grown t start r) (hfound : ∀ u ∈ found, (∃ x ∈ r.loaded, x.2 = u) ∨ u ∈ sources) :
    Steps t start r (resolveHints t ns base hints r found).1
      (resolveHints t ns base hints r found).2
      (sources ++ hints.flatMap (start.hintCandidates t ns base)) := by
  induction hints generalizing r found sources with
  | nil => exact ⟨h, rfl, fun u hu => (hfound u hu).imp_right (List.mem_append_left _)⟩
  | cons hint rest ih =>
    have hstep : Steps t start r (r.resolveHint t ns hint base).1
        ((r.resolveHint t ns hint base).2.or (fallback? hint base)).toList
        (start.hintCandidates t ns base hint) := steps_resolveHint h
    rw [resolveHints, List.flatMap_cons, ← List.append_assoc]
    dsimp only
    generalize r.resolveHint t ns hint base = asked at hstep
    have hkept : ∀ u ∈ found,
        (∃ x ∈ asked.1.loaded, x.2 = u) ∨ u ∈ sources ++ start.hintCandidates t ns base hint := by
      rw [hstep.loaded]
      exact fun u hu => (hfound u hu).imp_right (List.mem_append_left _)
    split
    · next u hu =>
      have hmore : ∀ v ∈ if found.contains u then found else found ++ [u],
          (∃ x ∈ asked.1.loaded, x.2 = v) ∨
            v ∈ sources ++ start.hintCandidates t ns base hint := by
        split
        · exact hkept
        · intro v hv
          rcases List.mem_append.mp hv with hv | hv
          · exact hkept v hv
          · rw [List.mem_singleton.mp hv, hstep.loaded]
            refine (hstep.found u ?_).imp_right (List.mem_append_right _)
            rw [hu]
            exact List.mem_singleton_self u
      have hnext := ih hstep.grown hmore
      exact ⟨hnext.grown, hnext.loaded.trans hstep.loaded, hstep.loaded ▸ hnext.found⟩
    · have hnext := ih hstep.grown hkept
      exact ⟨hnext.grown, hnext.loaded.trans hstep.loaded, hstep.loaded ▸ hnext.found⟩

/-- An answer is a loaded library, or a candidate of the resolver that the one at hand
has come of. -/
theorem steps_resolve {hints : List String} (h : Grown t start r) :
    Steps t start r (r.resolve t ns hints base).1 (r.resolve t ns hints base).2
      (start.candidates t ns hints base) := by
  rw [resolve, candidates, h.catalog]
  split
  · next urls hurls =>
    rw [hurls]
    exact ⟨h, rfl, fun u hu => Or.inr (List.mem_append_left _ hu)⟩
  · next hurls =>
    rw [hurls]
    exact steps_resolveHints h fun u hu => absurd hu List.not_mem_nil

end

end Resolver

end TravelModel
