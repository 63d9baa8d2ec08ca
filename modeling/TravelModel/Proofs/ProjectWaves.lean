import Mathlib.Data.Set.Finite.Basic
import TravelModel.Proofs.Lists
import TravelModel.Proofs.ResolverAnswers

/-!
# TravelModel — the waves of a project

Loading follows libraries outward from the roots, wave by wave, and asks a resolver
whose answers change with each library that is loaded. A location is tried in one wave
only, and a wave is followed by another only if one of its locations could be opened.
So loading ends where only finitely many of the locations within reach can be opened,
however many of those that cannot are named on the way.

Main results:

* `Progress.take` — what taking one loaded source keeps.
* `between_loadWave` — what loading a wave keeps.
* `exists_finishes` — loading ends, after one wave more than locations can be opened
  at most.
* `load_finishes` — what a project is made of.
-/

namespace TravelModel

namespace Project

/-- Locations that are new are what is left of them behind those that are known. -/
theorem eraseDups_append_fresh {known more : List Url} :
    (known ++ more).eraseDups = known.eraseDups ++ fresh known.eraseDups more := by
  rw [List.eraseDups_append, List.removeAll, eraseDups_filter, fresh]
  refine congrArg (known.eraseDups ++ ·) (List.filter_congr fun u _ => ?_)
  rw [Bool.eq_iff_iff]
  simp [List.mem_eraseDups]

end Project

/-! ## Libraries and their dependencies -/

/-- What a library names outside of itself: an import, with the files that may hold its
namespace, or the files that it includes, which hold its own. -/
inductive LibraryModule.DependsOn (m : LibraryModule) : Option String × List String → Prop
  | imported {i : ImportDecl} (h : i ∈ m.imports) : m.DependsOn (i.ns, i.fileHints)
  | included (h : m.includes ≠ []) : m.DependsOn (m.header.ns, m.includes)

theorem LibraryModule.mem_dependencies_iff {m : LibraryModule} {d : Option String × List String} :
    d ∈ m.dependencies ↔ m.DependsOn d := by
  rw [dependencies, List.mem_append, List.mem_map]
  constructor
  · rintro (⟨i, hi, rfl⟩ | hd)
    · exact .imported hi
    · rw [List.mem_ite_nil_left, List.isEmpty_iff, List.mem_singleton] at hd
      obtain ⟨hne, rfl⟩ := hd
      exact .included hne
  · rintro (⟨hi⟩ | ⟨hne⟩)
    · exact Or.inl ⟨_, hi, rfl⟩
    · refine Or.inr ?_
      rw [List.mem_ite_nil_left, List.isEmpty_iff, List.mem_singleton]
      exact ⟨hne, rfl⟩

/-- A library is loaded for the location it was opened at. -/
theorem Loader.url_of_load {l : Loader} {source : ModuleSource} {m : LibraryModule}
    (h : (l.load source).module = some m) : source.bytes.isSome ∧ m.url = source.url := by
  obtain ⟨document, g, -, hreads⟩ := Loader.module_load_eq_some_iff.mp h
  obtain ⟨frame, members, rfl⟩ := Grammar.exists_frame_of_read hreads.form
  obtain ⟨bytes, hbytes, -⟩ := Option.bind_eq_some_iff.mp hreads.json
  exact ⟨Option.isSome_iff_exists.mpr ⟨bytes, hbytes⟩, rfl⟩

namespace Project

/-- A location can be opened. -/
def CanOpen (t : FileTree) (u : Url) : Prop :=
  (openSource t u).bytes.isSome

/-- The library that is loaded from a location. -/
def loadedAt? (loader : Loader) (t : FileTree) (u : Url) : Option LibraryModule :=
  (loader.load (openSource t u)).module

/-- What is found on loading a location. -/
def findingsAt (loader : Loader) (t : FileTree) (u : Url) : Findings :=
  (loader.load (openSource t u)).findings

/-- A dependency of a library with the locations that it is resolved to. -/
structure Resolution where
  library : LibraryModule
  ns : Option String
  hints : List String
  found : List Url

/-- Resolves dependencies of a library in turn. -/
def resolveDependencies (t : FileTree) (m : LibraryModule) :
    List (Option String × List String) → Resolver → Resolver × List Resolution
  | [], r => (r, [])
  | (ns, hints) :: rest, r =>
    let answer := r.resolve t ns hints (some m.url)
    let others := resolveDependencies t m rest answer.1
    (others.1, ⟨m, ns, hints, answer.2⟩ :: others.2)

/-- Takes note of libraries and resolves what each depends on, in turn. -/
def resolutions (t : FileTree) : List LibraryModule → Resolver → Resolver × List Resolution
  | [], r => (r, [])
  | m :: rest, r =>
    let own := resolveDependencies t m m.dependencies (r.register m.header.ns m.url)
    let others := resolutions t rest own.1
    (others.1, own.2 ++ others.2)

section

variable {loader : Loader} {t : FileTree} {u : Url} {m : LibraryModule} {r : Resolver}

theorem canOpen_of_loadedAt? (h : loadedAt? loader t u = some m) : CanOpen t u ∧ m.url = u :=
  Loader.url_of_load h

theorem follow_eq (t : FileTree) (m : LibraryModule) (deps : List (Option String × List String))
    (r : Resolver) (found : List Url) :
    follow t m.url deps r found = ((resolveDependencies t m deps r).1,
      found ++ (resolveDependencies t m deps r).2.flatMap Resolution.found) := by
  induction deps generalizing r found with
  | nil => rw [follow, resolveDependencies, List.flatMap_nil, List.append_nil]
  | cons dep rest ih =>
    rw [follow, resolveDependencies]
    dsimp only
    rw [ih, List.flatMap_cons, List.append_assoc]

theorem resolutions_concat (ms : List LibraryModule) (m : LibraryModule) (r : Resolver) :
    resolutions t (ms ++ [m]) r =
      let before := resolutions t ms r
      let own := resolveDependencies t m m.dependencies (before.1.register m.header.ns m.url)
      (own.1, before.2 ++ own.2) := by
  induction ms generalizing r with
  | nil => simp [resolutions]
  | cons first rest ih =>
    rw [List.cons_append, resolutions, ih, resolutions]
    simp [List.append_assoc]

/-- Every import of every library is resolved, once, and after the imports of a library the
files that it includes, at once. -/
theorem asked_resolutions (ms : List LibraryModule) (r : Resolver) :
    ((resolutions t ms r).2.map fun x => (x.library, x.ns, x.hints)) =
      ms.flatMap fun m => (m.imports.map fun i => (m, i.ns, i.fileHints)) ++
        if m.includes = [] then [] else [(m, m.header.ns, m.includes)] := by
  have hown : ∀ (m : LibraryModule) deps r,
      ((resolveDependencies t m deps r).2.map fun x => (x.library, x.ns, x.hints)) =
        deps.map fun d => (m, d) := by
    intro m deps r
    induction deps generalizing r with
    | nil => rfl
    | cons dep rest ih =>
      rw [resolveDependencies, List.map_cons, List.map_cons, ih]
  have hnamed : ∀ m : LibraryModule, (m.dependencies.map fun d => (m, d)) =
      (m.imports.map fun i => (m, i.ns, i.fileHints)) ++
        if m.includes = [] then [] else [(m, m.header.ns, m.includes)] := by
    intro m
    rw [LibraryModule.dependencies, List.map_append, List.map_map]
    by_cases hempty : m.includes = []
    · simp [hempty]
    · simp [hempty]
  induction ms generalizing r with
  | nil => rfl
  | cons m rest ih =>
    rw [resolutions, List.flatMap_cons, List.map_append, hown, hnamed, ih]

end

/-! ## What loading has done so far -/

section

variable {loader : Loader} {start : Resolver} {t : FileTree} {roots done : List Url}
  {l : Loading} {u : Url}

/-- Some locations have been loaded: what is known is what they gave, in their order. -/
structure Progress (loader : Loader) (start : Resolver) (t : FileTree) (roots done : List Url)
    (l : Loading) : Prop where
  modules : l.modules = done.filterMap (loadedAt? loader t)
  findings : l.findings = done.flatMap (findingsAt loader t)
  resolver : l.resolver = (resolutions t l.modules start).1
  seen : l.seen =
    (roots ++ (resolutions t l.modules start).2.flatMap Resolution.found).eraseDups

theorem Progress.nodup (h : Progress loader start t roots done l) : l.seen.Nodup := by
  rw [h.seen]
  exact nodup_eraseDups _

/-- Without a library there is nothing to follow. -/
theorem take_of_none (h : loadedAt? loader t u = none) :
    take t l (loader.load (openSource t u)) =
      ({ l with findings := l.findings ++ findingsAt loader t u }, []) := by
  rw [take]
  dsimp only
  rw [show (loader.load (openSource t u)).module = none from h]
  rfl

/-- A library is noted, and what it depends on is followed. -/
theorem take_of_some {m : LibraryModule} (h : loadedAt? loader t u = some m) :
    take t l (loader.load (openSource t u)) =
      let own := resolveDependencies t m m.dependencies (l.resolver.register m.header.ns m.url)
      let next := fresh l.seen (own.2.flatMap Resolution.found)
      ({ l with
          findings := l.findings ++ findingsAt loader t u
          resolver := own.1
          modules := l.modules ++ [m]
          seen := l.seen ++ next }, next) := by
  rw [take]
  dsimp only
  rw [show (loader.load (openSource t u)).module = some m from h]
  dsimp only
  rw [follow_eq, List.nil_append]
  rfl

/-- Taking what came of one more location. -/
theorem Progress.take (h : Progress loader start t roots done l) (u : Url) :
    let next := Project.take t l (loader.load (openSource t u))
    Progress loader start t roots (done ++ [u]) next.1 ∧
      next.1.seen = l.seen ++ next.2 ∧ next.1.tried = l.tried := by
  intro next
  have hfindings : (done ++ [u]).flatMap (findingsAt loader t) =
      l.findings ++ findingsAt loader t u := by
    rw [List.flatMap_append, List.flatMap_singleton, h.findings]
  cases hloaded : loadedAt? loader t u with
  | none =>
    have hnext : next = _ := take_of_none hloaded
    have hmodules : (done ++ [u]).filterMap (loadedAt? loader t) = l.modules := by
      rw [List.filterMap_append, List.filterMap_cons_none hloaded, List.filterMap_nil,
        List.append_nil, h.modules]
    rw [hnext]
    exact ⟨⟨hmodules.symm, hfindings.symm, h.resolver, h.seen⟩, (List.append_nil _).symm, rfl⟩
  | some m =>
    have hnext : next = _ := take_of_some hloaded
    have hmodules : (done ++ [u]).filterMap (loadedAt? loader t) = l.modules ++ [m] := by
      rw [List.filterMap_append, List.filterMap_cons_some hloaded, List.filterMap_nil, h.modules]
    have hresolved := resolutions_concat (t := t) l.modules m start
    dsimp only at hresolved
    rw [← h.resolver] at hresolved
    rw [hnext]
    refine ⟨⟨hmodules.symm, hfindings.symm, ?_, ?_⟩, rfl, rfl⟩
    · dsimp only
      rw [hresolved]
    · -- what the library leads to stands behind all that was known
      dsimp only
      rw [hresolved, List.flatMap_append, ← List.append_assoc, eraseDups_append_fresh, ← h.seen]

/-- Takes what came of a location on top of what came before. -/
def takeAt (loader : Loader) (t : FileTree) (s : Loading × List Url) (u : Url) :
    Loading × List Url :=
  let next := take t s.1 (loader.load (openSource t u))
  (next.1, s.2 ++ next.2)

theorem loadWave_eq (loader : Loader) (t : FileTree) (l : Loading) (wave : List Url) :
    loadWave loader t l wave =
      wave.foldl (takeAt loader t) ({ l with tried := l.tried ++ wave }, []) := by
  rw [loadWave, List.foldl_map]
  rfl

/-- Taking what came of some more locations, one after the other. -/
theorem Progress.foldl_takeAt (wave : List Url) {s : Loading × List Url}
    (h : Progress loader start t roots done s.1) :
    let after := wave.foldl (takeAt loader t) s
    Progress loader start t roots (done ++ wave) after.1 ∧ after.1.tried = s.1.tried ∧
      ∃ more, after.2 = s.2 ++ more ∧ after.1.seen = s.1.seen ++ more := by
  induction wave generalizing s done with
  | nil =>
    intro after
    rw [List.append_nil]
    exact ⟨h, rfl, [], (List.append_nil _).symm, (List.append_nil _).symm⟩
  | cons u rest ih =>
    intro after
    obtain ⟨hnext, hseen, htried⟩ := h.take u
    obtain ⟨hafter, htried', more, hmore, hseen'⟩ := ih (s := takeAt loader t s u) hnext
    refine ⟨?_, htried'.trans htried,
      (Project.take t s.1 (loader.load (openSource t u))).2 ++ more, ?_, ?_⟩
    · rw [List.append_assoc, List.singleton_append] at hafter
      exact hafter
    · exact hmore.trans (List.append_assoc _ _ _)
    · rw [show after.1.seen = _ from hseen', ← List.append_assoc]
      exact congrArg (· ++ more) hseen

/-- Between two waves: all that is known was tried, or is in the next wave. -/
structure Between (loader : Loader) (start : Resolver) (t : FileTree) (roots : List Url)
    (l : Loading) (wave : List Url) : Prop extends Progress loader start t roots l.tried l where
  pending : l.seen = l.tried ++ wave

theorem between_start (loader : Loader) (start : Resolver) (t : FileTree) (roots : List Url) :
    Between loader start t roots { resolver := start, seen := roots.eraseDups }
      roots.eraseDups := by
  refine ⟨⟨rfl, rfl, rfl, ?_⟩, rfl⟩
  rw [resolutions, List.flatMap_nil, List.append_nil]

/-- Loading a wave. -/
theorem between_loadWave {wave : List Url} (h : Between loader start t roots l wave) :
    let next := loadWave loader t l wave
    Between loader start t roots next.1 next.2 ∧ next.1.tried = l.tried ++ wave := by
  intro next
  have hstart : Progress loader start t roots l.tried { l with tried := l.tried ++ wave } :=
    ⟨h.modules, h.findings, h.resolver, h.seen⟩
  obtain ⟨hnext, htried, more, hmore, hseen⟩ := Progress.foldl_takeAt wave (s := (_, [])) hstart
  rw [← loadWave_eq] at hnext htried hmore hseen
  dsimp only at htried hseen
  rw [List.nil_append] at hmore
  refine ⟨⟨htried ▸ hnext, ?_⟩, htried⟩
  rw [hseen, htried, hmore, h.pending]

/-! ## Locations within reach -/

/-- A location that loading may come to: a root, the location of a library that was
loaded before, or a candidate for a dependency of a library within reach. -/
inductive WithinReach (loader : Loader) (start : Resolver) (t : FileTree) (roots : List Url) :
    Url → Prop
  | root {u : Url} (h : u ∈ roots) : WithinReach loader start t roots u
  | before {x : Option String × Url} (h : x ∈ start.loaded) : WithinReach loader start t roots x.2
  | dependency {u v : Url} {m : LibraryModule} {d : Option String × List String}
    (hu : WithinReach loader start t roots u) (hm : loadedAt? loader t u = some m)
    (hd : m.DependsOn d) (hv : v ∈ start.candidates t d.1 d.2 (some m.url)) :
    WithinReach loader start t roots v

/-- A resolver has come of another, and all that it has loaded is within reach. -/
structure Abreast (loader : Loader) (start : Resolver) (t : FileTree) (roots : List Url)
    (r : Resolver) : Prop where
  grown : Resolver.Grown t start r
  loaded : ∀ x ∈ r.loaded, WithinReach loader start t roots x.2

theorem abreast_resolveDependencies {m : LibraryModule} (hu : WithinReach loader start t roots u)
    (hm : loadedAt? loader t u = some m) {deps : List (Option String × List String)}
    (hdeps : ∀ d ∈ deps, d ∈ m.dependencies) {r : Resolver}
    (h : Abreast loader start t roots r) :
    Abreast loader start t roots (resolveDependencies t m deps r).1 ∧
      ∀ x ∈ (resolveDependencies t m deps r).2, ∀ v ∈ x.found,
        WithinReach loader start t roots v := by
  induction deps generalizing r with
  | nil => exact ⟨h, fun x hx => absurd hx List.not_mem_nil⟩
  | cons d rest ih =>
    obtain ⟨ns, hints⟩ := d
    have hstep : Resolver.Steps t start r (r.resolve t ns hints (some m.url)).1
        (r.resolve t ns hints (some m.url)).2 (start.candidates t ns hints (some m.url)) :=
      Resolver.steps_resolve h.grown
    have hnext : Abreast loader start t roots (r.resolve t ns hints (some m.url)).1 :=
      ⟨hstep.grown, hstep.loaded ▸ h.loaded⟩
    obtain ⟨hafter, hfound⟩ := ih (fun d hd => hdeps d (List.mem_cons_of_mem _ hd)) hnext
    refine ⟨hafter, fun x hx v hv => ?_⟩
    rcases List.mem_cons.mp hx with rfl | hx
    · rcases hstep.found v hv with ⟨y, hy, rfl⟩ | hcandidate
      · exact h.loaded y hy
      · exact .dependency hu hm
          (LibraryModule.mem_dependencies_iff.mp (hdeps _ List.mem_cons_self)) hcandidate
    · exact hfound x hx v hv

/-- All that loading knows is within reach. -/
structure Reached (loader : Loader) (start : Resolver) (t : FileTree) (roots : List Url)
    (l : Loading) : Prop where
  resolver : Abreast loader start t roots l.resolver
  seen : ∀ u ∈ l.seen, WithinReach loader start t roots u

theorem reached_start (loader : Loader) (start : Resolver) (t : FileTree) (roots : List Url) :
    Reached loader start t roots { resolver := start, seen := roots.eraseDups } :=
  ⟨⟨Resolver.Grown.refl t start, fun _ hx => .before hx⟩,
    fun _ hu => .root (List.mem_eraseDups.mp hu)⟩

theorem Reached.take (h : Reached loader start t roots l)
    (hu : WithinReach loader start t roots u) :
    Reached loader start t roots (Project.take t l (loader.load (openSource t u))).1 := by
  cases hloaded : loadedAt? loader t u with
  | none =>
    rw [take_of_none hloaded]
    exact ⟨h.resolver, h.seen⟩
  | some m =>
    have hnoted : Abreast loader start t roots (l.resolver.register m.header.ns m.url) := by
      refine ⟨h.resolver.grown.register m.url, fun x hx => ?_⟩
      rcases Resolver.mem_loaded_register.mp hx with hx | rfl
      · exact h.resolver.loaded x hx
      · rw [(canOpen_of_loadedAt? hloaded).2]
        exact hu
    obtain ⟨hafter, hfound⟩ :=
      abreast_resolveDependencies hu hloaded (fun d hd => hd) hnoted
    rw [take_of_some hloaded]
    refine ⟨hafter, fun v hv => ?_⟩
    rcases List.mem_append.mp hv with hv | hv
    · exact h.seen v hv
    · obtain ⟨x, hx, hv⟩ :=
        List.mem_flatMap.mp (List.mem_eraseDups.mp (List.mem_filter.mp hv).1)
      exact hfound x hx v hv

theorem Reached.loadWave {wave : List Url} (h : Reached loader start t roots l)
    (hwave : ∀ u ∈ wave, WithinReach loader start t roots u) :
    Reached loader start t roots (Project.loadWave loader t l wave).1 := by
  have hfold : ∀ (us : List Url) (s : Loading × List Url),
      (∀ u ∈ us, WithinReach loader start t roots u) → Reached loader start t roots s.1 →
        Reached loader start t roots (us.foldl (takeAt loader t) s).1 := by
    intro us
    induction us with
    | nil => exact fun s _ hs => hs
    | cons u rest ih =>
      intro s hus hs
      exact ih (takeAt loader t s u) (fun v hv => hus v (List.mem_cons_of_mem _ hv))
        (hs.take (hus u List.mem_cons_self))
  rw [loadWave_eq]
  exact hfold wave _ hwave ⟨h.resolver, h.seen⟩

/-! ## Loading ends -/

/-- A wave that leads to another has a location with a library. -/
theorem exists_loadedAt?_of_loadWave {wave : List Url} (h : (loadWave loader t l wave).2 ≠ []) :
    ∃ u ∈ wave, ∃ m, loadedAt? loader t u = some m := by
  by_contra hnone
  have hfold : ∀ (us : List Url) (s : Loading × List Url),
      (∀ u ∈ us, loadedAt? loader t u = none) → (us.foldl (takeAt loader t) s).2 = s.2 := by
    intro us
    induction us with
    | nil => exact fun s _ => rfl
    | cons u rest ih =>
      intro s hus
      rw [List.foldl_cons, ih _ fun v hv => hus v (List.mem_cons_of_mem _ hv), takeAt]
      dsimp only
      rw [take_of_none (hus u List.mem_cons_self), List.append_nil]
  refine h ?_
  rw [loadWave_eq, hfold]
  intro u hu
  by_contra hloaded
  obtain ⟨m, hm⟩ := Option.ne_none_iff_exists'.mp hloaded
  exact hnone ⟨u, hu, m, hm⟩

/-- Loading ends after some waves: it comes to a state in which no wave is left. -/
inductive Finishes (loader : Loader) (t : FileTree) : Loading → List Url → Nat → Loading → Prop
  | done (l : Loading) : Finishes loader t l [] 0 l
  | wave {l last : Loading} {wave : List Url} {n : Nat} (hne : wave ≠ [])
    (h : Finishes loader t (loadWave loader t l wave).1 (loadWave loader t l wave).2 n last) :
    Finishes loader t l wave (n + 1) last

section

variable {wave : List Url} {n : Nat} {last : Loading}

/-- One turn of the loop; that there is a last one is not known here. -/
theorem loadWaves_eq (loader : Loader) (t : FileTree) (l : Loading) (wave : List Url) :
    loadWaves loader t l wave =
      if wave.isEmpty then l
      else loadWaves loader t (loadWave loader t l wave).1 (loadWave loader t l wave).2 := by
  rw [loadWaves, repeatM_eq_of_monadTail]
  cases wave with
  | nil => rfl
  | cons u rest => rfl

theorem Finishes.loadWaves (h : Finishes loader t l wave n last) :
    Project.loadWaves loader t l wave = last := by
  induction h with
  | done l =>
    rw [loadWaves_eq]
    rfl
  | wave hne _ ih =>
    rw [loadWaves_eq, if_neg (by rwa [List.isEmpty_iff])]
    exact ih

/-- What holds between waves holds at the end. -/
theorem Finishes.between (h : Finishes loader t l wave n last)
    (hbetween : Between loader start t roots l wave) : Between loader start t roots last [] := by
  induction h with
  | done l => exact hbetween
  | wave _ _ ih => exact ih (between_loadWave hbetween).1

/-- Each wave but the last opens a location that was not tried before. -/
theorem exists_finishes {openable : Finset Url}
    (hopen : ∀ u, WithinReach loader start t roots u → CanOpen t u → u ∈ openable)
    (h : Between loader start t roots l wave) (hreached : Reached loader start t roots l) :
    ∃ n last, n ≤ (openable.filter (· ∉ l.tried)).card + 1 ∧ Finishes loader t l wave n last := by
  induction hcard : (openable.filter (· ∉ l.tried)).card using Nat.strong_induction_on
    generalizing l wave with
  | _ k ih =>
    by_cases hwave : wave = []
    · subst hwave
      exact ⟨0, l, Nat.zero_le _, .done l⟩
    · have hpending : ∀ u ∈ wave, u ∈ l.seen := by
        intro u hu
        rw [h.pending]
        exact List.mem_append_right _ hu
      have hnext := between_loadWave h
      have hnextReached := hreached.loadWave fun u hu => hreached.seen u (hpending u hu)
      by_cases hmore : (loadWave loader t l wave).2 = []
      · refine ⟨1, (loadWave loader t l wave).1, Nat.succ_le_succ (Nat.zero_le _), .wave hwave ?_⟩
        rw [hmore]
        exact .done _
      · -- some location of this wave could be opened, and it is not tried again
        obtain ⟨u, hu, m, hm⟩ := exists_loadedAt?_of_loadWave hmore
        have hnodup := h.nodup
        rw [h.pending] at hnodup
        have hfresh : u ∉ l.tried := fun htried =>
          (List.nodup_append.mp hnodup).2.2 u htried u hu rfl
        have hmem : u ∈ openable.filter (· ∉ l.tried) :=
          Finset.mem_filter.mpr ⟨hopen u (hreached.seen u (hpending u hu))
            (canOpen_of_loadedAt? hm).1, hfresh⟩
        have hsub : openable.filter (· ∉ (loadWave loader t l wave).1.tried) ⊂
            openable.filter (· ∉ l.tried) := by
          rw [Finset.ssubset_iff_of_subset]
          · refine ⟨u, hmem, fun hu' => (Finset.mem_filter.mp hu').2 ?_⟩
            rw [hnext.2]
            exact List.mem_append_right _ hu
          · refine Finset.monotone_filter_right _ fun v _ hv htried => hv ?_
            rw [hnext.2]
            exact List.mem_append_left _ htried
        have hless := Finset.card_lt_card hsub
        rw [hcard] at hless
        obtain ⟨n, last, hn, hlast⟩ := ih _ hless hnext.1 hnextReached rfl
        exact ⟨n + 1, last, by omega, .wave hwave hlast⟩

end

end

/-- Loading ends, and tries each location once. Whatever the roots, the resolver and the
files, as long as only finitely many of the locations within reach can be opened: no
wave is left after one wave more than there are such locations. The locations that were
tried are the roots and all that the imports and includes of loaded libraries are resolved
to, each once and in the order in which they come up, where every import of a library and
then what it includes is resolved by the resolver as it then stands. The project is
assembled from the libraries that these locations give, in that order, and nothing that
was found on the way is left out. -/
theorem load_finishes (loader : Loader) (resolver : Resolver) (t : FileTree) (roots : List Url)
    (hfinite : {u | WithinReach loader resolver t roots u ∧ CanOpen t u}.Finite) :
    let p := load loader resolver t roots
    let modules := p.urls.filterMap (loadedAt? loader t)
    let asked := (resolutions t modules resolver).2
    (∃ n last, n ≤ hfinite.toFinset.card + 1 ∧
      Finishes loader t { resolver, seen := roots.eraseDups } roots.eraseDups n last ∧
      last.tried = p.urls ∧ last.modules = modules) ∧
    p.urls.Nodup ∧ (∀ u, u ∈ p.urls ↔ u ∈ roots ∨ ∃ x ∈ asked, u ∈ x.found) ∧
    p.urls = (roots ++ asked.flatMap Resolution.found).eraseDups ∧
    (asked.map fun x => (x.library, x.ns, x.hints)) =
      (modules.flatMap fun m => (m.imports.map fun i => (m, i.ns, i.fileHints)) ++
        if m.includes = [] then [] else [(m, m.header.ns, m.includes)]) ∧
    p.model = (Model.assemble modules Builtin.modules).1 ∧
    p.findings =
      p.urls.flatMap (findingsAt loader t) ++ (Model.assemble modules Builtin.modules).2 := by
  intro p modules asked
  have hopen : ∀ u, WithinReach loader resolver t roots u → CanOpen t u →
      u ∈ hfinite.toFinset := fun u hreach hcan => hfinite.mem_toFinset.mpr ⟨hreach, hcan⟩
  obtain ⟨n, last, hn, hlast⟩ := exists_finishes hopen (between_start loader resolver t roots)
    (reached_start loader resolver t roots)
  have hend := hlast.between (between_start loader resolver t roots)
  -- the project is made of the state in which no wave is left
  have hwaves := hlast.loadWaves
  have hurls : p.urls = last.tried := congrArg Loading.tried hwaves
  have hmodules : last.modules = modules := by
    rw [hend.modules, ← hurls]
  have hproject : p =
      { model := (Model.assemble last.modules Builtin.modules).1
        findings := last.findings ++ (Model.assemble last.modules Builtin.modules).2
        urls := last.tried } := by
    rw [← hwaves]
    rfl
  have horder : p.urls = (roots ++ asked.flatMap Resolution.found).eraseDups := by
    rw [hurls, ← List.append_nil last.tried, ← hend.pending, hend.seen, hmodules]
  refine ⟨⟨n, last, ?_, hlast, hurls.symm, hmodules⟩, ?_, ?_, horder, asked_resolutions _ _,
    ?_, ?_⟩
  · exact hn.trans (Nat.succ_le_succ (Finset.card_filter_le _ _))
  · rw [horder]
    exact nodup_eraseDups _
  · intro u
    rw [horder, List.mem_eraseDups, List.mem_append, List.mem_flatMap]
  · rw [hproject, hmodules]
  · rw [hproject, hmodules, hend.findings]

/-- A library that includes two others and one more. -/
def ringText : String :=
  "\x7b\"$grammar\":\"http://www.OpenTravel.org/ns/OTA2/LibraryModel_v01_06\"," ++
    "\"name\":\"A\",\"members\":[],\"includes\":[\"A.otm\",\"B.otm\",\"C.otm\"]\x7d"

/-- Two libraries that include themselves and each other, and one that is not there. -/
def ringTree : FileTree :=
  { nodes := [("/A.otm", .file ringText.toUTF8), ("/B.otm", .file ringText.toUTF8)] }

/-- The locations that the two libraries name. -/
def ringUrls : List Url :=
  ["A.otm", "B.otm", "C.otm"].map fun name => Url.ofComponents [name]

theorem mem_ringUrls_of_withinReach {u : Url}
    (h : WithinReach {} {} ringTree (ringUrls.take 1) u) : u ∈ ringUrls := by
  have hclosed : ∀ u ∈ ringUrls, (loadedAt? {} ringTree u).all (fun m =>
      m.dependencies.all fun d => (({} : Resolver).candidates ringTree d.1 d.2 (some m.url)).all
        ringUrls.contains) = true := by
    decide +kernel
  induction h with
  | root h => exact List.mem_of_mem_take h
  | before h => exact absurd h List.not_mem_nil
  | dependency _ hm hd hv ih =>
    have hall := hclosed _ ih
    rw [hm, Option.all_some, List.all_eq_true] at hall
    exact List.contains_iff_mem.mp (List.all_eq_true.mp
      (hall _ (LibraryModule.mem_dependencies_iff.mpr hd)) _ hv)

/-- Loading two libraries in a ring ends. What the root includes is tried: the root itself,
which is not tried again, the other library, and the one that is not there. -/
theorem ringTree_loaded :
    let roots := ringUrls.take 1
    let p := load {} {} ringTree roots
    {u | WithinReach {} {} ringTree roots u ∧ CanOpen ringTree u}.Finite ∧
      (∃ n last, Finishes {} ringTree { resolver := {}, seen := roots.eraseDups } roots.eraseDups
        n last ∧ last.tried = p.urls) ∧
      p.urls.Nodup ∧ ∀ u ∈ ringUrls, u ∈ p.urls := by
  intro roots p
  have hfinite : {u | WithinReach {} {} ringTree roots u ∧ CanOpen ringTree u}.Finite :=
    (List.finite_toSet ringUrls).subset fun u hu => mem_ringUrls_of_withinReach hu.1
  obtain ⟨⟨n, last, -, hlast, htried, -⟩, hnodup, hmem, horder, -⟩ :=
    load_finishes {} {} ringTree roots hfinite
  refine ⟨hfinite, ⟨n, last, hlast, htried⟩, hnodup, fun u hu => ?_⟩
  -- the root is the first location, so its library is the first that is asked
  obtain ⟨m, hm, hfound⟩ : ∃ m, loadedAt? {} ringTree (Url.ofComponents ["A.otm"]) = some m ∧
      ∀ u ∈ ringUrls, ∃ x ∈ (resolveDependencies ringTree m m.dependencies
        (({} : Resolver).register m.header.ns m.url)).2, u ∈ x.found := by
    have hsome : (loadedAt? {} ringTree (Url.ofComponents ["A.otm"])).any (fun m =>
        ringUrls.all fun u => (resolveDependencies ringTree m m.dependencies
          (({} : Resolver).register m.header.ns m.url)).2.any fun x =>
            x.found.contains u) = true := by
      decide +kernel
    obtain ⟨hloaded, hall⟩ := (Option.any_eq_true_iff_get ..).mp hsome
    refine ⟨_, (Option.some_get hloaded).symm, fun u hu => ?_⟩
    obtain ⟨x, hx, hux⟩ := List.any_eq_true.mp (List.all_eq_true.mp hall u hu)
    exact ⟨x, hx, List.contains_iff_mem.mp hux⟩
  obtain ⟨later, hfirst⟩ : ∃ later, p.urls = Url.ofComponents ["A.otm"] :: later := by
    rw [horder]
    exact ⟨_, List.eraseDups_cons⟩
  obtain ⟨x, hx, hux⟩ := hfound u hu
  refine (hmem u).mpr (Or.inr ⟨x, ?_, hux⟩)
  rw [hfirst, List.filterMap_cons_some hm, resolutions]
  exact List.mem_append_left _ hx

end Project

end TravelModel
