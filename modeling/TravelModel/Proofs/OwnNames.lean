import TravelModel.Proofs.Needs

/-!
# TravelModel — the own names of a library without a namespace

A name without a prefix is looked up in the namespaces that host the library, then among
the primitive types, and at last among the members of the library, where only the names of
the members themselves count. A host in which the name is not ambiguous has the symbol of
the library. Without such a host a primitive type of the name comes before the members of
the library, and their aliases and fixed facets are not found at all.

Main results:

* `lookup_of_mem_hostsOf` — what a host has under a name of the library.
* `resolve_unprefixed` — where a name without a prefix is found.
* `own_names_bound_iff` — what an own name is bound to, when it is bound at all, and when to
  a symbol of the library.
* `purseRun_missed` — an alias that is not bound, and a type that is taken for another one.
-/

namespace TravelModel

theorem Reference.localName_of_unprefixed {r : Reference} (h : r.parts.1 = none) :
    r.localName = r.name := by
  rw [localName]
  rw [parts] at h ⊢
  split at h
  · cases h
  · rfl

/-- A library has a host in which a name is not ambiguous. -/
def SymbolTable.ClearHost (t : SymbolTable) (l : Library) (name : String) : Prop :=
  ∃ ns ∈ t.hostsOf l.id, t.isAmbiguous ns name = false

namespace Model

/-- A symbol that a member of a library has under a name. -/
def Owns (m : Model) (l : Library) (name : String) (s : Symbol) : Prop :=
  ∃ e ∈ m.libraryEntities l.id, (name, s) ∈ e.symbolNames

/-- A library has a member of a name. Aliases and facets do not count. -/
def HasMember (m : Model) (l : Library) (name : String) : Prop :=
  ∃ e ∈ m.libraryEntities l.id, e.name = name

/-- The first member of a library that has a name. -/
def namesake? (m : Model) (l : Library) (name : String) : Option Symbol :=
  ((m.libraryEntities l.id).find? fun e => e.name = name).map fun e => .entity e.id

instance (m : Model) (l : Library) (name : String) (s : Symbol) : Decidable (m.Owns l name s) :=
  inferInstanceAs (Decidable (∃ e ∈ m.libraryEntities l.id, _))

instance (m : Model) (l : Library) (name : String) : Decidable (m.HasMember l name) :=
  inferInstanceAs (Decidable (∃ e ∈ m.libraryEntities l.id, _))

theorem namesake?_eq_none_iff {m : Model} {l : Library} {name : String} :
    m.namesake? l name = none ↔ ¬ m.HasMember l name := by
  rw [namesake?, Option.map_eq_none_iff, List.find?_eq_none, HasMember]
  simp only [decide_eq_true_eq, not_exists, not_and]

theorem owns_of_namesake? {m : Model} {l : Library} {name : String} {s : Symbol}
    (h : m.namesake? l name = some s) : m.Owns l name s := by
  obtain ⟨e, hfind, rfl⟩ := Option.map_eq_some_iff.mp h
  have hname := List.find?_some hfind
  rw [decide_eq_true_eq] at hname
  refine ⟨e, List.mem_of_find?_eq_some hfind, ?_⟩
  rw [← hname]
  exact List.mem_cons_self

/-! ## In the hosts -/

section

variable {m : Model} {t : SymbolTable} {l : Library} {name : String} (hm : m.WellFormed)
  (ht : Built m t) (hl : l ∈ m.libraries) (hns : l.isChameleon = true) (hb : m.Brings l name)

include hm ht hl hns hb

/-- A host has under a name of the library the symbol of the library, unless the name is
ambiguous there. -/
theorem lookup_of_mem_hostsOf {ns : String} (hmem : ns ∈ t.hostsOf l.id)
    (hclear : t.isAmbiguous ns name = false) : t.lookup ns name = m.contributed? l name := by
  have hhosted : l ∈ m.hostedIn ns := by
    rw [hostsOf_eq hm ht.hosts hl hns] at hmem
    rw [hostedIn, List.mem_filter, hns, Bool.true_and, List.contains_iff_mem]
    exact ⟨hl, hmem⟩
  rw [ht.isAmbiguous, Bool.eq_false_iff, Ne, collides_iff hm] at hclear
  rw [ht.lookup]
  -- anybody else that brings the name would make it ambiguous
  refine merged_of_single hm hhosted hb (fun d hd hbd => ?_) fun k hk hbk => ?_
  · by_contra hne
    exact hclear ⟨l, hhosted, hb, Or.inl ⟨d, hd, hne, hbd⟩⟩
  · exact hclear ⟨l, hhosted, hb, Or.inr ⟨k, hk, hbk⟩⟩

/-- The hosts that have a name of the library all have the same symbol. -/
theorem findSome?_hostsOf (h : t.ClearHost l name) :
    ((t.hostsOf l.id).findSome? fun ns => t.lookup ns name) = m.contributed? l name := by
  obtain ⟨ns, hmem, hclear⟩ := h
  obtain ⟨s, hs⟩ := brings_iff.mp hb
  cases hfind : (t.hostsOf l.id).findSome? fun ns => t.lookup ns name with
  | none =>
    have hmiss := List.findSome?_eq_none_iff.mp hfind ns hmem
    rw [lookup_of_mem_hostsOf hm ht hl hns hb hmem hclear, hs] at hmiss
    cases hmiss
  | some s' =>
    -- the name is not ambiguous where it is found, so this host is as good as the other
    obtain ⟨ns', hmem', hlookup⟩ := List.exists_of_findSome?_eq_some hfind
    rw [← hlookup]
    exact lookup_of_mem_hostsOf hm ht hl hns hb hmem' (lookup_built_spec hm ht hlookup).2.2.2

end

section

variable {m : Model} {t : SymbolTable} {l : Library} {name : String} (hm : m.WellFormed)
  (ht : Built m t)

include ht

theorem findSome?_hostsOf_of_not_clear (h : ¬ t.ClearHost l name) :
    ((t.hostsOf l.id).findSome? fun ns => t.lookup ns name) = none := by
  refine List.findSome?_eq_none_iff.mpr fun ns hmem => ?_
  have hcollides : t.isAmbiguous ns name = true := by
    by_contra hclear
    exact h ⟨ns, hmem, Bool.eq_false_iff.mpr hclear⟩
  rw [ht.isAmbiguous] at hcollides
  rw [ht.lookup, merged_of_collides hcollides]

include hm

/-- A symbol of the library is found in no namespace at all if its name is ambiguous in
every host. -/
theorem not_owns_of_lookup (hl : l ∈ m.libraries) (hns : l.isChameleon = true)
    (h : ¬ t.ClearHost l name) {ns : String} {s : Symbol} (hlookup : t.lookup ns name = some s) :
    ¬ m.Owns l name s := by
  rintro ⟨e, he, hname⟩
  obtain ⟨hlive, hlibrary⟩ := hm.mem_libraryEntities_iff.mp he
  obtain ⟨-, hseen, -, hclear⟩ := lookup_built_spec hm ht hlookup
  have howner : m.owner? s.owner = some l := by
    rw [(localName?_of_symbolNames hlive hname).1, owner?, hlive, Option.bind_some, hlibrary]
    exact hm.library?_of_mem hl
  have hspace : l.ns = none := Option.isNone_iff_eq_none.mp hns
  -- a symbol is found where its owner is seen, here in the hosts of the library
  rw [effectiveNamespaces, howner] at hseen
  simp only [hspace] at hseen
  exact h ⟨ns, hseen, hclear⟩

end

/-! ## What is found for a name of the library -/

section

variable {m : Model} {t : SymbolTable} {l : Library} {id : EntityId} {r : Reference}
  (hl : m.owner? id = some l) (hns : l.isChameleon = true) (hr : r.parts.1 = none)

include hl hns hr

/-- The hosts come first, then the primitive types. -/
theorem found?_eq_or :
    m.found? t l id r = ((t.hostsOf l.id).findSome? fun ns => t.lookup ns r.name).or
      (t.lookup primitiveNamespace r.name) := by
  have hspace : l.ns = none := Option.isNone_iff_eq_none.mp hns
  rw [found?, candidates, hr, effectiveNamespaces, hl]
  simp only [hspace]
  rw [r.localName_of_unprefixed hr, List.findSome?_append, List.findSome?_singleton]

/-- A name without a prefix resolves to what the hosts have, or else to the primitive type of
the name, or else to the member of the name. -/
theorem resolve_unprefixed :
    m.resolve t l id r = (((t.hostsOf l.id).findSome? fun ns => t.lookup ns r.name).or
      (t.lookup primitiveNamespace r.name)).or (m.namesake? l r.name) := by
  rw [resolve_eq, found?_eq_or hl hns hr, if_pos hns, r.localName_of_unprefixed hr]
  rfl

end

/-- A member comes after what else is found, so the library's own symbol is found if nothing
else is. -/
theorem exists_owns_or_iff {m : Model} {l : Library} {name : String} {found : Option Symbol}
    (h : ∀ s, found = some s → ¬ m.Owns l name s) :
    (∃ s, found.or (m.namesake? l name) = some s ∧ m.Owns l name s) ↔
      found = none ∧ m.HasMember l name := by
  cases found with
  | some s =>
    constructor
    · rintro ⟨s', hs', howns⟩
      rw [← Option.some.inj hs'] at howns
      exact absurd howns (h s rfl)
    · rintro ⟨hnone, -⟩
      cases hnone
  | none =>
    rw [Option.none_or]
    cases hnamesake : m.namesake? l name with
    | none => simp [namesake?_eq_none_iff.mp hnamesake]
    | some s =>
      have hmember : m.HasMember l name := by
        by_contra hnone
        rw [namesake?_eq_none_iff.mpr hnone] at hnamesake
        cases hnamesake
      exact ⟨fun _ => ⟨rfl, hmember⟩, fun _ => ⟨s, rfl, owns_of_namesake? hnamesake⟩⟩

theorem clearHost_refresh (m : Model) (l : Library) (name : String) :
    m.refresh.1.symbols.ClearHost l name ↔ m.buildSymbols.1.ClearHost l name := by
  rw [SymbolTable.ClearHost, SymbolTable.ClearHost, SymbolTable.hostsOf, SymbolTable.hostsOf,
    hosts_refresh]
  simp only [isAmbiguous_refresh]

/-- A library without a namespace and its own names, along every run. Where a host has the
name without ambiguity, a reference is bound to the library's symbol. Otherwise it is bound to
the primitive type of the name, or else to the member of the name. So it is unbound if and only
if there is none of the three, and it is bound to a symbol of the library if and only if there
is such a host, or a member and no primitive type of the name. -/
theorem own_names_bound_iff (cs : List Change) :
    let m := run (cs ++ [.refresh])
    ∀ id e l, m.entity? id = some e → m.owner? id = some l → l.isChameleon = true →
      ∀ r ∈ refs e.body, r.parts.1 = none → m.Brings l r.name →
        (m.symbols.ClearHost l r.name → r.target = m.contributed? l r.name) ∧
        (¬ m.symbols.ClearHost l r.name →
          r.target = (m.plainLookup primitiveNamespace r.name).or (m.namesake? l r.name)) ∧
        (r.target = none ↔ ¬ m.symbols.ClearHost l r.name ∧
          m.plainLookup primitiveNamespace r.name = none ∧ ¬ m.HasMember l r.name) ∧
        ((∃ s, r.target = some s ∧ m.Owns l r.name s) ↔ m.symbols.ClearHost l r.name ∨
          m.plainLookup primitiveNamespace r.name = none ∧ m.HasMember l r.name) := by
  intro m id e l he hl hns r hr hprefix hb
  -- references were bound against the table without ghosts
  have hrun : m = (run cs).refresh.1 := run_append cs [.refresh]
  clear_value m
  subst hrun
  have hm₀ := wellFormed_run cs
  have hm := wellFormed_refresh hm₀
  have ht := built_refresh hm₀
  have hlibrary : l ∈ (run cs).refresh.1.libraries := by
    obtain ⟨e', -, hlibrary⟩ := Option.bind_eq_some_iff.mp hl
    exact mem_libraries.mpr ⟨_, hlibrary⟩
  obtain ⟨s, hs⟩ := brings_iff.mp hb
  rw [clearHost_refresh, plainLookup_refresh hm₀, target_refresh hm₀ he hl hr,
    resolve_unprefixed hl hns hprefix]
  by_cases hclear : (run cs).buildSymbols.1.ClearHost l r.name
  · rw [findSome?_hostsOf hm ht hlibrary hns hb hclear, hs, Option.some_or, Option.some_or]
    refine ⟨fun _ => rfl, absurd hclear, ⟨nofun, fun h => absurd hclear h.1⟩, ?_⟩
    exact ⟨fun _ => Or.inl hclear, fun _ => ⟨s, rfl, mem_of_contributed? hs⟩⟩
  · rw [findSome?_hostsOf_of_not_clear ht hclear, Option.none_or]
    refine ⟨fun h => absurd h hclear, fun _ => rfl, ?_, ?_⟩
    · rw [Option.or_eq_none_iff, namesake?_eq_none_iff]
      exact (and_iff_right hclear).symm
    · -- a primitive type of the name is not of the library
      rw [or_iff_right hclear]
      exact exists_owns_or_iff fun s' => not_owns_of_lookup hm ht hlibrary hns hclear

/-- A library without a namespace, and one that includes it or not. Both declare a type
`Code`, and the library a type with the name of a primitive one. -/
def purseRun (includes : List String) : List Change :=
  [.add (sampleLibrary "Primitives" (some primitiveNamespace) [])
      [sampleMember "string" (.simpleType {})],
    .add (sampleLibrary "Host" (some "urn:host") includes) [sampleMember "Code" (.simpleType {})],
    .add (sampleLibrary "Purse" none [])
      [sampleMember "Money" (.coreObject { (default : CoreObject) with aliases := ["Cash"] }),
        sampleMember "Wallet" (.simpleType { base := some (.unbound "Cash") }),
        sampleMember "Code" (.simpleType {}),
        sampleMember "Item" (.simpleType { base := some (.unbound "Code") }),
        sampleMember "string" (.simpleType {}),
        sampleMember "Word" (.simpleType { base := some (.unbound "string") })]]

def purse : Library :=
  { sampleLibrary "Purse" none [] with id := ⟨2⟩, members := [⟨2⟩, ⟨3⟩, ⟨4⟩, ⟨5⟩, ⟨6⟩, ⟨7⟩] }

/-- A type of the sample, once its base is known. -/
def purseType (id : EntityId) (name : String) (base : Reference) : NamedEntity :=
  { id, library := ⟨2⟩, name, documentation := none, body := .simpleType { base := some base } }

/-- In a host the reference to the alias is bound to the library's own symbol; the type `Code`
is ambiguous there, and the reference to it is bound to the member of the library. -/
theorem purseRun_hosted :
    let m := run (purseRun ["Purse.otm"] ++ [.refresh])
    m.symbols.hostsOf purse.id = ["urn:host"] ∧
      (m.entity? ⟨3⟩ = some (purseType ⟨3⟩ "Wallet" ⟨"Cash", some (.aliasOf ⟨2⟩ 0)⟩) ∧
        some (.aliasOf ⟨2⟩ 0) = m.contributed? purse "Cash") ∧
      m.symbols.isAmbiguous "urn:host" "Code" = true ∧
      m.entity? ⟨5⟩ = some (purseType ⟨5⟩ "Item" ⟨"Code", some (.entity ⟨4⟩)⟩) ∧
      m.Owns purse "Code" (.entity ⟨4⟩) := by
  intro m
  let wallet := purseType ⟨3⟩ "Wallet" ⟨"Cash", some (.aliasOf ⟨2⟩ 0)⟩
  let item := purseType ⟨5⟩ "Item" ⟨"Code", some (.entity ⟨4⟩)⟩
  -- one evaluation of the run for all facts about it
  obtain ⟨hwallet, hitem, howner, hhosts, hclear, hambiguous, hcash, hcode, hmember, hprimitive⟩ :
      m.entity? ⟨3⟩ = some wallet ∧ m.entity? ⟨5⟩ = some item ∧
        (m.owner? ⟨3⟩ = some purse ∧ m.owner? ⟨5⟩ = some purse) ∧
        m.symbols.hostsOf purse.id = ["urn:host"] ∧
        m.symbols.isAmbiguous "urn:host" "Cash" = false ∧
        m.symbols.isAmbiguous "urn:host" "Code" = true ∧
        m.Brings purse "Cash" ∧ m.Brings purse "Code" ∧ m.HasMember purse "Code" ∧
        m.plainLookup primitiveNamespace "Code" = none := by
    decide +kernel
  have hbound := own_names_bound_iff (purseRun ["Purse.otm"]) ⟨3⟩ wallet purse hwallet howner.1 rfl
    _ (List.mem_singleton.mpr rfl) (by decide +kernel) hcash
  refine ⟨hhosts, ⟨hwallet, hbound.1 ⟨"urn:host", ?_, hclear⟩⟩, hambiguous, hitem, ?_⟩
  · rw [hhosts]
    exact List.mem_singleton.mpr rfl
  · have hbound := own_names_bound_iff (purseRun ["Purse.otm"]) ⟨5⟩ item purse hitem howner.2 rfl
      _ (List.mem_singleton.mpr rfl) (by decide +kernel) hcode
    obtain ⟨s, hs, howns⟩ := hbound.2.2.2.mpr (Or.inr ⟨hprimitive, hmember⟩)
    rw [Option.some.inj hs]
    exact howns

/-- Without a host the alias is not bound, and the library's own type is taken for the
primitive one. -/
theorem purseRun_missed :
    let m := run (purseRun [] ++ [.refresh])
    (m.Brings purse "Cash" ∧ m.entity? ⟨3⟩ = some (purseType ⟨3⟩ "Wallet" ⟨"Cash", none⟩)) ∧
      m.Brings purse "string" ∧ ¬ m.Owns purse "string" (.entity ⟨0⟩) ∧
        m.entity? ⟨7⟩ = some (purseType ⟨7⟩ "Word" ⟨"string", some (.entity ⟨0⟩)⟩) := by
  decide +kernel

end Model

end TravelModel
