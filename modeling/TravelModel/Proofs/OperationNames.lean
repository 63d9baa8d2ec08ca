import TravelModel.Proofs.Binding
import TravelModel.Proofs.NativeNames

/-!
# TravelModel — names of messages

Messages are found by the names of service, operation and kind, put together. Their index is
filled service by service, and a name that comes again takes the place of the one before:
different services and operations can come to one name, and of them the last is found. The
findings on duplicates are those on the names of symbols and do not look at messages.

Main results:

* `lookupOperation_putOperations` — what entering some messages does to the index.
* `lookupOperation_buildSymbols` — the last message of a name is found.
* `mem_messagesIn` — which messages a namespace has.
* `operation_names_last_wins` — both for refreshed models, with what is reported.
* `clashRun_silent` — two messages of one name, of which one is lost without a finding.
-/

namespace TravelModel

namespace SymbolTable

theorem lookupOperation_putOperation (t : SymbolTable) (ns name ns' name' : String)
    (s : OperationSymbol) :
    (t.putOperation ns name s).lookupOperation ns' name' =
      if ns' = ns ∧ name' = name then some s else t.lookupOperation ns' name' :=
  Keyed.findPair?_insert ns name ns' name' s t.operations

end SymbolTable

namespace Model

/-! ## The index -/

/-- Enters the names of some messages in a namespace. -/
def putOperations (ns : String) (names : List (String × OperationSymbol)) (t : SymbolTable) :
    SymbolTable :=
  names.foldl (fun t x => t.putOperation ns x.1 x.2) t

/-- Of the messages of a name that are entered in a namespace, the last is found there. -/
theorem lookupOperation_putOperations (ns : String) (names : List (String × OperationSymbol))
    (t : SymbolTable) (ns' name : String) :
    (putOperations ns names t).lookupOperation ns' name =
      if ns' = ns then (Keyed.lastUnder? name names).or (t.lookupOperation ns' name)
      else t.lookupOperation ns' name := by
  induction names using List.reverseRecOn with
  | nil =>
    split
    · rfl
    · rfl
  | append_singleton names x ih =>
    rw [putOperations, List.foldl_concat, ← putOperations,
      SymbolTable.lookupOperation_putOperation, ih, Keyed.lastUnder?_concat]
    by_cases hns : ns' = ns
    · by_cases hname : name = x.1
      · simp [hns, hname]
      · simp [hns, hname]
    · simp [hns]

theorem hosts_putOperations (ns : String) (names : List (String × OperationSymbol))
    (t : SymbolTable) : (putOperations ns names t).hosts = t.hosts :=
  List.foldlRecOn names _ (motive := fun (t' : SymbolTable) => t'.hosts = t.hosts) rfl
    fun _ h _ _ => h

/-- Entering the messages of a service in several namespaces. -/
theorem lookupOperation_spaces (names : List (String × OperationSymbol)) (spaces : List String)
    (t : SymbolTable) (ns name : String) :
    (spaces.foldl (fun t ns => putOperations ns names t) t).lookupOperation ns name =
      if ns ∈ spaces then (Keyed.lastUnder? name names).or (t.lookupOperation ns name)
      else t.lookupOperation ns name := by
  induction spaces using List.reverseRecOn with
  | nil => rfl
  | append_singleton spaces own ih =>
    rw [List.foldl_concat, lookupOperation_putOperations, ih]
    by_cases hns : ns = own
    · -- a namespace that comes again gets the same messages
      simp only [hns, if_true, List.mem_append, List.mem_singleton, or_true]
      split
      · rw [← Option.or_assoc, Option.or_self]
      · rfl
    · simp only [hns, if_false, List.mem_append, List.mem_singleton, or_false]

theorem hosts_spaces (names : List (String × OperationSymbol)) (spaces : List String)
    (t : SymbolTable) :
    (spaces.foldl (fun t ns => putOperations ns names t) t).hosts = t.hosts :=
  List.foldlRecOn spaces _ (motive := fun (t' : SymbolTable) => t'.hosts = t.hosts) rfl
    fun t' h ns _ => (hosts_putOperations ns names t').trans h

/-- The messages of the services that are seen in a namespace, with their names, in the order
of services, operations and kinds. -/
def messagesIn (m : Model) (t : SymbolTable) (ns : String) : List (String × OperationSymbol) :=
  (m.entities.filter fun e => ns ∈ m.effectiveNamespaces t e.id).flatMap messageNames

theorem messagesIn_congr (m : Model) {t t' : SymbolTable} (h : t.hosts = t'.hosts) (ns : String) :
    m.messagesIn t ns = m.messagesIn t' ns := by
  rw [messagesIn, messagesIn]
  simp only [m.effectiveNamespaces_congr h]

/-- Of the messages of a name the last one is found. -/
theorem lookupOperation_indexOperations (m : Model) (t : SymbolTable) (ns name : String) :
    (m.indexOperations t).lookupOperation ns name =
      (Keyed.lastUnder? name (m.messagesIn t ns)).or (t.lookupOperation ns name) := by
  have hfold : ∀ es : List NamedEntity,
      let t' := es.foldl (fun t e => (m.effectiveNamespaces t e.id).foldl
        (fun t ns => putOperations ns (messageNames e) t) t) t
      t'.hosts = t.hosts ∧ t'.lookupOperation ns name =
        (Keyed.lastUnder? name ((es.filter fun e => ns ∈ m.effectiveNamespaces t e.id).flatMap
          messageNames)).or (t.lookupOperation ns name) := by
    intro es
    induction es using List.reverseRecOn with
    | nil => exact ⟨rfl, rfl⟩
    | append_singleton es e ih =>
      obtain ⟨hhosts, hlookup⟩ := ih
      rw [List.foldl_concat]
      -- the hosts stay, so the entity is seen where it was
      refine ⟨(hosts_spaces _ _ _).trans hhosts, ?_⟩
      rw [lookupOperation_spaces, hlookup, m.effectiveNamespaces_congr hhosts, List.filter_append,
        List.flatMap_append, Keyed.lastUnder?_append]
      by_cases hns : ns ∈ m.effectiveNamespaces t e.id
      · simp [hns, Option.or_assoc]
      · simp [hns, Keyed.lastUnder?]
  exact (hfold m.entities).2

/-- Messages are entered into a table that has none yet. -/
theorem lookupOperation_buildSymbols (m : Model) (ns name : String) :
    m.buildSymbols.1.lookupOperation ns name =
      Keyed.lastUnder? name (m.messagesIn m.buildSymbols.1 ns) := by
  -- prefixes, native names and merging leave the index as it is
  obtain ⟨prefixes, hprefixes, -⟩ := m.assignPrefixes_frame {}
  obtain ⟨symbols, ambiguous, hbuild⟩ := m.exists_buildSymbols
  rw [hprefixes] at hbuild
  let before : SymbolTable := { prefixes, hosts := m.chameleonHosts, symbols, ambiguous }
  obtain ⟨operations, hoperations⟩ := m.indexOperations_frame before
  have hhosts : m.buildSymbols.1.hosts = before.hosts := by rw [hbuild, hoperations]
  rw [m.messagesIn_congr hhosts, hbuild, lookupOperation_indexOperations]
  exact Option.or_none

/-! ## Messages of a namespace -/

/-- A message of an operation of a service that is seen in a namespace, with its name. -/
structure IsMessage (m : Model) (ns name : String) (s : OperationSymbol) : Prop where
  seen : ns ∈ m.effectiveNamespaces m.symbols s.service
  named : ∃ e body op, m.entity? s.service = some e ∧ e.body = .service body ∧
    body.operations[s.operation]? = some op ∧ s.message ∈ op.messages.map Prod.fst ∧
    name = e.name ++ "_" ++ op.name ++ "_" ++ s.message.suffix

theorem mem_messageNames {e : NamedEntity} {name : String} {s : OperationSymbol} :
    (name, s) ∈ messageNames e ↔
      s.service = e.id ∧ ∃ body op, e.body = .service body ∧
        body.operations[s.operation]? = some op ∧ s.message ∈ op.messages.map Prod.fst ∧
        name = e.name ++ "_" ++ op.name ++ "_" ++ s.message.suffix := by
  rw [messageNames]
  split
  · next service hbody =>
    -- the number of an operation is its position
    rw [List.mem_flatMap]
    constructor
    · rintro ⟨⟨op, i⟩, hop, hmem⟩
      obtain ⟨⟨k, content⟩, hk, heq⟩ := List.mem_map.mp hmem
      obtain ⟨rfl, rfl⟩ := Prod.mk.inj heq
      exact ⟨rfl, service, op, hbody, List.mk_mem_zipIdx_iff_getElem?.mp hop,
        List.mem_map_of_mem hk, rfl⟩
    · rintro ⟨hid, body, op, hbody', hop, hk, rfl⟩
      rw [hbody, EntityBody.service.injEq] at hbody'
      subst hbody'
      obtain ⟨⟨k, content⟩, hmem, hkind⟩ := List.mem_map.mp hk
      refine ⟨(op, s.operation), List.mk_mem_zipIdx_iff_getElem?.mpr hop, List.mem_map.mpr ?_⟩
      refine ⟨(k, content), hmem, Prod.ext ?_ ?_⟩
      · rw [← hkind]
        rfl
      · rw [← hid, show k = s.message from hkind]
  · next hnone =>
    refine ⟨fun h => absurd h List.not_mem_nil, ?_⟩
    rintro ⟨-, body, -, hbody, -⟩
    exact absurd hbody (hnone body)

theorem mem_messagesIn {m : Model} (hm : m.WellFormed) {ns name : String} {s : OperationSymbol} :
    (name, s) ∈ m.messagesIn m.symbols ns ↔ m.IsMessage ns name s := by
  rw [messagesIn, List.mem_flatMap]
  constructor
  · rintro ⟨e, he, hname⟩
    obtain ⟨hmem, hseen⟩ := List.mem_filter.mp he
    obtain ⟨hid, body, op, hname⟩ := mem_messageNames.mp hname
    refine ⟨hid ▸ of_decide_eq_true hseen, e, body, op, ?_, hname⟩
    rw [hid, hm.entity?_of_mem hmem]
  · rintro ⟨hseen, e, body, op, he, hname⟩
    have hid := hm.entity_id he
    refine ⟨e, List.mem_filter.mpr ⟨mem_entities.mpr ⟨_, he⟩, ?_⟩,
      mem_messageNames.mpr ⟨hid.symm, body, op, hname⟩⟩
    rw [hid]
    exact decide_eq_true hseen

/-! ## What is reported -/

/-- A finding on duplicates names a name of a namespace. -/
def DuplicateNamed (fs : Findings) (ns name : String) : Prop :=
  ∃ f ∈ fs, (f.code = .duplicateSymbol ∨ f.code = .duplicateChameleonSymbols) ∧
    f.args.take 2 = [name, ns]

theorem duplicateNamed_iff {fs : Findings} {ns name : String} :
    DuplicateNamed fs ns name ↔
      duplicateReports fs ns name ≠ [] ∨ collisionReports fs ns name ≠ [] := by
  simp only [DuplicateNamed, duplicateReports, collisionReports, Findings.withCode, ne_eq,
    List.filter_filter, List.filter_eq_nil_iff, not_forall, exists_prop, not_not,
    Bool.and_eq_true, decide_eq_true_eq, ← exists_or]
  refine exists_congr fun f => ?_
  tauto

/-- Of the findings of a refresh, those on duplicates come from building the table. -/
theorem withCode_refresh_of_duplicate (m : Model) {code : FindingCode}
    (h : code = .duplicateSymbol ∨ code = .duplicateChameleonSymbols) :
    m.refresh.2.withCode code = m.buildSymbols.2.withCode code := by
  -- references and structure are reported under other codes
  have hbind : .unresolvedReference ≠ code := by rcases h with rfl | rfl <;> decide
  have hcircular : .circularExtension ≠ code := by rcases h with rfl | rfl <;> decide
  have howner : .invalidFacetOwner ≠ code := by rcases h with rfl | rfl <;> decide
  rw [findings_refresh, withCode_append, withCode_append, withCode_bindings hbind,
    withCode_checkStructure_eq_nil hcircular howner, List.append_nil, List.append_nil]

/-- The name of a symbol is brought twice to a namespace: by libraries of the namespace, or by
a hosted library and another one, where a hosted library brings an entity first. -/
def SymbolsClash (m : Model) (ns name : String) : Prop :=
  2 ≤ (m.nativeNames.filter fun x => nativeKey x = (ns, name)).length ∨
    (m.symbols.isAmbiguous ns name = true ∧ m.HostedEntity ns name)

/-- A refresh names a name as a duplicate if and only if symbols of that name clash. -/
theorem duplicateNamed_refresh_iff {m : Model} (hm : m.WellFormed) (hr : m.refresh.1.InStep)
    (ns name : String) :
    DuplicateNamed m.refresh.2 ns name ↔ m.refresh.1.SymbolsClash ns name := by
  have hr' : m.refresh.1.WellFormed := wellFormed_refresh hm
  -- a refresh changes no declaration, so building again gives the same table and findings
  have hbuild : m.buildSymbols = m.refresh.1.buildSymbols :=
    (sameDeclarations_refresh hm).buildSymbols
  have hduplicates : duplicateReports m.refresh.2 ns name =
      duplicateReports m.refresh.1.buildSymbols.2 ns name := by
    rw [duplicateReports, withCode_refresh_of_duplicate m (Or.inl rfl), hbuild]
    rfl
  have hcollisions : collisionReports m.refresh.2 ns name =
      collisionReports m.refresh.1.buildSymbols.2 ns name := by
    rw [collisionReports, withCode_refresh_of_duplicate m (Or.inr rfl), hbuild]
    rfl
  rw [duplicateNamed_iff, hduplicates, hcollisions, SymbolsClash]
  refine or_congr ?_ ?_
  · rw [← List.length_pos_iff, length_duplicateReports hr' hr]
    omega
  · rw [collisionReports_buildSymbols hr', collisionFindings]
    simp only [← (built_refresh hm).isAmbiguous, ← isAmbiguous_refresh, Bool.and_eq_true,
      any_isEntity_iff]
    split
    · next h => simp [h]
    · next h => simp [h]

/-! ## Refreshed models -/

theorem lookupOperation_refresh {m : Model} (hm : m.WellFormed) (ns name : String) :
    m.refresh.1.symbols.lookupOperation ns name =
      Keyed.lastUnder? name (m.refresh.1.messagesIn m.refresh.1.symbols ns) := by
  obtain ⟨symbols, facets, htable, -⟩ := m.symbols_refresh
  have hoperations : m.refresh.1.symbols.lookupOperation ns name =
      m.buildSymbols.1.lookupOperation ns name := by
    rw [htable]
    rfl
  have hhosts : m.refresh.1.symbols.hosts = m.refresh.1.buildSymbols.1.hosts := by
    rw [htable, (sameDeclarations_refresh hm).buildSymbols]
  rw [hoperations, (sameDeclarations_refresh hm).buildSymbols, lookupOperation_buildSymbols,
    m.refresh.1.messagesIn_congr hhosts]

/-- What the index of a model answers if it gives the last of the messages listed: one of the
messages of the name, and the only one if there is no other. -/
theorem lookupOperation_answers {m : Model} (hm : m.WellFormed) {ns name : String}
    (h : m.symbols.lookupOperation ns name =
      Keyed.lastUnder? name (m.messagesIn m.symbols ns)) :
    (m.symbols.lookupOperation ns name = none ↔ ∀ s, ¬ m.IsMessage ns name s) ∧
      ∀ s, m.IsMessage ns name s → (∀ s', m.IsMessage ns name s' → s' = s) →
        m.symbols.lookupOperation ns name = some s := by
  rw [h]
  have hthere : ∀ s, m.IsMessage ns name s →
      ∃ s', Keyed.lastUnder? name (m.messagesIn m.symbols ns) = some s' ∧
        m.IsMessage ns name s' := by
    intro s hs
    obtain ⟨s', hs'⟩ := Keyed.exists_lastUnder? ((mem_messagesIn hm).mpr hs)
    exact ⟨s', hs', (mem_messagesIn hm).mp (Keyed.mem_of_lastUnder? hs')⟩
  refine ⟨⟨fun hnone s hs => ?_, fun hnone => ?_⟩, fun s hs hone => ?_⟩
  · obtain ⟨s', hs', -⟩ := hthere s hs
    rw [hnone] at hs'
    cases hs'
  · rw [Option.eq_none_iff_forall_ne_some]
    intro s hs
    exact hnone s ((mem_messagesIn hm).mp (Keyed.mem_of_lastUnder? hs))
  · obtain ⟨s', hs', hmessage⟩ := hthere s hs
    rw [hs', hone s' hmessage]

/-- Of the messages of one name the last is found. After a refresh the messages of the services
that are seen in a namespace are listed by service, operation and kind, and a name stands for
the last one that has it; so a message whose name no other one has is found as itself, and a
name that a message has is never without one. Two messages of one name are not reported as
such: a finding on duplicates names them if and only if symbols of that name clash. -/
theorem operation_names_last_wins (cs : List Change) (ns name : String) :
    let m := run (cs ++ [.refresh])
    let found := m.symbols.lookupOperation ns name
    found = Keyed.lastUnder? name (m.messagesIn m.symbols ns) ∧
    (∀ s, (name, s) ∈ m.messagesIn m.symbols ns ↔ m.IsMessage ns name s) ∧
    (found = none ↔ ∀ s, ¬ m.IsMessage ns name s) ∧
    (∀ s, m.IsMessage ns name s → (∀ s', m.IsMessage ns name s' → s' = s) → found = some s) ∧
    ∀ s s', m.IsMessage ns name s → m.IsMessage ns name s' → s ≠ s' →
      (DuplicateNamed (run cs).refresh.2 ns name ∨ found = none ↔ m.SymbolsClash ns name) := by
  intro m found
  have hm := wellFormed_run cs
  have hrun : m = (run cs).refresh.1 := run_append cs [.refresh]
  have hwell : m.WellFormed := wellFormed_run (cs ++ [.refresh])
  have hstep : m.InStep := inStep_run (cs ++ [.refresh])
  -- facts on a refresh are stated for the model before it, and carried over once
  have hfound := lookupOperation_refresh hm ns name
  have hnamed : m.InStep → (DuplicateNamed (run cs).refresh.2 ns name ↔ m.SymbolsClash ns name) := by
    rw [hrun]
    exact fun hstep => duplicateNamed_refresh_iff hm hstep ns name
  rw [← hrun] at hfound
  obtain ⟨hnone, hone⟩ := lookupOperation_answers hwell hfound
  refine ⟨hfound, fun s => mem_messagesIn hwell, hnone, hone, fun s s' hs _ _ => ?_⟩
  rw [hnamed hstep, hnone]
  exact or_iff_left fun h => h s hs

/-- The operations of two services come to one name. -/
def clashRun : List Change :=
  let operation (name : String) (response : Option FacetContent) : Operation :=
    { name, request := some default, response, notification := none }
  [.add (sampleLibrary "Orders" (some "urn:orders") [])
    [sampleMember "Order" (.service { operations := [operation "Item_Get" none] }),
      sampleMember "Order_Item" (.service { operations := [operation "Get" (some default)] })]]

/-- Only one service answers, and its message is found. -/
theorem clashRun_answer :
    let m := run (clashRun ++ [.refresh])
    m.IsMessage "urn:orders" "Order_Item_Get_RS" ⟨⟨1⟩, 0, .response⟩ ∧
      m.symbols.lookupOperation "urn:orders" "Order_Item_Get_RS" = some ⟨⟨1⟩, 0, .response⟩ := by
  intro m
  obtain ⟨-, hmem, -, hunique, -⟩ :=
    operation_names_last_wins clashRun "urn:orders" "Order_Item_Get_RS"
  have hone : ∀ x ∈ m.messagesIn m.symbols "urn:orders", x.1 = "Order_Item_Get_RS" →
      x.2 = ⟨⟨1⟩, 0, .response⟩ := by decide +kernel
  have hanswer : m.IsMessage "urn:orders" "Order_Item_Get_RS" ⟨⟨1⟩, 0, .response⟩ :=
    (hmem _).mp (by decide +kernel)
  exact ⟨hanswer, hunique _ hanswer fun s' hs' => hone _ ((hmem s').mpr hs') rfl⟩

/-- Both services have a request of the same name. That of the first one is not found, and
nothing is reported. -/
theorem clashRun_silent :
    let m := run (clashRun ++ [.refresh])
    (m.IsMessage "urn:orders" "Order_Item_Get_RQ" ⟨⟨0⟩, 0, .request⟩ ∧
      m.IsMessage "urn:orders" "Order_Item_Get_RQ" ⟨⟨1⟩, 0, .request⟩) ∧
    m.symbols.lookupOperation "urn:orders" "Order_Item_Get_RQ" = some ⟨⟨1⟩, 0, .request⟩ ∧
    (run clashRun).refresh.2 = [] := by
  intro m
  have hmem : ∀ s, ("Order_Item_Get_RQ", s) ∈ m.messagesIn m.symbols "urn:orders" →
      m.IsMessage "urn:orders" "Order_Item_Get_RQ" s := fun s =>
    (mem_messagesIn (wellFormed_run _)).mp
  exact ⟨⟨hmem _ (by decide +kernel), hmem _ (by decide +kernel)⟩, by decide +kernel,
    by decide +kernel⟩

end Model

end TravelModel
