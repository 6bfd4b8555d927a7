import RegEngine.Shared.CanonicalPersistence.BatchPlan
import RegEngine.Shared.CtePersistence.Effects

/-
  Runs of the four writers: transactions of calls that commit
  or roll back, one tenant lock at a time. In a run whose
  calls are admissible every chain stays intact, and every
  call appends the chain rows of the events it accepted.

  Main declarations:
    * `Ledger.Call`
    * `Ledger.RunSound`
    * `Ledger.run_sound`
-/

--------
-- Calls, Transactions And Runs
--------

namespace RegEngine

open CtePersistence (CtePayload)

namespace Ledger

/-
  A call of one of the four writers, with its arguments, the
  clock and the generated ids. The canonical store writes the
  chain itself.
-/
inductive Call where
  | persistEvent
      (dualWrite meterUsage : Bool)
      (now : Datetime)
      (event : TraceabilityEvent)
  | persistEventsBatch
      (dualWrite meterUsage : Bool)
      (events : List TraceabilityEvent)
  | storeEvent
      (now : Datetime)
      (tenantId : Uuid)
      (source : String)
      (eventId : Uuid)
      (payload : CtePayload)
  | storeEventsBatch
      (now : Datetime)
      (tenantId : Uuid)
      (source : String)
      (events : List (Uuid × CtePayload))

/- What a call reports of one event. -/
structure CallResult where
  eventId : Uuid
  success : Bool
  idempotent : Bool
  deriving DecidableEq

/- A result that reports a new event on the ledger. -/
def CallResult.isNew (result : CallResult) : Bool :=
  result.success && !result.idempotent

/- The report of the canonical writers. -/
def ofCanonical (result : CanonicalStoreResult) : CallResult :=
  ⟨result.eventId, result.success, result.idempotent⟩

/- The report of the legacy writers. -/
def ofLegacy (result : CtePersistence.StoreResult) :
    CallResult :=
  ⟨result.eventId, result.success, result.idempotent⟩

namespace Call

/- What a call returns and leaves, unless it raises. -/
def run (rt : Runtime) (db : Db) :
    Call → Except StoreError (List CallResult × Db)
| .persistEvent dualWrite meterUsage now event =>
    (CanonicalEventStore.persistEvent
      ⟨dualWrite, false, meterUsage⟩ rt now event db).map
        (fun out => ([ofCanonical out.1], out.2))
| .persistEventsBatch dualWrite meterUsage events =>
    (CanonicalEventStore.persistEventsBatch
      ⟨dualWrite, false, meterUsage⟩ rt events db).map
        (fun out => (out.1.map ofCanonical, out.2))
| .storeEvent now tenantId source eventId payload =>
    (CtePersistence.storeEvent rt now tenantId source eventId
      payload db).map
        (fun out => ([ofLegacy out.1], out.2))
| .storeEventsBatch now tenantId source events =>
    (CtePersistence.storeEventsBatch rt now tenantId source
      events db).map
        (fun out => (out.1.map ofLegacy, out.2))

/- The accepted events that a call added to its own table. -/
def newEntries (db db' : Db) : Call → List (Uuid × String)
| .persistEvent _ _ _ _ | .persistEventsBatch _ _ _ =>
    canonicalEntries
      (db'.traceabilityEvents.drop db.traceabilityEvents.length)
| .storeEvent _ _ _ _ _ | .storeEventsBatch _ _ _ _ =>
    legacyEntries (db'.cteEvents.drop db.cteEvents.length)

end Call

/- A transaction: its calls, and whether it is committed. -/
structure Transaction where
  calls : List Call
  commits : Bool

/- A call that returned, with the tables around it. -/
structure Step where
  before : Db
  call : Call
  results : List CallResult
  after : Db

/- The calls of a transaction that return. -/
def callSteps (rt : Runtime) : Db → List Call → List Step
| _, [] => []
| db, call :: rest =>
    match call.run rt db with
    | .error _ => []
    | .ok (results, db') =>
        ⟨db, call, results, db'⟩ :: callSteps rt db' rest

/- The tables after the calls, unless one of them raises. -/
def runCalls (rt : Runtime) : Db → List Call → Option Db
| db, [] => some db
| db, call :: rest =>
    match call.run rt db with
    | .error _ => none
    | .ok (_, db') => runCalls rt db' rest

/- A call that raises, or a rollback, leaves the tables. -/
def Transaction.run
    (rt : Runtime)
    (db : Db)
    (transaction : Transaction) :
    Db :=
  if transaction.commits then
    (runCalls rt db transaction.calls).getD db
  else
    db

def run (rt : Runtime) (db : Db) (runs : List Transaction) : Db :=
  runs.foldl (Transaction.run rt) db

/- The calls of a run that return. -/
def runSteps (rt : Runtime) : Db → List Transaction → List Step
| _, [] => []
| db, transaction :: rest =>
    callSteps rt db transaction.calls ++
      runSteps rt (transaction.run rt db) rest

--------
-- Sound And Admissible Steps
--------

open CanonicalEventStore (ensurePrepared BatchAdmissible)

/-
  A step appends one chain row for each accepted event that it
  added, in order, and none besides; those events are the ones
  that it reports as new.
-/
structure Step.Sound (step : Step) : Prop where
  appended :
    ∃ added,
      step.after.hashChain = step.before.hashChain ++ added ∧
        added.map chainEntry =
          step.call.newEntries step.before step.after ∧
        added.map HashChainRow.cteEventId =
          (step.results.filter CallResult.isNew).map
            CallResult.eventId

/-
  A run is sound when its chains are intact in every state
  and each of its steps is sound.
-/
structure RunSound
    (rt : Runtime)
    (db : Db)
    (runs : List Transaction) : Prop where
  final : Intact rt.sha256Hex (run rt db runs)
  steps :
    ∀ step ∈ runSteps rt db runs,
      Intact rt.sha256Hex step.before ∧
        Intact rt.sha256Hex step.after ∧ step.Sound

/-
  The calls that keep the ledger. The canonical writers put
  rejected events on the chain and look up no empty key, so
  their events must avoid both; the legacy writers keep the
  ledger on every input.
-/
def Call.Admissible (rt : Runtime) (db : Db) : Call → Prop
| .persistEvent _ _ _ event =>
    ∀ prepared, ensurePrepared rt event = .ok prepared →
      CanonicalEventStore.Admissible db [] prepared
| .persistEventsBatch _ _ events =>
    ∀ prepared, events.mapM (ensurePrepared rt) = .ok prepared →
      BatchAdmissible db [] prepared
| .storeEvent _ _ _ _ _ | .storeEventsBatch _ _ _ _ => True

--------
-- The Legacy Calls
--------

open CtePersistence (CtePayload StoreResult chainStart applyPlan)

/-
  The rows that a call appended, as `Step.Sound` asks for
  them, with the tenant whose chain they go on.
-/
structure Recorded
    (rt : Runtime)
    (db db' : Db)
    (entries : List (Uuid × String))
    (reported : List Uuid) : Prop where
  appended :
    ∃ tenantId added,
      Appends rt.sha256Hex tenantId db db' added ∧
        added.map chainEntry = entries ∧
        added.map HashChainRow.cteEventId = reported

variable {rt : Runtime} {db db' : Db} {now : Datetime}

/- A call without new events records nothing. -/
theorem recorded_nil
    (db : Db)
    (tenantId : Uuid) :
    Recorded rt db db [] [] :=
  ⟨tenantId, [], appends_nil rfl, rfl, rfl⟩

/- The rows after an append, without those before. -/
theorem drop_length_append
    {α : Type}
    {before added after : List α}
    (hAfter : after = before ++ added) :
    after.drop before.length = added := by
  rw [hAfter, List.drop_left]

variable {results : List StoreResult} {tenantId : Uuid}
variable {source : String} {store : CanonicalEventStore}

/- A plan of the legacy store records its events. -/
theorem recorded_applyPlan
    {existing : CtePersistence.ExistingMap}
    {plan : CtePersistence.BatchPlan}
    (hPlan :
      plan.WellFormed rt.sha256Hex tenantId
        (chainStart db tenantId).1 (chainStart db tenantId).2
        existing)
    (hResults : results = plan.results)
    (hDb : db' = applyPlan db tenantId plan) :
    Recorded rt db db'
      (legacyEntries (db'.cteEvents.drop db.cteEvents.length))
      ((results.filter StoreResult.isNew).map
        StoreResult.eventId) := by
  have hEvents :
      db'.cteEvents = db.cteEvents ++ plan.eventRows := by
    rw [hDb]
    rfl
  have hChain :
      db'.hashChain = db.hashChain ++ plan.chainRows := by
    rw [hDb]
    rfl
  rw [drop_length_append hEvents, hResults]
  exact ⟨tenantId, plan.chainRows,
    ⟨hChain, hPlan.chainTenant, hPlan.linked⟩, hPlan.chained,
    hPlan.reported.symm⟩

/- The report of the legacy writers names the new events. -/
theorem filter_isNew_ofLegacy
    (results : List StoreResult) :
    ((results.map ofLegacy).filter CallResult.isNew).map
        CallResult.eventId =
      (results.filter StoreResult.isNew).map
        StoreResult.eventId := by
  rw [List.filter_map, List.map_map]
  rfl

/- `store_event` records its event. -/
theorem storeEvent_recorded
    {tenantId eventId : Uuid}
    {payload : CtePayload}
    {result : StoreResult}
    (hStore :
      CtePersistence.storeEvent rt now tenantId source eventId
          payload db =
        .ok (result, db')) :
    Recorded rt db db'
      (legacyEntries (db'.cteEvents.drop db.cteEvents.length))
      (([result].filter StoreResult.isNew).map
        StoreResult.eventId) := by
  rcases CtePersistence.storeEvent_cases hStore with
    ⟨p, -, ⟨existing, -, hResult, hDb⟩ | ⟨hFind, hNew⟩⟩
  · rw [hDb, hResult, List.drop_length]
    exact recorded_nil db tenantId
  · rcases CtePersistence.storeNewEvent_effect hFind hNew with
      ⟨quantity, sha256Hash, column, -, -, -, -, hResult, hDb⟩
    rw [hResult] at hDb
    -- The plan of one event, which nothing follows.
    refine recorded_applyPlan
      (CtePersistence.BatchPlan.WellFormed.addNew
        (rfl : CtePersistence.ExistingMap.find [] p.idempKey =
          none)
        (CtePersistence.BatchPlan.WellFormed.empty _ _ _ _
          [(p.idempKey, ⟨p.eventId, sha256Hash, ""⟩)]))
      ?_ hDb
    rw [hResult, CtePersistence.BatchPlan.addNew_results]
    rfl

/- `store_events_batch` records its events. -/
theorem storeEventsBatch_recorded
    {events : List (Uuid × CtePayload)}
    (hStore :
      CtePersistence.storeEventsBatch rt now tenantId source
          events db =
        .ok (results, db')) :
    Recorded rt db db'
      (legacyEntries (db'.cteEvents.drop db.cteEvents.length))
      ((results.filter StoreResult.isNew).map
        StoreResult.eventId) := by
  rcases CtePersistence.storeEventsBatch_cases hStore with
    ⟨prepared, plan, -, hPlan, -, hResults, hDb⟩
  exact recorded_applyPlan
    (CtePersistence.planBatch_wellFormed hPlan) hResults hDb

--------
-- The Canonical Calls
--------

open CtePersistence (chainStart)

open CanonicalEventStore (eventRow amend chainedAfter
  chainRowAfter planFor)

/- The report of the canonical writers names the new events. -/
theorem filter_isNew_ofCanonical
    (results : List CanonicalStoreResult) :
    ((results.map ofCanonical).filter CallResult.isNew).map
        CallResult.eventId =
      (results.filter CanonicalEventStore.isNew).map
        CanonicalStoreResult.eventId := by
  rw [List.filter_map, List.map_map]
  rfl

/- The entry of one accepted row. -/
theorem canonicalEntries_singleton
    {row : TraceabilityEventRow}
    (hStatus : row.status ≠ .rejected) :
    canonicalEntries [row] = [canonicalEntry row] := by
  simp [canonicalEntries, hStatus]

/- `persist_event` records an admissible event. -/
theorem persistEvent_recorded
    {event : TraceabilityEvent}
    {result : CanonicalStoreResult}
    (hSkip : store.skipChainWrite = false)
    (hAdm :
      ∀ prepared,
        CanonicalEventStore.ensurePrepared rt event =
            .ok prepared →
          CanonicalEventStore.Admissible db [] prepared)
    (hPersist :
      store.persistEvent rt now event db = .ok (result, db')) :
    Recorded rt db db'
      (canonicalEntries
        (db'.traceabilityEvents.drop
          db.traceabilityEvents.length))
      (([result].filter CanonicalEventStore.isNew).map
        CanonicalStoreResult.eventId) := by
  rcases CanonicalEventStore.persistEvent_cases hPersist with
    ⟨p, hPrepared,
      ⟨stored, -, hResult, hDb⟩ | ⟨hLookup, hNew⟩⟩
  · rw [hDb, hResult, List.drop_length]
    exact recorded_nil db event.tenantId
  · have hFree :=
      (hAdm p hPrepared).new (by
        intro key hKey hTaken
        unfold CanonicalEventStore.lookup at hLookup
        rw [hKey] at hLookup
        simp only [Option.map_eq_none_iff] at hLookup
        simp [CanonicalEventStore.KeyTaken, hLookup]
          at hTaken)
    rcases CanonicalEventStore.persistNewEvent_effect hSkip
        (CanonicalEventStore.conflict_eventRow hFree.2) hNew
        with ⟨hResult, hEvents, hChain⟩
    rw [List.map_append] at hEvents
    have hDrop :
        db'.traceabilityEvents.drop
            db.traceabilityEvents.length =
          [amend now p
            (eventRow
              (chainedAfter rt (chainStart db p.tenantId).1
                p))] := by
      rw [hEvents, ← List.length_map (amend now p),
        List.drop_left]
      rfl
    refine ⟨p.tenantId, [chainRowAfter rt
      (chainStart db p.tenantId).2 (chainStart db p.tenantId).1
      p], ⟨hChain, ?_, ⟨rfl, rfl, rfl, trivial⟩⟩, ?_, ?_⟩
    · intro row hRow
      rw [List.mem_singleton.mp hRow]
      rfl
    · have hStatus :
          (amend now p
            (eventRow
              (chainedAfter rt (chainStart db p.tenantId).1
                p))).status ≠ .rejected := by
        rw [ne_eq, CanonicalEventStore.amend_status_eq_rejected]
        exact hFree.1
      rw [hDrop, canonicalEntries_singleton hStatus,
        canonicalEntry, CanonicalEventStore.amend_eventId,
        CanonicalEventStore.amend_sha256Hash]
      rfl
    · rw [hResult]
      rfl

/- `persist_events_batch` records admissible events. -/
theorem persistEventsBatch_recorded
    {events : List TraceabilityEvent}
    {results : List CanonicalStoreResult}
    (hAdm :
      ∀ prepared,
        events.mapM (CanonicalEventStore.ensurePrepared rt) =
            .ok prepared →
          CanonicalEventStore.BatchAdmissible db [] prepared)
    (hPersist :
      store.persistEventsBatch rt events db =
        .ok (results, db')) :
    Recorded rt db db'
      (canonicalEntries
        (db'.traceabilityEvents.drop
          db.traceabilityEvents.length))
      ((results.filter CanonicalEventStore.isNew).map
        CanonicalStoreResult.eventId) := by
  rcases CanonicalEventStore.persistEventsBatch_cases hPersist
      with ⟨-, hResults, hDb⟩ |
        ⟨tenantId, prepared, hTenant, hPrepared, hBatch⟩
  · rw [hDb, hResults, List.drop_length]
    exact recorded_nil db
      (default : TraceabilityEvent).tenantId
  · have hTenants :=
      CanonicalEventStore.mapM_ensurePrepared_tenantId hTenant
        hPrepared
    have hPlan :
        (planFor rt db tenantId prepared).WellFormed
          rt.sha256Hex db tenantId []
          (chainStart db tenantId).1
          (chainStart db tenantId).2 :=
      CanonicalEventStore.planFor_wellFormed hTenants
        (hAdm prepared hPrepared)
    rcases CanonicalEventStore.persistPrepared_effect hTenants
        (hAdm prepared hPrepared) hBatch with
      ⟨hResults, hEvents, hChain⟩
    refine ⟨tenantId, _,
      ⟨hChain, hPlan.chainTenant, hPlan.linked⟩, ?_, ?_⟩
    · rw [drop_length_append hEvents, canonicalEntries,
        List.filter_eq_self.mpr ?_, List.map_map]
      · exact hPlan.chained
      · intro row hRow
        rcases List.mem_map.mp hRow with ⟨event, hEvent, hEq⟩
        rw [← hEq, bne_iff_ne]
        exact hPlan.accepted event hEvent
    · rw [hResults]
      exact hPlan.reported.symm

--------
-- Runs
--------

/- An admissible call records its events. -/
theorem Call.recorded_of_admissible
    {call : Call}
    {results : List CallResult}
    (hAdm : call.Admissible rt db)
    (hRun : call.run rt db = .ok (results, db')) :
    Recorded rt db db' (call.newEntries db db')
      ((results.filter CallResult.isNew).map
        CallResult.eventId) := by
  cases call with
  | persistEvent dualWrite meterUsage now event =>
      rcases Outcome.map_eq_ok.mp hRun with
        ⟨⟨result, out⟩, hCall, hOut⟩
      simp only [Prod.mk.injEq] at hOut
      rw [← hOut.1, ← hOut.2]
      exact filter_isNew_ofCanonical [result] ▸
        persistEvent_recorded rfl hAdm hCall
  | persistEventsBatch dualWrite meterUsage events =>
      rcases Outcome.map_eq_ok.mp hRun with
        ⟨⟨list, out⟩, hCall, hOut⟩
      simp only [Prod.mk.injEq] at hOut
      rw [← hOut.1, ← hOut.2, filter_isNew_ofCanonical]
      exact persistEventsBatch_recorded hAdm hCall
  | storeEvent now tenantId source eventId payload =>
      rcases Outcome.map_eq_ok.mp hRun with
        ⟨⟨result, out⟩, hCall, hOut⟩
      simp only [Prod.mk.injEq] at hOut
      rw [← hOut.1, ← hOut.2]
      exact filter_isNew_ofLegacy [result] ▸
        storeEvent_recorded hCall
  | storeEventsBatch now tenantId source events =>
      rcases Outcome.map_eq_ok.mp hRun with
        ⟨⟨list, out⟩, hCall, hOut⟩
      simp only [Prod.mk.injEq] at hOut
      rw [← hOut.1, ← hOut.2, filter_isNew_ofLegacy]
      exact storeEventsBatch_recorded hCall

/- An admissible call keeps the chains and is sound. -/
theorem Call.sound_of_admissible
    {call : Call}
    {results : List CallResult}
    (hIntact : Intact rt.sha256Hex db)
    (hAdm : call.Admissible rt db)
    (hRun : call.run rt db = .ok (results, db')) :
    Intact rt.sha256Hex db' ∧
      Step.Sound ⟨db, call, results, db'⟩ := by
  rcases (Call.recorded_of_admissible hAdm hRun).appended with
    ⟨tenantId, added, hAppends, hEntries, hReported⟩
  exact ⟨hAppends.intact hIntact,
    ⟨added, hAppends.table, hEntries, hReported⟩⟩

/- What the calls of a transaction keep. -/
theorem callSteps_sound
    {calls : List Call}
    {db : Db}
    (hIntact : Intact rt.sha256Hex db)
    (hAdm :
      ∀ step ∈ callSteps rt db calls,
        step.call.Admissible rt step.before) :
    (∀ step ∈ callSteps rt db calls,
        Intact rt.sha256Hex step.before ∧
          Intact rt.sha256Hex step.after ∧ step.Sound) ∧
      ∀ db', runCalls rt db calls = some db' →
        Intact rt.sha256Hex db' := by
  induction calls generalizing db with
  | nil =>
      refine ⟨by simp [callSteps], ?_⟩
      intro db' hRun
      simp only [runCalls, Option.some.injEq] at hRun
      exact hRun ▸ hIntact
  | cons call rest ih =>
      cases hCall : call.run rt db with
      | error raised => simp [callSteps, runCalls, hCall]
      | ok out =>
          rcases out with ⟨results, next⟩
          simp only [callSteps, runCalls, hCall] at hAdm ⊢
          have hStep :=
            Call.sound_of_admissible hIntact
              (hAdm _ List.mem_cons_self) hCall
          have hRest :=
            ih hStep.1 (fun step hMem =>
              hAdm step (List.mem_cons_of_mem _ hMem))
          refine ⟨?_, hRest.2⟩
          intro step hMem
          rcases List.mem_cons.mp hMem with hFirst | hLater
          · rw [hFirst]
            exact ⟨hIntact, hStep.1, hStep.2⟩
          · exact hRest.1 step hLater

/- A transaction of admissible calls keeps the chains. -/
theorem Transaction.intact
    {db : Db}
    {transaction : Transaction}
    (hIntact : Intact rt.sha256Hex db)
    (hAdm :
      ∀ step ∈ callSteps rt db transaction.calls,
        step.call.Admissible rt step.before) :
    Intact rt.sha256Hex (transaction.run rt db) := by
  unfold Transaction.run
  split
  · cases hRun : runCalls rt db transaction.calls with
    | none => exact hIntact
    | some db' =>
        exact (callSteps_sound hIntact hAdm).2 db' hRun
  · exact hIntact

/-
  In every run from intact chains whose calls are admissible,
  the chains are intact in every state, and every call appends
  exactly the chain rows of the events it accepted.
-/
theorem run_sound
    (rt : Runtime)
    (db : Db)
    (runs : List Transaction)
    (hIntact : Intact rt.sha256Hex db)
    (hAdm :
      ∀ step ∈ runSteps rt db runs,
        step.call.Admissible rt step.before) :
    RunSound rt db runs := by
  induction runs generalizing db with
  | nil => exact ⟨hIntact, by simp [runSteps]⟩
  | cons transaction rest ih =>
      have hFirst :
          ∀ step ∈ callSteps rt db transaction.calls,
            step.call.Admissible rt step.before :=
        fun step hMem =>
          hAdm step (List.mem_append_left _ hMem)
      have hRest :=
        ih (transaction.run rt db)
          (Transaction.intact hIntact hFirst)
          (fun step hMem =>
            hAdm step (List.mem_append_right _ hMem))
      refine ⟨hRest.final, ?_⟩
      intro step hMem
      rcases List.mem_append.mp hMem with hCalls | hLater
      · exact (callSteps_sound hIntact hFirst).1 step hCalls
      · exact hRest.steps step hLater

/- The digests of one harvest, its key and its chain row. -/
def harvestDigests : List (String × String) :=
  [("00000000-0000-0000-0000-000000000001|harvesting|LOT-1||1.0|cases|||2026-01-01T00:00:00+00:00|\x7b\x7d",
      "35034614427375864f62cff449cba114d83dc4b50d3c092f51e6f1eac1d74622"),
    ("\x7b\"event_type\":\"harvesting\",\"from_facility\":\"\",\"kdes\":\x7b\x7d,\"source\":\"webhook_api\",\"timestamp\":\"2026-01-01T00:00:00+00:00\",\"tlc\":\"LOT-1\",\"to_facility\":\"\"\x7d",
      "5d7dd8f6213600eb10dd59c1aca7e54d29595ec9260b7f86fc1ae17ee509c7e1"),
    ("GENESIS|35034614427375864f62cff449cba114d83dc4b50d3c092f51e6f1eac1d74622",
      "9acc95253e23cf307674e7dfc5545b12e06348538187bc14572bba49e51d4545")]

/- A harvest stored in one transaction. -/
def harvestRun : List Transaction :=
  [⟨[.persistEvent true true
      ⟨⟨2026, 1, 2⟩, 0, 0, Datetime.isValid_second⟩
      default], true⟩]

theorem run_sound_harvestRun :
    RunSound (Runtime.ofDigests harvestDigests) Db.empty
        harvestRun ∧
      (run (Runtime.ofDigests harvestDigests) Db.empty
        harvestRun).hashChain.length = 1 := by
  have hPrepared :
      (CanonicalEventStore.ensurePrepared
          (Runtime.ofDigests harvestDigests)
          default).toOption.map (fun event =>
            (event.status, event.idempotencyKey == some "")) =
        some (.active, false) := by
    decide +kernel
  refine ⟨run_sound (Runtime.ofDigests harvestDigests) Db.empty
    harvestRun (intact_of_nil rfl) ?_, by decide +kernel⟩
  intro step hMem
  simp only [harvestRun, runSteps, callSteps] at hMem
  split at hMem
  · simp at hMem
  · simp only [List.append_nil, List.mem_singleton] at hMem
    rw [hMem]
    intro p hEnsure
    rw [hEnsure] at hPrepared
    simp [Except.toOption] at hPrepared
    exact ⟨by simp [hPrepared.1], by simp [hPrepared.2]⟩

/- Three harvests with digests given: two have an empty key. -/
def emptyKeyEvent
    (eventId : Uuid)
    (sha256Hash idempotencyKey : String) :
    TraceabilityEvent :=
  { (default : TraceabilityEvent) with
    eventId := eventId
    sha256Hash := some sha256Hash
    idempotencyKey := some idempotencyKey }

/- The links that the run of the three harvests computes. -/
def emptyKeyDigests : List (String × String) :=
  [("GENESIS|35034614427375864f62cff449cba114d83dc4b50d3c092f51e6f1eac1d74622",
      "9acc95253e23cf307674e7dfc5545b12e06348538187bc14572bba49e51d4545"),
    ("9acc95253e23cf307674e7dfc5545b12e06348538187bc14572bba49e51d4545|92efad725f08330a1acab53ee72eaab37385b3eb6cc89beb75c31f0fa65b8656",
      "af535277b3164d157d3b1c99a62bb9c4944e2c30da8ffd349ffb71bd362b8709"),
    ("af535277b3164d157d3b1c99a62bb9c4944e2c30da8ffd349ffb71bd362b8709|a763dbdadccc2b3fd7ebb0bb3379e8ae3973e65a2c9d165ffdf5cb4ea15cb452",
      "67a5b05215ce3382d44cefb2710e7fd3faef375531d6e6c04e1fb3dbbdaf10f7")]

/-
  The second harvest is dropped by the database when the batch
  is written, and the third keeps the place after it.
-/
def emptyKeyRun : List Transaction :=
  [⟨[.persistEvent true true
      ⟨⟨2026, 1, 2⟩, 0, 0, Datetime.isValid_second⟩
      (emptyKeyEvent (default : TraceabilityEvent).eventId
        "35034614427375864f62cff449cba114d83dc4b50d3c092f51e6f1eac1d74622"
        "")], true⟩,
    ⟨[.persistEventsBatch true true
      [emptyKeyEvent
          ⟨"00000000-0000-0000-0000-000000000002", isUuidText_two⟩
          "92efad725f08330a1acab53ee72eaab37385b3eb6cc89beb75c31f0fa65b8656"
          "",
        emptyKeyEvent
          ⟨"00000000-0000-0000-0000-000000000003",
            isUuidText_three⟩
          "a763dbdadccc2b3fd7ebb0bb3379e8ae3973e65a2c9d165ffdf5cb4ea15cb452"
          "key-3"]], true⟩]

/- The second row of that run's chain has the number three. -/
theorem not_runSound_emptyKeyRun :
    ¬ RunSound (Runtime.ofDigests emptyKeyDigests) Db.empty
      emptyKeyRun := by
  intro hSound
  have hSecond :
      (((run (Runtime.ofDigests emptyKeyDigests) Db.empty
          emptyKeyRun).chainRows
            (default : TraceabilityEvent).tenantId)[1]?).map
              HashChainRow.sequenceNum = some 3 := by
    decide
  rcases Option.map_eq_some_iff.mp hSecond with
    ⟨row, hRow, hSeq⟩
  have hIntact :=
    (hSound.final (default : TraceabilityEvent).tenantId 1 row
      hRow).1
  rw [hSeq] at hIntact
  simp at hIntact

end Ledger

end RegEngine
