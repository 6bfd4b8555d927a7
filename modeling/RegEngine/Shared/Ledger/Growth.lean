import RegEngine.Library.Table.Extends
import RegEngine.Shared.Ledger.Runs

/-
  What no run of the writers undoes. The chain, the legacy
  events and the links of lots are only appended to; a
  canonical row changes once at most, when an amendment of its
  tenant supersedes it. Calls of other tenants leave the rows
  of a tenant.

  Main declarations:
    * `Ledger.Grows`
    * `Ledger.Call.tenantIds`
    * `Ledger.run_grows`
-/

--------
-- Growing Ledgers
--------

namespace RegEngine

namespace Ledger

/- A canonical row as it was, or superseded by its tenant. -/
def Superseded
    (acting : Uuid → Prop)
    (row row' : TraceabilityEventRow) : Prop :=
  row' = row ∨
    (acting row.tenantId ∧ row.status = .active ∧
      ∃ amendedAt,
        row' =
          { row with
            status := .superseded
            amendedAt := amendedAt })

/-
  The tables of the ledger go on from those before. What is
  new or changed in them is a row of a tenant that acted.
-/
structure Grows
    (acting : Uuid → Prop)
    (db db' : Db) : Prop where
  chain :
    Table.Extends Eq (fun row => acting row.tenantId)
      db.hashChain db'.hashChain
  legacy :
    Table.Extends Eq (fun row => acting row.tenantId)
      db.cteEvents db'.cteEvents
  canonical :
    Table.Extends (Superseded acting)
      (fun row => acting row.tenantId)
      db.traceabilityEvents db'.traceabilityEvents
  links :
    Table.Extends Eq (fun row => acting row.tenantId)
      db.transformationLinks db'.transformationLinks

variable {acting : Uuid → Prop}

theorem Superseded.refl
    (row : TraceabilityEventRow) :
    Superseded acting row row :=
  .inl rfl

theorem Superseded.tenantId_eq
    {row row' : TraceabilityEventRow}
    (hRow : Superseded acting row row') :
    row'.tenantId = row.tenantId := by
  rcases hRow with rfl | ⟨-, -, _, rfl⟩ <;> rfl

/- A row that is superseded stays as it is. -/
theorem Superseded.trans
    {row row' row'' : TraceabilityEventRow}
    (hFirst : Superseded acting row row')
    (hSecond : Superseded acting row' row'') :
    Superseded acting row row'' := by
  rcases hFirst with rfl | ⟨hActing, hActive, amendedAt, rfl⟩
  · exact hSecond
  · rcases hSecond with rfl | ⟨-, hAgain, -⟩
    · exact .inr ⟨hActing, hActive, amendedAt, rfl⟩
    · cases hAgain

/- The tables of the ledger. -/
def tables (db : Db) :
    List HashChainRow × List CteEventRow ×
      List TraceabilityEventRow × List TransformationLinkRow :=
  (db.hashChain, db.cteEvents, db.traceabilityEvents,
    db.transformationLinks)

/- Tables that stay as they are. -/
theorem Grows.of_tables
    {db db' : Db}
    (hTables : tables db' = tables db) :
    Grows acting db db' := by
  simp only [tables, Prod.mk.injEq] at hTables
  rcases hTables with ⟨hChain, hLegacy, hRows, hLinks⟩
  constructor
  · rw [hChain]
    exact .refl (fun _ => rfl) db.hashChain
  · rw [hLegacy]
    exact .refl (fun _ => rfl) db.cteEvents
  · rw [hRows]
    exact .refl Superseded.refl db.traceabilityEvents
  · rw [hLinks]
    exact .refl (fun _ => rfl) db.transformationLinks

theorem Grows.refl
    (db : Db) :
    Grows acting db db :=
  .of_tables rfl

theorem Grows.trans
    {db db' db'' : Db}
    (hFirst : Grows acting db db')
    (hSecond : Grows acting db' db'') :
    Grows acting db db'' where
  chain :=
    hFirst.chain.trans Eq.trans (fun h hEq => hEq ▸ h)
      hSecond.chain
  legacy :=
    hFirst.legacy.trans Eq.trans (fun h hEq => hEq ▸ h)
      hSecond.legacy
  canonical :=
    hFirst.canonical.trans Superseded.trans
      (fun h hRow => hRow.tenantId_eq ▸ h) hSecond.canonical
  links :=
    hFirst.links.trans Eq.trans (fun h hEq => hEq ▸ h)
      hSecond.links

/- New rows at the end of the chain. -/
theorem Grows.of_links
    {db : Db}
    {links : List HashChainRow}
    (hLinks : ∀ row ∈ links, acting row.tenantId) :
    Grows acting db
      { db with hashChain := db.hashChain ++ links } where
  chain := .of_append (fun _ => rfl) hLinks
  legacy := (Grows.refl db).legacy
  canonical := (Grows.refl db).canonical
  links := (Grows.refl db).links

/- New canonical rows. -/
theorem Grows.of_rows
    {db : Db}
    {rows : List TraceabilityEventRow}
    (hRows : ∀ row ∈ rows, acting row.tenantId) :
    Grows acting db
      { db with
        traceabilityEvents := db.traceabilityEvents ++ rows } where
  chain := (Grows.refl db).chain
  legacy := (Grows.refl db).legacy
  canonical := .of_append Superseded.refl hRows
  links := (Grows.refl db).links

/- Steps that grow the tables do so in turn. -/
theorem Grows.foldlM
    {α : Type}
    {step : Db → α → Except StoreError Db}
    {items : List α}
    {db db' : Db}
    (hStep :
      ∀ item ∈ items, ∀ db next, step db item = .ok next →
        Grows acting db next)
    (hFold : items.foldlM step db = .ok db') :
    Grows acting db db' := by
  induction items generalizing db with
  | nil =>
      rw [List.foldlM_nil] at hFold
      rw [Outcome.pure_eq_ok.mp hFold]
      exact .refl db'
  | cons item rest ih =>
      rcases Outcome.foldlM_cons_eq_ok.mp hFold with
        ⟨next, hNext, hRest⟩
      exact (hStep item (by simp) db next hNext).trans
        (ih (fun other hOther =>
          hStep other (by simp [hOther])) hRest)

--------
-- The Canonical Writers
--------

open CtePersistence (CtePayload StoreResult applyPlan chainStart)

open CanonicalEventStore (amend chainRow eventRow planFor)

variable {rt : Runtime} {db db' : Db} {now : Datetime}
variable {store : CanonicalEventStore}
variable {event : TraceabilityEvent}

/- An amendment supersedes one row of its tenant at most. -/
theorem superseded_amend
    (hActing : acting event.tenantId)
    (row : TraceabilityEventRow) :
    Superseded acting row (amend now event row) := by
  unfold amend
  split
  · rename_i hTarget
    exact .inr ⟨hTarget.2.1 ▸ hActing, hTarget.2.2, _, rfl⟩
  · exact .refl row

/- Metering leaves the ledger. -/
theorem grows_meter
    (hMeter : store.meter db event = .ok db') :
    Grows acting db db' :=
  .of_tables
    ((CanonicalEventStore.meter_acts store event).keeps
      (fun _ _ => rfl : Db.usageTables.Blind tables) hMeter)

/- The link of an input lot is a row of the event's tenant. -/
theorem grows_linkInput
    {inputs : List (String × Python.Dict)}
    {tlc : String}
    (hActing : acting event.tenantId) :
    Grows acting db
      (CanonicalEventStore.linkInput rt event inputs db
        tlc) := by
  unfold CanonicalEventStore.linkInput
  split
  · rename_i row hRow
    rw [Db.insertTransformationLink_eq]
    unfold Db.addLink
    split
    · exact .refl db
    · refine
        ⟨(Grows.refl db).chain, (Grows.refl db).legacy,
          (Grows.refl db).canonical,
          .of_append (fun _ => rfl) ?_⟩
      unfold CanonicalEventStore.linkRow at hRow
      split at hRow
      · cases hRow
        simpa using hActing
      · cases hRow
  · exact .refl db

/- So are all links of an event. -/
theorem grows_links
    (hActing : acting event.tenantId)
    (hLinks :
      CanonicalEventStore.createTransformationLinks rt db
        event = .ok db') :
    Grows acting db db' := by
  unfold CanonicalEventStore.createTransformationLinks at hLinks
  split at hLinks
  · rcases Outcome.bind_eq_ok.mp hLinks with ⟨inputs, -, hDone⟩
    rw [← Outcome.pure_eq_ok.mp hDone]
    clear hLinks hDone
    induction CanonicalEventStore.inputLotCodes event
      generalizing db with
    | nil => exact .refl db
    | cons tlc rest ih =>
        exact (grows_linkInput hActing).trans ih
  · cases hLinks
    exact .refl db

theorem grows_supersede
    (hActing : acting event.tenantId)
    (hAmend :
      CanonicalEventStore.supersede db now event = .ok db') :
    Grows acting db db' := by
  rw [CanonicalEventStore.supersede_eq hAmend]
  exact
    ⟨(Grows.refl db).chain, (Grows.refl db).legacy,
      .of_map (superseded_amend hActing),
      (Grows.refl db).links⟩

/- The chain step adds the row that it is given, or none. -/
theorem grows_chainStep
    {row : HashChainRow}
    (hActing : acting row.tenantId)
    (hChain : store.chainStep db row = .ok db') :
    Grows acting db db' := by
  unfold CanonicalEventStore.chainStep at hChain
  split at hChain
  · cases hChain
    exact .refl db
  · unfold CanonicalEventStore.insertGuardedChainEntry at hChain
    split at hChain
    · rw [insertChainEntry_eq hChain]
      exact .of_links (by simpa using hActing)
    · cases hChain
      exact .refl db

/- The legacy copy is a row of the tenant of its event. -/
theorem grows_copyLegacy
    (hActing : acting event.tenantId)
    (hCopy : store.copyLegacy db event = .ok db') :
    Grows acting db db' := by
  unfold CanonicalEventStore.copyLegacy
    CanonicalEventStore.dualWriteStep at hCopy
  split at hCopy
  · unfold LegacyDualWrite.dualWriteLegacy at hCopy
    rcases Outcome.bind_eq_ok.mp hCopy with
      ⟨copied, hCopied, hDone⟩
    rcases Outcome.bind_eq_ok.mp hCopied with
      ⟨written, hWritten, hPair⟩
    rcases Outcome.bind_eq_ok.mp hWritten with
      ⟨⟨inserted, landed⟩, hRow, hRest⟩
    rcases Outcome.bind_eq_ok.mp hRest with
      ⟨withKdes, hKdes, hOut⟩
    cases hDone
    cases hPair
    cases hOut
    rw [(Db.foldlM_insertCteKde_ok hKdes).2]
    rcases Db.insertCteEvent_cases hRow with
      ⟨-, -, rfl⟩ | ⟨-, -, -, rfl⟩
    · exact .of_tables rfl
    · refine
        ⟨(Grows.refl db).chain,
          .of_append (fun _ => rfl) ?_,
          (Grows.refl db).canonical, (Grows.refl db).links⟩
      intro row hOwn
      rw [List.mem_singleton.mp hOwn]
      exact hActing
  · cases hCopy
    exact .refl db

variable {result : CanonicalStoreResult}
variable {events : List TraceabilityEvent} {nextSequence : Int}
variable {previousChainHash : Option String} {tenantId : Uuid}
variable {results : List CanonicalStoreResult} {source : String}

/- The steps after the insert grow the tables. -/
theorem grows_afterInsert
    {entry : HashChainRow}
    (hActing : acting event.tenantId)
    (hEntry : acting entry.tenantId)
    (hAfter :
      store.afterInsert rt now event entry db =
        .ok (result, db')) :
    Grows acting db db' := by
  rcases CanonicalEventStore.afterInsert_cases hAfter with
    ⟨-, metered, amended, chained, copied, hMeter, hAmend,
      hChain, hLegacy, hLinks⟩
  exact (grows_meter hMeter).trans
    ((grows_supersede hActing hAmend).trans
      ((grows_chainStep hEntry hChain).trans
        ((grows_copyLegacy hActing hLegacy).trans
          (grows_links hActing hLinks))))

/- A new event grows the tables of its tenant. -/
theorem grows_persistNewEvent
    (hActing : acting event.tenantId)
    (hPersist :
      store.persistNewEvent rt now event db =
        .ok (result, db')) :
    Grows acting db db' := by
  rcases CanonicalEventStore.persistNewEvent_cases hPersist with
    ⟨chainHash, kept, -, hRows, hRest⟩
  have hInserted :
      Grows acting db
        { db with
          traceabilityEvents :=
            db.traceabilityEvents ++ kept } := by
    refine .of_rows ?_
    intro row hRow
    have hOwn := (Table.insertRows_sublist hRows).subset hRow
    rw [List.mem_singleton.mp hOwn]
    exact hActing
  rcases hRest with ⟨_, -, -, rfl⟩ | ⟨-, hAfter⟩
  · exact hInserted
  · exact hInserted.trans
      (grows_afterInsert (by exact hActing) (by exact hActing)
        hAfter)

/- `persist_event` grows the tables of its tenant. -/
theorem grows_persistEvent
    (hActing : acting event.tenantId)
    (hPersist :
      store.persistEvent rt now event db = .ok (result, db')) :
    Grows acting db db' := by
  rcases CanonicalEventStore.persistEvent_cases hPersist with
    ⟨p, hPrepared, ⟨_, -, -, rfl⟩ | ⟨-, hNew⟩⟩
  · exact .refl db'
  · refine grows_persistNewEvent ?_ hNew
    rw [CanonicalEventStore.ensurePrepared_tenantId hPrepared]
    exact hActing

/- The chain rows of a plan are rows of its tenant. -/
theorem tenantId_chainEntries
    {existing : CanonicalEventStore.KeyMap}
    (hTenant : ∀ event ∈ events, event.tenantId = tenantId) :
    ∀ row ∈
        (CanonicalEventStore.planBatch rt previousChainHash
          nextSequence existing events).chainEntries,
      row.tenantId = tenantId := by
  induction events generalizing previousChainHash nextSequence
    existing with
  | nil => simp [CanonicalEventStore.planBatch]
  | cons first rest ih =>
      rw [List.forall_mem_cons] at hTenant
      rw [CanonicalEventStore.planBatch_cons]
      split
      · exact ih hTenant.2
      · exact List.forall_mem_cons.mpr
          ⟨hTenant.1, ih hTenant.2⟩

/- A prepared batch grows the tables of its tenant. -/
theorem grows_persistPrepared
    (hActing : acting tenantId)
    (hTenant : ∀ event ∈ events, event.tenantId = tenantId)
    (hPersist :
      store.persistPrepared rt tenantId events db =
        .ok (results, db')) :
    Grows acting db db' := by
  rcases CanonicalEventStore.persistPrepared_cases hPersist with
    ⟨inserted, ids, hInsert, hWrite⟩
  rcases CanonicalEventStore.insertChunks_rows hInsert with
    ⟨kept, hRows, rfl, -⟩
  rw [Table.flatten_chunksOf (by decide)] at hRows
  have hPlanned :
      ∀ event ∈ (planFor rt db tenantId events).newEvents,
        acting event.tenantId := by
    intro event hEvent
    rcases CanonicalEventStore.mem_newEvents_planBatch hEvent
      with ⟨given, hGiven, previous, rfl⟩
    exact (hTenant given hGiven).symm ▸ hActing
  have hInserted :
      Grows acting db
        { db with
          traceabilityEvents :=
            db.traceabilityEvents ++ kept } := by
    refine .of_rows ?_
    intro row hRow
    rcases List.mem_map.mp
        ((Table.insertRows_sublist hRows).subset hRow) with
      ⟨event, hEvent, rfl⟩
    exact hPlanned event hEvent
  rcases CanonicalEventStore.writeBatch_cases hWrite with
    ⟨-, chained, linked, metered, hChain, hLinks, hMeter,
      hCopy⟩
  have hChained :
      Grows acting
        { db with
          traceabilityEvents := db.traceabilityEvents ++ kept }
        chained := by
    rw [foldlM_insertChainEntry hChain]
    refine .of_links ?_
    intro row hRow
    rw [tenantId_chainEntries hTenant row
      (List.mem_of_mem_filter hRow)]
    exact hActing
  exact hInserted.trans
    (hChained.trans
      ((Grows.foldlM (fun event hEvent _ _ =>
          grows_links
            (hPlanned event (List.mem_of_mem_filter hEvent)))
          hLinks).trans
        ((Grows.foldlM (fun _ _ _ _ => grows_meter)
          hMeter).trans
          (Grows.foldlM (fun event hEvent _ _ =>
            grows_copyLegacy
              (hPlanned event (List.mem_of_mem_filter hEvent)))
            hCopy))))

/- `persist_events_batch` grows the tables of its tenant. -/
theorem grows_persistEventsBatch
    (hActing : ∀ event ∈ events, acting event.tenantId)
    (hPersist :
      store.persistEventsBatch rt events db =
        .ok (results, db')) :
    Grows acting db db' := by
  rcases CanonicalEventStore.persistEventsBatch_cases hPersist
      with ⟨-, -, rfl⟩ |
        ⟨tenantId, prepared, hTenant, hPrepared, hBatch⟩
  · exact .refl db'
  · cases events with
    | nil =>
        cases hPersist
        exact .refl db
    | cons first rest =>
        refine grows_persistPrepared ?_
          (CanonicalEventStore.mapM_ensurePrepared_tenantId
            hTenant hPrepared) hBatch
        rw [← hTenant first (by simp)]
        exact hActing first (by simp)

--------
-- The Legacy Writers
--------

/- The rows of a legacy plan are rows of its tenant. -/
theorem grows_applyPlan
    {existing : CtePersistence.ExistingMap}
    {plan : CtePersistence.BatchPlan}
    (hActing : acting tenantId)
    (hPlan :
      plan.WellFormed rt.sha256Hex tenantId previousChainHash
        nextSequence existing) :
    Grows acting db (applyPlan db tenantId plan) := by
  refine
    ⟨.of_append (fun _ => rfl) ?_, .of_append (fun _ => rfl) ?_,
      (Grows.refl db).canonical, (Grows.refl db).links⟩
  · intro row hRow
    exact (hPlan.chainTenant row hRow).symm ▸ hActing
  · intro row hRow
    exact (hPlan.tenant row hRow).symm ▸ hActing

/- `store_event` grows the tables of its tenant. -/
theorem grows_storeEvent
    {tenantId eventId : Uuid}
    {payload : CtePayload}
    {result : StoreResult}
    (hActing : acting tenantId)
    (hStore :
      CtePersistence.storeEvent rt now tenantId source eventId
          payload db =
        .ok (result, db')) :
    Grows acting db db' := by
  rcases CtePersistence.storeEvent_cases hStore with
    ⟨p, -, ⟨_, -, -, rfl⟩ | ⟨hFind, hNew⟩⟩
  · exact .refl db'
  · rcases CtePersistence.storeNewEvent_effect hFind hNew with
      ⟨quantity, sha256Hash, column, -, -, -, -, hResult, rfl⟩
    rw [hResult]
    exact grows_applyPlan hActing
      (CtePersistence.BatchPlan.WellFormed.addNew
        (rfl : CtePersistence.ExistingMap.find [] p.idempKey =
          none)
        (CtePersistence.BatchPlan.WellFormed.empty _ _ _ _
          [(p.idempKey, ⟨p.eventId, sha256Hash, ""⟩)]))

/- `store_events_batch` grows the tables of its tenant. -/
theorem grows_storeEventsBatch
    {events : List (Uuid × CtePayload)}
    {results : List StoreResult}
    (hActing : acting tenantId)
    (hStore :
      CtePersistence.storeEventsBatch rt now tenantId source
          events db =
        .ok (results, db')) :
    Grows acting db db' := by
  rcases CtePersistence.storeEventsBatch_cases hStore with
    ⟨prepared, plan, -, hPlan, -, -, rfl⟩
  exact grows_applyPlan hActing
    (CtePersistence.planBatch_wellFormed hPlan)

--------
-- Runs
--------

/- The tenants that a call writes for. -/
def Call.tenantIds : Call → List Uuid
| .persistEvent _ _ _ event => [event.tenantId]
| .persistEventsBatch _ _ events =>
    events.map TraceabilityEvent.tenantId
| .storeEvent _ tenantId _ _ _ => [tenantId]
| .storeEventsBatch _ tenantId _ _ => [tenantId]

/- The tenants of the calls of a run. -/
def tenantIds (runs : List Transaction) : List Uuid :=
  (runs.flatMap Transaction.calls).flatMap Call.tenantIds

/- What a call that returns does to the tables. -/
theorem Call.grows
    {call : Call}
    {results : List CallResult}
    (hActing : ∀ tenantId ∈ call.tenantIds, acting tenantId)
    (hRun : call.run rt db = .ok (results, db')) :
    Grows acting db db' := by
  cases call
  all_goals
    rcases Outcome.map_eq_ok.mp hRun with
      ⟨⟨result, out⟩, hCall, hOut⟩
    cases hOut
  case persistEvent event =>
    exact grows_persistEvent
      (hActing event.tenantId (by simp [tenantIds])) hCall
  case persistEventsBatch events =>
    exact grows_persistEventsBatch
      (fun _ hEvent => hActing _ (List.mem_map_of_mem hEvent))
      hCall
  case storeEvent tenantId _ _ _ =>
    exact grows_storeEvent
      (hActing tenantId (by simp [tenantIds])) hCall
  case storeEventsBatch tenantId _ _ =>
    exact grows_storeEventsBatch
      (hActing tenantId (by simp [tenantIds])) hCall

/- What the calls of a transaction do. -/
theorem runCalls_grows
    {calls : List Call}
    (hActing :
      ∀ tenantId ∈ calls.flatMap Call.tenantIds,
        acting tenantId)
    (hRun : runCalls rt db calls = some db') :
    Grows acting db db' := by
  induction calls generalizing db with
  | nil =>
      cases hRun
      exact .refl db'
  | cons call rest ih =>
      rw [List.flatMap_cons, List.forall_mem_append] at hActing
      unfold runCalls at hRun
      split at hRun
      · cases hRun
      · rename_i results next hCall
        exact (Call.grows hActing.1 hCall).trans
          (ih hActing.2 hRun)

/- What a run does to the tables, for the tenants in it. -/
theorem run_grows
    {db : Db}
    {runs : List Transaction}
    (hActing : ∀ tenantId ∈ tenantIds runs, acting tenantId) :
    Grows acting db (run rt db runs) := by
  induction runs generalizing db with
  | nil => exact .refl db
  | cons transaction rest ih =>
      rw [tenantIds, List.flatMap_cons, List.flatMap_append,
        List.forall_mem_append] at hActing
      refine Grows.trans ?_ (ih hActing.2)
      unfold Transaction.run
      split
      · cases hRun : runCalls rt db transaction.calls with
        | none => exact .refl db
        | some db' => exact runCalls_grows hActing.1 hRun
      · exact .refl db

/- The same when no tenant is told apart. -/
theorem run_grows_any
    (rt : Runtime)
    (db : Db)
    (runs : List Transaction) :
    Grows (fun _ => True) db (run rt db runs) :=
  run_grows (fun _ _ => trivial)

/- The rows of a tenant in the four tables. -/
def tenantTables (db : Db) (tenantId : Uuid) :
    List HashChainRow × List CteEventRow ×
      List TraceabilityEventRow × List TransformationLinkRow :=
  (db.hashChain.filter (fun row => row.tenantId == tenantId),
    db.cteEvents.filter (fun row => row.tenantId == tenantId),
    db.traceabilityEvents.filter (fun row =>
      row.tenantId == tenantId),
    db.transformationLinks.filter (fun row =>
      row.tenantId == tenantId))

end Ledger

end RegEngine
