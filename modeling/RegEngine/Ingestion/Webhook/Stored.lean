import RegEngine.Ingestion.Webhook.Routes
import RegEngine.Shared.CanonicalPersistence.Effects
import RegEngine.Shared.CtePersistence.Effects

/-
  What the webhook's calls of the two stores leave in the
  legacy table: each result names a row under the key of its
  event, and no new row is rejected.

  Main declarations:
    * `Webhook.legacyKey`
    * `Webhook.Stores`
    * `Webhook.require_beside`
-/

--------
-- Keys
--------

namespace RegEngine

open CtePersistence (Prepared StoreResult CtePayload)

namespace Webhook

/- The key that the legacy store gives to an event. -/
def legacyKey
    (request : Request)
    (event : IngestEvent) :
    Except StoreError String := do
  let eventType ←
    CtePersistence.validateEventType (.str event.cteType.value)
  let eventDt ←
    CtePersistence.parseTimestamp request.rt request.now
      "event_timestamp" (.text event.timestamp)
  CtePersistence.computeIdempotencyKey request.rt.sha256Hex
    eventType event.traceabilityLotCode eventDt.isoformat
    request.source event.kdes event.locationGln
    event.locationName

variable {event : IngestEvent} {eventId : Uuid}
variable {request : Request} {db : Db}
variable {canonical : TraceabilityEvent} {p : Prepared}
variable {dicts : List (Uuid × CtePayload)}
variable {events : List IngestEvent}

/- The store prepares an event under its key. -/
theorem prepareEvent_batchDict
    (hPrepare :
      CtePersistence.prepareEvent request.rt request.now
          request.source eventId (batchDict event canonical) =
        .ok p) :
    legacyKey request event = .ok p.idempKey ∧
      p.eventId = eventId ∧
      p.payload = batchDict event canonical := by
  unfold CtePersistence.prepareEvent at hPrepare
  rcases Outcome.bind_eq_ok.mp hPrepare with
    ⟨eventType, hType, hPrepare⟩
  rcases Outcome.bind_eq_ok.mp hPrepare with
    ⟨eventDt, hDt, hPrepare⟩
  rcases Outcome.bind_eq_ok.mp hPrepare with
    ⟨entryDt, -, hPrepare⟩
  rcases Outcome.bind_eq_ok.mp hPrepare with
    ⟨key, hKey, hPrepare⟩
  cases Outcome.pure_eq_ok.mp hPrepare
  refine ⟨?_, rfl, rfl⟩
  unfold legacyKey
  simp only [Outcome.bind_eq_ok]
  exact ⟨eventType, hType, eventDt, hDt, hKey⟩

/-
  The event is stored under an id: a row of the tenant has the
  id and the key of the event.
-/
def StoredUnder
    (request : Request)
    (db : Db)
    (event : IngestEvent)
    (eventId : Uuid) : Prop :=
  ∃ row ∈ db.cteEvents,
    row.id = eventId ∧ row.tenantId = request.tenantId ∧
      ∃ key, legacyKey request event = .ok key ∧
        row.idempotencyKey = some key

/-
  A call stores events: its results name their rows, and its
  new rows are named by a result and not rejected.
-/
structure Stores
    (request : Request)
    (before after : Db)
    (events : List IngestEvent)
    (results : List StoreResult) : Prop where
  names :
    List.Forall₂
      (fun event result =>
        StoredUnder request after event result.eventId)
      events results
  rows :
    ∃ added,
      after.cteEvents = before.cteEvents ++ added ∧
        ∀ row ∈ added,
          row.validationStatus ≠ .rejected ∧
            ∃ result ∈ results, result.eventId = row.id

/- A result that names its row names the row of its event. -/
theorem storedUnder_of_names
    {result : StoreResult}
    (hPrepare :
      CtePersistence.prepareEvent request.rt request.now
          request.source eventId (batchDict event canonical) =
        .ok p)
    (hNames : result.Names request.tenantId db p) :
    StoredUnder request db event result.eventId := by
  rcases hNames with ⟨row, hRow, hId, hTenant, hKey⟩
  exact ⟨row, hRow, hId, hTenant, p.idempKey,
    (prepareEvent_batchDict hPrepare).1, hKey⟩

/- A row that stands for an event of the webhook is accepted. -/
theorem not_rejected_of_standsFor
    {prepared : List Prepared}
    {results : List StoreResult}
    {row : CteEventRow}
    (hPayload :
      ∀ p ∈ prepared, ∃ event canonical,
        p.payload = batchDict event canonical)
    (hRow : CtePersistence.StandsFor prepared results row) :
    row.validationStatus ≠ .rejected ∧
      ∃ result ∈ results, result.eventId = row.id := by
  rcases hRow with ⟨p, hMem, result, hResult, hId, hStatus⟩
  rcases hPayload p hMem with ⟨event, canonical, hEq⟩
  refine ⟨?_, result, hResult, hId⟩
  rw [hStatus, hEq]
  exact generateAlerts_not_rejecting event

--------
-- Calls Of The Stores
--------

/- A call of a store returns what the store returns. -/
theorem ofStore_eq_ok
    {α : Type}
    {out : Except StoreError α}
    {value : α} :
    ofStore out = .ok value ↔ out = .ok value := by
  cases out <;> simp [ofStore]

/- A call that raises nothing returns. -/
theorem failing_eq_ok
    {fault : Option Raised} :
    failing fault = .ok () ↔ fault = none := by
  cases fault <;> simp [failing]

/- The dictionaries of a batch, event by event. -/
theorem batchDicts_forall₂
    (hDicts : batchDicts request events = .ok dicts) :
    List.Forall₂
      (fun event dict =>
        dict.1 = request.outside.eventId .batch event ∧
          ∃ canonical,
            normalizeWebhookEvent request.rt request.settings
                (request.outside.candidate .batch event) event
                request.tenantId request.source =
              .ok canonical ∧
            dict.2 = batchDict event canonical)
      events dicts := by
  refine (Outcome.forall₂_of_mapM hDicts).imp ?_
  intro event dict hDict
  rcases Outcome.bind_eq_ok.mp hDict with
    ⟨canonical, hCanonical, hDict⟩
  cases Outcome.pure_eq_ok.mp hDict
  exact ⟨rfl, canonical, Iff.mp ofStore_eq_ok hCanonical, rfl⟩

/- The batch call stores its events. -/
theorem storeBatch_stores
    {stored : List StoreResult × Db}
    (hDicts : batchDicts request events = .ok dicts)
    (hStore : storeBatch request dicts db = .ok stored) :
    Stores request db stored.2 events stored.1 := by
  rcases Outcome.bind_eq_ok.mp hStore with ⟨_, -, hStore⟩
  rcases CtePersistence.storeEventsBatch_named
      (Iff.mp ofStore_eq_ok hStore) with
    ⟨prepared, added, hPrepared, hNames, hAdded, hRows⟩
  have hEach := Outcome.forall₂_of_mapM hPrepared
  have hDictOf := batchDicts_forall₂ hDicts
  have hOf :
      List.Forall₂
        (fun event p => ∃ eventId canonical,
          CtePersistence.prepareEvent request.rt request.now
              request.source eventId
              (batchDict event canonical) =
            .ok p)
        events prepared := by
    refine Outcome.forall₂_compose ?_ hDictOf hEach
    rintro event ⟨eventId, payload⟩ p
      ⟨-, canonical, -, rfl⟩ hPrepare
    exact ⟨eventId, canonical, hPrepare⟩
  refine ⟨Outcome.forall₂_compose ?_ hOf hNames, added,
    hAdded, ?_⟩
  · rintro event p result ⟨eventId, canonical, hPrepare⟩ hName
    exact storedUnder_of_names hPrepare hName
  · intro row hRow
    refine not_rejected_of_standsFor ?_ (hRows row hRow)
    intro p hMem
    rcases List.mem_iff_get.mp hMem with ⟨index, rfl⟩
    rcases hOf.get (by
        rw [hOf.length_eq]
        exact index.isLt) index.isLt with
      ⟨eventId, canonical, hPrepare⟩
    exact ⟨_, canonical,
      (prepareEvent_batchDict hPrepare).2.2⟩

open CanonicalEventStore (besideTables)

/- Alerts are no rows of the ledger. -/
theorem foldl_insertComplianceAlert_beside
    (alerts : List ComplianceAlertRow)
    (db : Db) :
    besideTables (alerts.foldl Db.insertComplianceAlert db) =
      besideTables db := by
  induction alerts generalizing db with
  | nil => rfl
  | cons alert rest ih =>
      rw [List.foldl_cons, ih]
      unfold Db.insertComplianceAlert
      split
      · split <;> rfl
      · rfl

/- What follows the legacy write leaves its tables alone. -/
theorem require_beside
    {attempt : Attempt}
    {db db' : Db}
    (hRequire :
      require request attempt event eventId db = .ok db') :
    besideTables db' = besideTables db := by
  rcases Outcome.bind_eq_ok.mp hRequire with
    ⟨alerts, -, hRequire⟩
  unfold persistRequiredCanonicalAndEval at hRequire
  split at hRequire
  · simp at hRequire
  · rename_i stored hStored
    split at hRequire
    · simp at hRequire
    · cases hRequire
      unfold persistCanonical at hStored
      rcases Outcome.bind_eq_ok.mp hStored with ⟨_, -, hStored⟩
      rcases Outcome.bind_eq_ok.mp hStored with ⟨_, -, hStored⟩
      have hSkip : canonicalStore.skipChainWrite = true := rfl
      have hDual : canonicalStore.dualWrite = false := rfl
      exact
        (CanonicalEventStore.persistEvent_beside hSkip hDual
          hStored).trans
          (foldl_insertComplianceAlert_beside alerts db)

/- The savepoint of an event stores it. -/
theorem storeOne_stores
    {stored : StoreResult × Db}
    (hStore : storeOne request event db = .ok stored) :
    Stores request db stored.2 [event] [stored.1] := by
  rcases Outcome.bind_eq_ok.mp hStore with ⟨_, -, hStore⟩
  rcases Outcome.bind_eq_ok.mp hStore with
    ⟨canonical, -, hStore⟩
  rcases Outcome.bind_eq_ok.mp hStore with
    ⟨⟨result, middle⟩, hEvent, hStore⟩
  rcases Outcome.bind_eq_ok.mp hStore with
    ⟨required, hRequire, hStore⟩
  rcases Outcome.bind_eq_ok.mp hStore with ⟨_, -, hStore⟩
  cases Outcome.pure_eq_ok.mp hStore
  have hSame : required.cteEvents = middle.cteEvents :=
    congrArg Prod.fst (require_beside hRequire)
  rcases CtePersistence.storeEvent_named
      (Iff.mp ofStore_eq_ok hEvent) with
    ⟨p, added, hPrepare, hName, hAdded, hRows⟩
  refine ⟨List.Forall₂.cons ?_ List.Forall₂.nil, added,
    hSame.trans hAdded, ?_⟩
  · rcases storedUnder_of_names hPrepare hName with
      ⟨row, hRow, hRest⟩
    exact ⟨row, hSame ▸ hRow, hRest⟩
  · intro row hRow
    refine not_rejected_of_standsFor ?_ (hRows row hRow)
    intro q hMem
    rw [List.mem_singleton.mp hMem]
    exact ⟨event, canonical,
      (prepareEvent_batchDict hPrepare).2.2⟩

end Webhook

end RegEngine
