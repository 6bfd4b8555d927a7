import RegEngine.Shared.CtePersistence.Core

/-
  The single-event writer of the legacy store
  (`shared/cte_persistence/writes.py`).

  The generated identifier, the clock and the session's
  tables are arguments; a call that raises leaves no tables,
  since the caller's transaction is rolled back.

  Main declarations:
    * `CtePersistence.prepareEvent`
    * `CtePersistence.storeEvent`
    * `CtePersistence.storeEvent_cases`
-/

--------
-- Validated Events
--------

namespace RegEngine

open Python (Value Dict)

namespace CtePersistence

/- An event after validation, with its idempotency key. -/
structure Prepared where
  eventId : Uuid
  payload : CtePayload
  eventType : CTEType
  eventDt : Datetime
  entryDt : Option Datetime
  idempKey : String

/- A time stamp that may be left out. -/
def parseOptionalTimestamp
    (rt : Runtime)
    (now : Datetime)
    (field : String)
    (value : TimestampArg) :
    Except StoreError (Option Datetime) :=
  match value with
  | .none => .ok none
  | given => do
      let parsed ← parseTimestamp rt now field given
      return some parsed

/-
  The checks that come before any read of the database: the
  event type, the two time stamps, and the idempotency key.
-/
def prepareEvent
    (rt : Runtime)
    (now : Datetime)
    (source : String)
    (eventId : Uuid)
    (payload : CtePayload) :
    Except StoreError Prepared := do
  let eventType ← validateEventType payload.eventType
  let eventDt ←
    parseTimestamp rt now "event_timestamp"
      payload.eventTimestamp
  let entryDt ←
    parseOptionalTimestamp rt now "event_entry_timestamp"
      payload.eventEntryTimestamp
  let idempKey ←
    computeIdempotencyKey rt.sha256Hex eventType
      payload.traceabilityLotCode eventDt.isoformat source
      payload.kdes payload.locationGln payload.locationName
  return ⟨eventId, payload, eventType, eventDt, entryDt, idempKey⟩

/-
  The row of an event. The single writer passes the caller's
  entry time, or the clock when there is none.
-/
def cteEventRow
    (tenantId : Uuid)
    (source : String)
    (p : Prepared)
    (quantity : Python.Float)
    (entryTimestamp : Int)
    (sha256Hash chainHash : String)
    (status : ValidationStatus) :
    CteEventRow where
  id := p.eventId
  tenantId := tenantId
  eventType := p.eventType
  traceabilityLotCode := p.payload.traceabilityLotCode
  productDescription := p.payload.productDescription.getD ""
  quantity := quantity
  unitOfMeasure := p.payload.unitOfMeasure.getD ""
  locationGln := p.payload.locationGln
  locationName := p.payload.locationName
  eventTimestamp := p.eventDt.instant
  eventEntryTimestamp := some entryTimestamp
  source := source
  sourceEventId := p.payload.sourceEventId
  idempotencyKey := some p.idempKey
  sha256Hash := sha256Hash
  chainHash := chainHash
  epcisEventType := p.payload.epcisEventType
  epcisAction := p.payload.epcisAction
  epcisBizStep := p.payload.epcisBizStep
  validationStatus := status

/- The digest and the number that the chain goes on from. -/
def chainStart
    (db : Db)
    (tenantId : Uuid) :
    Option String × Int :=
  match db.chainHead tenantId with
  | none => (none, 1)
  | some head => (some head.chainHash, head.sequenceNum + 1)

--------
-- The Writer
--------

/- The KDE, chain and alert rows of an accepted event. -/
def writeAccepted
    (db : Db)
    (tenantId : Uuid)
    (p : Prepared)
    (chainRow : HashChainRow) :
    Except StoreError Db := do
  let withKdes ←
    (kdeRows tenantId p.eventId p.payload.kdes).foldlM
      Db.insertCteKde db
  let withChain ← insertGuardedChainEntry withKdes chainRow
  return (p.payload.alerts.map
    (alertInsertParams tenantId p.eventId)).foldl
      Db.insertComplianceAlert withChain

def insertedResult
    (p : Prepared)
    (sha256Hash chainHash : String)
    (status : ValidationStatus) :
    StoreResult where
  success := status != .rejected
  eventId := p.eventId
  sha256Hash := sha256Hash
  chainHash := chainHash
  idempotent := false
  errors :=
    if status = .rejected then
      rejectionReasons p.payload.validatorResults
        p.payload.alerts
    else
      []
  alerts := p.payload.alerts

/- The chain row of an event at a point of the chain. -/
def chainRow
    (tenantId : Uuid)
    (p : Prepared)
    (sequenceNum : Int)
    (sha256Hash : String)
    (previousChainHash : Option String)
    (chainHash : String) :
    HashChainRow where
  tenantId := tenantId
  cteEventId := p.eventId
  sequenceNum := sequenceNum
  eventHash := sha256Hash
  previousChainHash := previousChainHash
  chainHash := chainHash

/- `store_event` after the idempotency check. -/
def storeNewEvent
    (rt : Runtime)
    (now : Datetime)
    (tenantId : Uuid)
    (source : String)
    (p : Prepared)
    (db : Db) :
    Except StoreError (StoreResult × Db) := do
  let quantity ←
    Outcome.ofOption (broken "cte_events.quantity")
      (quantityText p.payload.quantity)
  let sha256Hash ←
    payloadHash rt tenantId p.eventId p.payload p.eventType
      quantity p.eventDt.isoformat
  assertNotExists db tenantId sha256Hash
  let start := chainStart db tenantId
  let chainHash :=
    computeChainHash rt.sha256Hex sha256Hash start.1
  let status :=
    deriveValidationStatus p.payload.alerts
      p.payload.validatorResults
  let column ←
    Outcome.ofOption (broken "cte_events.quantity")
      (rt.floatOf p.payload.quantity)
  let inserted ←
    db.insertCteEvent
      (cteEventRow tenantId source p column
        (p.entryDt.getD now).instant sha256Hash chainHash status)
  let result := insertedResult p sha256Hash chainHash status
  if status = .rejected then
    -- A rejected event is kept for audit, but never chained.
    return (result, inserted.1)
  else
    let written ←
      writeAccepted inserted.1 tenantId p
        (chainRow tenantId p start.2 sha256Hash start.1 chainHash)
    return (result, written)

/- `store_event`. -/
def storeEvent
    (rt : Runtime)
    (now : Datetime)
    (tenantId : Uuid)
    (source : String)
    (eventId : Uuid)
    (payload : CtePayload)
    (db : Db) :
    Except StoreError (StoreResult × Db) := do
  let p ← prepareEvent rt now source eventId payload
  match db.findCteByKey tenantId p.idempKey with
  | some existing => return ((storedOf existing).result, db)
  | none => storeNewEvent rt now tenantId source p db

--------
-- What A Call Does
--------

variable {db db' : Db} {now : Datetime} {result : StoreResult}
variable {rt : Runtime} {source : String}

/- A call finds the event stored, or stores it anew. -/
theorem storeEvent_cases
    {tenantId eventId : Uuid}
    {payload : CtePayload}
    (hStore :
      storeEvent rt now tenantId source eventId payload db =
        .ok (result, db')) :
    ∃ p,
      prepareEvent rt now source eventId payload = .ok p ∧
        ((∃ existing,
            db.findCteByKey tenantId p.idempKey =
                some existing ∧
              result = (storedOf existing).result ∧ db' = db) ∨
          (db.findCteByKey tenantId p.idempKey = none ∧
            storeNewEvent rt now tenantId source p db =
              .ok (result, db'))) := by
  unfold storeEvent at hStore
  rcases Outcome.bind_eq_ok.mp hStore with ⟨p, hPrepare, hRest⟩
  refine ⟨p, hPrepare, ?_⟩
  cases hFind : db.findCteByKey tenantId p.idempKey with
  | none =>
      rw [hFind] at hRest
      exact Or.inr ⟨rfl, hRest⟩
  | some existing =>
      rw [hFind] at hRest
      have hPair := Outcome.pure_eq_ok.mp hRest
      simp only [Prod.mk.injEq] at hPair
      exact Or.inl ⟨existing, rfl, hPair.1.symm, hPair.2.symm⟩

/- What storing a new event computes and writes. -/
theorem storeNewEvent_cases
    {tenantId : Uuid}
    {p : Prepared}
    (hStore :
      storeNewEvent rt now tenantId source p db =
        .ok (result, db')) :
    ∃ quantity sha256Hash column inserted landed,
      quantityText p.payload.quantity = some quantity ∧
        payloadHash rt tenantId p.eventId p.payload p.eventType
            quantity p.eventDt.isoformat = .ok sha256Hash ∧
        assertNotExists db tenantId sha256Hash = .ok () ∧
        rt.floatOf p.payload.quantity = some column ∧
        db.insertCteEvent
            (cteEventRow tenantId source p column
              (p.entryDt.getD now).instant sha256Hash
              (computeChainHash rt.sha256Hex sha256Hash
                (chainStart db tenantId).1)
              (deriveValidationStatus p.payload.alerts
                p.payload.validatorResults)) =
          .ok (inserted, landed) ∧
        result =
          insertedResult p sha256Hash
            (computeChainHash rt.sha256Hex sha256Hash
              (chainStart db tenantId).1)
            (deriveValidationStatus p.payload.alerts
              p.payload.validatorResults) ∧
        ((deriveValidationStatus p.payload.alerts
              p.payload.validatorResults = .rejected ∧
            db' = inserted) ∨
          (deriveValidationStatus p.payload.alerts
                p.payload.validatorResults ≠ .rejected ∧
            writeAccepted inserted tenantId p
                (chainRow tenantId p (chainStart db tenantId).2
                  sha256Hash (chainStart db tenantId).1
                  (computeChainHash rt.sha256Hex sha256Hash
                    (chainStart db tenantId).1)) =
              .ok db')) := by
  unfold storeNewEvent at hStore
  rcases Outcome.bind_eq_ok.mp hStore with
    ⟨quantity, hQuantity, hStore⟩
  rcases Outcome.bind_eq_ok.mp hStore with
    ⟨sha256Hash, hHash, hStore⟩
  rcases Outcome.bind_eq_ok.mp hStore with
    ⟨⟨⟩, hFresh, hStore⟩
  rcases Outcome.bind_eq_ok.mp hStore with
    ⟨column, hColumn, hStore⟩
  rcases Outcome.bind_eq_ok.mp hStore with
    ⟨⟨inserted, landed⟩, hInsert, hStore⟩
  refine ⟨quantity, sha256Hash, column, inserted, landed,
    Outcome.ofOption_eq_ok.mp hQuantity, hHash, hFresh,
    Outcome.ofOption_eq_ok.mp hColumn, hInsert, ?_⟩
  by_cases hStatus :
      deriveValidationStatus p.payload.alerts
        p.payload.validatorResults = .rejected
  · simp only [hStatus, if_true] at hStore ⊢
    have hPair := Outcome.pure_eq_ok.mp hStore
    simp only [Prod.mk.injEq] at hPair
    exact ⟨hPair.1.symm, Or.inl ⟨trivial, hPair.2.symm⟩⟩
  · simp only [hStatus, if_false] at hStore
    rcases Outcome.bind_eq_ok.mp hStore with
      ⟨written, hWrite, hStore⟩
    have hPair := Outcome.pure_eq_ok.mp hStore
    simp only [Prod.mk.injEq] at hPair
    refine ⟨hPair.1.symm, Or.inr ⟨hStatus, ?_⟩⟩
    rw [← hPair.2]
    exact hWrite

end CtePersistence

end RegEngine
