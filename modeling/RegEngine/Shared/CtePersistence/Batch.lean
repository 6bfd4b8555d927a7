import RegEngine.Shared.CtePersistence.Writes

/-
  The batch writer of the legacy store
  (`shared/cte_persistence/batch.py`): keys and validation for
  the whole batch first, then the rows computed in memory from
  one read of the chain head, then the inserts table by table.

  Main declarations:
    * `CtePersistence.planBatch`
    * `CtePersistence.storeEventsBatch`
-/

--------
-- Planning
--------

namespace RegEngine

open Python (Value Dict)

namespace CtePersistence

/- `existing_map`: the stored events by key. -/
abbrev ExistingMap := List (String × Stored)

/- `existing_map[key]`, when the key is there. -/
def ExistingMap.find (existing : ExistingMap) (key : String) :
    Option Stored :=
  (existing.find? (fun entry => entry.1 == key)).map Prod.snd

/- The tenant's rows under the keys of the batch. -/
def existingMap
    (db : Db)
    (tenantId : Uuid)
    (keys : List String) :
    ExistingMap :=
  db.cteEvents.filterMap (fun row =>
    match row.idempotencyKey with
    | some key =>
        if row.tenantId = tenantId ∧ key ∈ keys then
          some (key, storedOf row)
        else
          none
    | none => none)

/- The rows and results computed before the first insert. -/
structure BatchPlan where
  eventRows : List CteEventRow
  kdeRows : List CteKdeRow
  chainRows : List HashChainRow
  alertRows : List (Uuid × ValidationItem)
  results : List StoreResult

def BatchPlan.empty : BatchPlan :=
  ⟨[], [], [], [], []⟩

/- `float(raw_qty)`, which must be positive. -/
def batchQuantity
    (rt : Runtime)
    (quantity : Value) :
    Except StoreError Python.Float :=
  match quantity with
  | .none =>
      .error (.valueError "quantity is required for CTE event")
  | given =>
      match rt.floatOf given with
      | none =>
          .error (.valueError "quantity must be numeric")
      | some value =>
          if value.nonpos then
            .error (.valueError "quantity must be > 0")
          else
            .ok value

/- A plan with the rows of one new event before its own. -/
def BatchPlan.addNew
    (plan : BatchPlan)
    (tenantId : Uuid)
    (p : Prepared)
    (eventRow : CteEventRow)
    (chainRow : HashChainRow)
    (result : StoreResult) :
    BatchPlan :=
  if eventRow.validationStatus = .rejected then
    { plan with
      eventRows := eventRow :: plan.eventRows
      results := result :: plan.results }
  else
    { eventRows := eventRow :: plan.eventRows
      kdeRows :=
        CtePersistence.kdeRows tenantId p.eventId
            p.payload.kdes ++
          plan.kdeRows
      chainRows := chainRow :: plan.chainRows
      alertRows :=
        p.payload.alerts.map (fun alert => (p.eventId, alert)) ++
          plan.alertRows
      results := result :: plan.results }

/- The chain moves on for accepted events only. -/
def advance
    (status : ValidationStatus)
    (previousChainHash : Option String)
    (nextSequence : Int)
    (chainHash : String) :
    Option String × Int :=
  if status = .rejected then (previousChainHash, nextSequence)
  else (some chainHash, nextSequence + 1)

/-
  The loop over the prepared events. It carries the digest
  and the number of the next chain row, and the keys that are
  stored or already met in the batch. The entry time is the
  clock: the rows carry no entry time of their own.
-/
def planBatch
    (rt : Runtime)
    (now : Datetime)
    (tenantId : Uuid)
    (source : String)
    (db : Db) :
    Option String → Int → ExistingMap → List Prepared →
      Except StoreError BatchPlan
| _, _, _, [] => .ok BatchPlan.empty
| previousChainHash, nextSequence, existing, p :: rest =>
    match existing.find p.idempKey with
    | some stored => do
        let plan ←
          planBatch rt now tenantId source db previousChainHash
            nextSequence existing rest
        return { plan with
          results := stored.result :: plan.results }
    | none => do
        let status :=
          deriveValidationStatus p.payload.alerts
            p.payload.validatorResults
        let quantity ← batchQuantity rt p.payload.quantity
        let sha256Hash ←
          payloadHash rt tenantId p.eventId p.payload
            p.eventType quantity.repr p.eventDt.isoformat
        assertNotExists db tenantId sha256Hash
        let chainHash :=
          computeChainHash rt.sha256Hex sha256Hash
            previousChainHash
        let known :=
          existing ++
            [(p.idempKey, ⟨p.eventId, sha256Hash, chainHash⟩)]
        let next :=
          advance status previousChainHash nextSequence chainHash
        let plan ←
          planBatch rt now tenantId source db next.1 next.2 known
            rest
        return plan.addNew tenantId p
          (cteEventRow tenantId source p quantity now.instant
            sha256Hash chainHash status)
          (chainRow tenantId p nextSequence sha256Hash
            previousChainHash chainHash)
          (insertedResult p sha256Hash chainHash status)

--------
-- Writing
--------

/-
  `INSERT … ON CONFLICT (tenant_id, idempotency_key) DO
  NOTHING RETURNING id`, in chunks of fifty rows. A chunk that
  fails fails the transaction, so the rows may be read as
  inserted one after another.
-/
def insertEventRows
    (db : Db)
    (rows : List CteEventRow) :
    Except StoreError (Db × List Uuid) := do
  let out ←
    Table.insertRows CteEventRow.constraints db.cteEvents rows
  return ({ db with cteEvents := out.1 },
    out.2.map CteEventRow.id)

/-
  The reconciliation of rows that lost the idempotency race:
  the last result under a lost key is replaced by that of the
  stored row.
-/
def reconcile
    (db : Db)
    (tenantId : Uuid)
    (prepared : List Prepared)
    (lostKeys : List String)
    (results : List StoreResult) :
    List StoreResult :=
  let winners := existingMap db tenantId lostKeys
  results.mapIdx (fun index result =>
    match prepared[index]? with
    | none => result
    | some p =>
        let isLast :=
          !(prepared.drop (index + 1)).any (fun later =>
            later.idempKey == p.idempKey)
        match winners.find p.idempKey with
        | some stored =>
            if isLast then stored.result else result
        | none => result)

/- The inserts of a plan, table by table. -/
def writePlan
    (db : Db)
    (tenantId : Uuid)
    (prepared : List Prepared)
    (plan : BatchPlan) :
    Except StoreError (List StoreResult × Db) := do
  let inserted ← insertEventRows db plan.eventRows
  let lostKeys :=
    (plan.eventRows.filter (fun row =>
      !inserted.2.contains row.id)).filterMap
        CteEventRow.idempotencyKey
  let results :=
    if lostKeys.isEmpty then plan.results
    else
      reconcile inserted.1 tenantId prepared lostKeys plan.results
  let withKdes ← plan.kdeRows.foldlM Db.insertCteKde inserted.1
  let withChain ←
    plan.chainRows.foldlM insertGuardedChainEntry withKdes
  let withAlerts :=
    ((plan.alertRows.filter (fun entry =>
      inserted.2.contains entry.1)).map (fun entry =>
        alertInsertParams tenantId entry.1 entry.2)).foldl
      Db.insertComplianceAlert withChain
  return (results, withAlerts)

/- `store_events_batch`, on events with generated ids. -/
def storeEventsBatch
    (rt : Runtime)
    (now : Datetime)
    (tenantId : Uuid)
    (source : String)
    (events : List (Uuid × CtePayload))
    (db : Db) :
    Except StoreError (List StoreResult × Db) :=
  if events.isEmpty then
    .ok ([], db)
  else do
    let prepared ←
      events.mapM (fun event =>
        prepareEvent rt now source event.1 event.2)
    let existing :=
      existingMap db tenantId (prepared.map Prepared.idempKey)
    let start := chainStart db tenantId
    let plan ←
      planBatch rt now tenantId source db start.1 start.2
        existing prepared
    writePlan db tenantId prepared plan

end CtePersistence

end RegEngine
