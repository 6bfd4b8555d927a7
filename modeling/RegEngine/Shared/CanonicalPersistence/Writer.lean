import RegEngine.Ingestion.StripeBilling.Usage
import RegEngine.Shared.CanonicalPersistence.LegacyDualWrite
import RegEngine.Shared.CtePersistence.Writes

/-
  The canonical event store: the single and the batch writer
  (`shared/canonical_persistence/writer.py`).

  Main declarations:
    * `CanonicalEventStore`
    * `CanonicalEventStore.persistEvent`
    * `CanonicalEventStore.persistEventsBatch`
-/

--------
-- Store, Results And Rows
--------

namespace RegEngine

open Python (Value Dict)
open CtePersistence (computeChainHash chainStart)

structure CanonicalEventStore where
  dualWrite : Bool := true
  skipChainWrite : Bool := false
  meterUsage : Bool := true
  deriving DecidableEq

/- `CanonicalStoreResult`; its `errors` are always empty. -/
structure CanonicalStoreResult where
  success : Bool
  eventId : Uuid
  sha256Hash : Option String
  chainHash : Option String
  idempotent : Bool
  legacyEventId : Option Uuid
  deriving DecidableEq

/- What an idempotent call reads of a row. -/
structure CanonicalStored where
  eventId : Uuid
  sha256Hash : Option String
  chainHash : Option String
  deriving DecidableEq

namespace CanonicalEventStore

/- The result of an event that is stored already. -/
def idempotentResult (stored : CanonicalStored) :
    CanonicalStoreResult where
  success := true
  eventId := stored.eventId
  sha256Hash := stored.sha256Hash
  chainHash := stored.chainHash
  idempotent := true
  legacyEventId := none

/- The stored values of a row. -/
def storedOf (row : TraceabilityEventRow) : CanonicalStored :=
  ⟨row.eventId, row.sha256Hash, row.chainHash⟩

/- The idempotency key, when it is a text that is not empty. -/
def dedupKey (event : TraceabilityEvent) : Option String :=
  match event.idempotencyKey with
  | some key => if key = "" then none else some key
  | none => none

/-
  `if not event.sha256_hash: event.prepare_for_persistence()`.
-/
def ensurePrepared
    (rt : Runtime)
    (event : TraceabilityEvent) :
    Except StoreError TraceabilityEvent :=
  match event.sha256Hash with
  | some hash =>
      if hash = "" then
        event.prepareForPersistence rt.sha256Hex
          (rawPayloadMaxBytes rt.rawPayloadMaxBytes)
      else
        .ok event
  | none =>
      event.prepareForPersistence rt.sha256Hex
        (rawPayloadMaxBytes rt.rawPayloadMaxBytes)

/- The content digest of a prepared event. -/
def eventHash (event : TraceabilityEvent) : String :=
  event.sha256Hash.getD ""

def eventRow (event : TraceabilityEvent) :
    TraceabilityEventRow where
  eventId := event.eventId
  tenantId := event.tenantId
  sourceSystem := event.sourceSystem.value
  sourceRecordId := event.sourceRecordId
  sourceFileId := event.sourceFileId
  ingestionRunId := event.ingestionRunId
  eventType := event.eventType
  eventTimestamp := event.eventTimestamp.instant
  eventTimezone := event.eventTimezone
  productReference := event.productReference
  lotReference := event.lotReference
  traceabilityLotCode := event.traceabilityLotCode
  quantity := event.quantity
  unitOfMeasure := event.unitOfMeasure
  fromEntityReference := event.fromEntityReference
  toEntityReference := event.toEntityReference
  fromFacilityReference := event.fromFacilityReference
  toFacilityReference := event.toFacilityReference
  transportReference := event.transportReference
  kdes := Value.toJson (.dict event.kdes)
  rawPayload := Value.toJson (.dict event.rawPayload)
  normalizedPayload :=
    Value.toJson (.dict event.normalizedPayload)
  provenanceMetadata :=
    Value.toJson (.dict event.provenanceMetadata.toDict)
  confidenceScore := event.confidenceScore
  status := event.status
  supersedesEventId := event.supersedesEventId
  schemaVersion := toString event.schemaVersion
  sha256Hash := event.sha256Hash
  chainHash := event.chainHash
  idempotencyKey := event.idempotencyKey
  epcisEventType := event.epcisEventType
  epcisAction := event.epcisAction
  epcisBizStep := event.epcisBizStep
  amendedAt := none

/- `_event_to_params`, with its check of the payload size. -/
def eventToParams
    (rt : Runtime)
    (event : TraceabilityEvent) :
    Except StoreError TraceabilityEventRow :=
  let maxBytes := rawPayloadMaxBytes rt.rawPayloadMaxBytes
  if maxBytes < event.rawPayloadSize then
    .error (.rawPayloadTooLarge event.rawPayloadSize maxBytes)
  else
    .ok (eventRow event)

--------
-- Transformation Links
--------

open Python (Value Dict)

/- The items that `for entry in value` gives. -/
def iterate (value : Value) : Except StoreError (List Value) :=
  match value with
  | .list items => .ok items
  | .dict entries => .ok (entries.map (fun entry => .str entry.1))
  | .str text =>
      .ok (text.toList.map (fun c => .str (String.singleton c)))
  | _ => .error (.typeError "object is not iterable")

/- The items of `value or []`. -/
def iterateOrNone (value : Value) :
    Except StoreError (List Value) :=
  if value.truthy then iterate value else .ok []

/- The entries of `kdes.inputs` by their lot code. -/
def inputsByTlc (kdes : Dict) :
    Except StoreError (List (String × Dict)) := do
  let inputs := Dict.get kdes "inputs"
  let items ← iterateOrNone inputs
  return items.filterMap (fun item =>
    match item with
    | .dict entry =>
        (Dict.get entry "traceability_lot_code").str?.map
          (fun tlc => (Python.strip tlc, entry))
    | _ => none)

/- The last entry under a lot code, or an empty one. -/
def inputDetail
    (inputs : List (String × Dict))
    (tlc : String) :
    Dict :=
  ((inputs.reverse.find? (fun entry =>
    entry.1 == tlc)).map Prod.snd).getD []

/- The event that a lot was last seen in. -/
def latestLotEvent
    (db : Db)
    (tenantId : Uuid)
    (tlc : String) :
    Option Uuid :=
  (Table.maxBy TraceabilityEventRow.eventTimestamp
    (db.traceabilityEvents.filter (fun row =>
      row.tenantId == tenantId &&
        row.traceabilityLotCode == tlc))).map
      TraceabilityEventRow.eventId

/- `None` or a text; other values cannot be bound to TEXT. -/
def textColumn (value : Value) : Option (Option String) :=
  match value with
  | .none => some none
  | .str text => some (some text)
  | _ => none

/- `float(value) if value is not None else None`. -/
def quantityColumn (rt : Runtime) (value : Value) :
    Option (Option Python.Float) :=
  match value with
  | .none => some none
  | given => (rt.floatOf given).map some

/- The link row of one input lot, unless building it fails. -/
def linkRow
    (rt : Runtime)
    (event : TraceabilityEvent)
    (processType : Value)
    (detail : Dict)
    (inputTlc : String)
    (inputEventId : Option Uuid) :
    Option TransformationLinkRow :=
  match quantityColumn rt (Dict.get detail "quantity"),
      textColumn (Dict.get detail "unit_of_measure"),
      textColumn processType with
  | some quantity, some unit, some process =>
      some
        { tenantId := event.tenantId
          transformationEventId := event.eventId
          inputTlc := inputTlc
          inputEventId := inputEventId
          inputQuantity := quantity
          inputUnit := unit
          outputTlc := event.traceabilityLotCode
          outputEventId := event.eventId
          outputQuantity := event.quantity
          outputUnit := event.unitOfMeasure
          processType := process
          confidenceScore := "1.0"
          linkSource := "explicit" }
  | _, _, _ => none

/- The process type, named after the event when it is a packing. -/
def linkProcessType (event : TraceabilityEvent) : Value :=
  let processType := Dict.get event.kdes "process_type"
  if !processType.truthy && event.eventType = .initialPacking then
    .str "initial_packing"
  else
    processType

/- The input lots of an event that makes lineage. -/
def inputLotCodes (event : TraceabilityEvent) : List String :=
  if event.eventType = .transformation ∨
      event.eventType = .initialPacking then
    match Dict.get event.kdes "input_lot_codes" with
    | .list items =>
        (items.filterMap Value.str?).filter (fun text =>
          text != "")
    | _ => []
  else
    []

/- Whether `kdes.input_lot_codes` is a list with items. -/
def namesInputLots (event : TraceabilityEvent) : Bool :=
  (event.eventType = .transformation ||
      event.eventType = .initialPacking) &&
    match Dict.get event.kdes "input_lot_codes" with
    | .list items => !items.isEmpty
    | _ => false

/- The link of one input lot, skipped when it cannot be built. -/
def linkInput
    (rt : Runtime)
    (event : TraceabilityEvent)
    (inputs : List (String × Dict))
    (db : Db)
    (tlc : String) :
    Db :=
  match linkRow rt event (linkProcessType event)
      (inputDetail inputs (Python.strip tlc))
      (Python.strip tlc)
      (latestLotEvent db event.tenantId (Python.strip tlc)) with
  | some row => db.insertTransformationLink row
  | none => db

/-
  `_create_transformation_links`; `kdes.inputs` that cannot be
  iterated raises.
-/
def createTransformationLinks
    (rt : Runtime)
    (db : Db)
    (event : TraceabilityEvent) :
    Except StoreError Db :=
  if namesInputLots event then do
    let inputs ← inputsByTlc event.kdes
    return (inputLotCodes event).foldl
      (linkInput rt event inputs) db
  else
    .ok db

--------
-- The Single Writer
--------

open CtePersistence (computeChainHash chainStart)

/-
  The chain hash that a store without chain writes reuses:
  that of the ledger row of the event, which must bind the
  same content.
-/
def linkedChainHash
    (db : Db)
    (event : TraceabilityEvent)
    (chainHash : String) :
    Except StoreError String :=
  match db.hashChain.find? (fun row =>
      row.tenantId == event.tenantId &&
        row.cteEventId == event.eventId) with
  | none => .ok chainHash
  | some linked =>
      if linked.eventHash = eventHash event then
        .ok linked.chainHash
      else
        .error (.valueError
          "Canonical content does not match the existing ledger event hash")

/-
  `UPDATE fsma.traceability_events SET status = 'superseded',
  amended_at = NOW()` on an active row of the tenant.
-/
def markSuperseded
    (db : Db)
    (now : Datetime)
    (tenantId target : Uuid) :
    Db :=
  { db with
    traceabilityEvents :=
      db.traceabilityEvents.map (fun row =>
        if row.eventId = target ∧ row.tenantId = tenantId ∧
            row.status = .active then
          { row with
            status := .superseded
            amendedAt := some now.instant }
        else
          row) }

/- The amendment step of the single writer. -/
def supersede
    (db : Db)
    (now : Datetime)
    (event : TraceabilityEvent) :
    Except StoreError Db :=
  match event.supersedesEventId with
  | none => .ok db
  | some target =>
      if target = event.eventId then
        .error (.valueError "Event cannot supersede itself")
      else
        .ok (markSuperseded db now event.tenantId target)

/-
  `_insert_chain_entry`: guarded by the existence of the
  canonical row.
-/
def insertGuardedChainEntry
    (db : Db)
    (row : HashChainRow) :
    Except StoreError Db :=
  if db.traceabilityEvents.any (fun event =>
      event.eventId == row.cteEventId &&
        event.tenantId == row.tenantId) then
    db.insertChainEntry row
  else
    .ok db

def chainRow
    (event : TraceabilityEvent)
    (sequenceNum : Int)
    (previousChainHash : Option String)
    (chainHash : String) :
    HashChainRow where
  tenantId := event.tenantId
  cteEventId := event.eventId
  sequenceNum := sequenceNum
  eventHash := eventHash event
  previousChainHash := previousChainHash
  chainHash := chainHash

def chainStep
    (store : CanonicalEventStore)
    (db : Db)
    (row : HashChainRow) :
    Except StoreError Db :=
  if store.skipChainWrite then .ok db
  else insertGuardedChainEntry db row

/- The usage step of a store. -/
def meter
    (store : CanonicalEventStore)
    (db : Db)
    (event : TraceabilityEvent) :
    Except StoreError Db :=
  if store.meterUsage then do
    let counted ←
      Usage.incrementUsageForEvent db event.tenantId
        event.eventId event.eventTimestamp
    return counted.2
  else
    .ok db

/- The legacy copy of a store that writes twice. -/
def dualWriteStep
    (store : CanonicalEventStore)
    (db : Db)
    (event : TraceabilityEvent) :
    Except StoreError (Option Uuid × Db) :=
  if store.dualWrite then do
    let copied ← LegacyDualWrite.dualWriteLegacy db event
    return (some copied.1, copied.2)
  else
    .ok (none, db)

def insertedResult
    (event : TraceabilityEvent)
    (legacyId : Option Uuid) :
    CanonicalStoreResult where
  success := true
  eventId := event.eventId
  sha256Hash := event.sha256Hash
  chainHash := event.chainHash
  idempotent := false
  legacyEventId := legacyId

/- The steps of `persist_event` after the canonical insert. -/
def afterInsert
    (store : CanonicalEventStore)
    (rt : Runtime)
    (now : Datetime)
    (event : TraceabilityEvent)
    (chainEntry : HashChainRow)
    (db : Db) :
    Except StoreError (CanonicalStoreResult × Db) := do
  let metered ← store.meter db event
  let amended ← supersede metered now event
  let chained ← store.chainStep amended chainEntry
  let copied ← store.dualWriteStep chained event
  let linked ← createTransformationLinks rt copied.2 event
  return (insertedResult event copied.1, linked)

/- The stored event under the key of an event. -/
def lookup
    (db : Db)
    (event : TraceabilityEvent) :
    Option CanonicalStored :=
  match dedupKey event with
  | none => none
  | some key =>
      (db.findByKey event.tenantId key).map storedOf

/- The chain hash that a store gives to an event. -/
def eventChainHash
    (store : CanonicalEventStore)
    (db : Db)
    (event : TraceabilityEvent)
    (computed : String) :
    Except StoreError String :=
  if store.skipChainWrite then linkedChainHash db event computed
  else .ok computed

/-
  The stored event that won the idempotency race, when the
  insert returned no row.
-/
def lostRace
    (inserted : Db × List TraceabilityEventRow)
    (event : TraceabilityEvent) :
    Option CanonicalStored :=
  if inserted.2.isEmpty then lookup inserted.1 event else none

/- `persist_event` after the first idempotency check. -/
def persistNewEvent
    (store : CanonicalEventStore)
    (rt : Runtime)
    (now : Datetime)
    (event : TraceabilityEvent)
    (db : Db) :
    Except StoreError (CanonicalStoreResult × Db) := do
  let start := chainStart db event.tenantId
  let chainHash ←
    store.eventChainHash db event
      (computeChainHash rt.sha256Hex (eventHash event) start.1)
  let chained := { event with chainHash := some chainHash }
  let row ← eventToParams rt chained
  let inserted ← db.insertTraceabilityEvents [row]
  let entry := chainRow chained start.2 start.1 chainHash
  match lostRace inserted chained with
  | some existing =>
      return (idempotentResult existing, inserted.1)
  | none => store.afterInsert rt now chained entry inserted.1

/- `persist_event`. -/
def persistEvent
    (store : CanonicalEventStore)
    (rt : Runtime)
    (now : Datetime)
    (event : TraceabilityEvent)
    (db : Db) :
    Except StoreError (CanonicalStoreResult × Db) := do
  let prepared ← ensurePrepared rt event
  match lookup db prepared with
  | some existing => return (idempotentResult existing, db)
  | none => store.persistNewEvent rt now prepared db

--------
-- The Batch Writer
--------

/- `existing_map`: the stored events by key. -/
abbrev KeyMap := List (String × CanonicalStored)

/- `existing_map[key]`, when the key is there. -/
def KeyMap.find (existing : KeyMap) (key : String) :
    Option CanonicalStored :=
  (existing.find? (fun entry => entry.1 == key)).map Prod.snd

/- The tenant's rows under some keys. -/
def existingMap
    (db : Db)
    (tenantId : Uuid)
    (keys : List String) :
    KeyMap :=
  db.traceabilityEvents.filterMap (fun row =>
    match row.idempotencyKey with
    | some key =>
        if row.tenantId = tenantId ∧ key ∈ keys then
          some (key, storedOf row)
        else
          none
    | none => none)

/- The stored event under the key of an event of the batch. -/
def KeyMap.lookup
    (existing : KeyMap)
    (event : TraceabilityEvent) :
    Option CanonicalStored :=
  (dedupKey event).bind existing.find

/-
  What the loop of the batch computes before the inserts: the
  new events, their chain rows, and the result of each event.
-/
structure BatchPlan where
  newEvents : List TraceabilityEvent
  chainEntries : List HashChainRow
  results : List CanonicalStoreResult

/-
  The loop over the events. It carries the digest and the
  number of the next chain row, and the keys that are stored
  or already met in the batch.
-/
def planBatch (rt : Runtime) :
    Option String → Int → KeyMap → List TraceabilityEvent →
      BatchPlan
| _, _, _, [] => ⟨[], [], []⟩
| previousChainHash, nextSequence, existing, event :: rest =>
    match existing.lookup event with
    | some stored =>
        let plan :=
          planBatch rt previousChainHash nextSequence existing
            rest
        { plan with
          results := idempotentResult stored :: plan.results }
    | none =>
        let chainHash :=
          computeChainHash rt.sha256Hex (eventHash event)
            previousChainHash
        let chained := { event with chainHash := some chainHash }
        let known :=
          match dedupKey event with
          | none => existing
          | some key =>
              existing ++
                [(key, ⟨event.eventId, event.sha256Hash,
                  some chainHash⟩)]
        let plan :=
          planBatch rt (some chainHash) (nextSequence + 1) known
            rest
        { newEvents := chained :: plan.newEvents
          chainEntries :=
            chainRow event nextSequence previousChainHash
              chainHash :: plan.chainEntries
          results :=
            insertedResult chained none :: plan.results }

/- `_batch_insert_canonical_events`: one statement. -/
def batchInsertCanonicalEvents
    (rt : Runtime)
    (db : Db)
    (events : List TraceabilityEvent) :
    Except StoreError (Db × List Uuid) := do
  let rows ← events.mapM (eventToParams rt)
  let inserted ← db.insertTraceabilityEvents rows
  return (inserted.1,
    inserted.2.map TraceabilityEventRow.eventId)

/- The statements for the chunks of the new events. -/
def insertChunks
    (rt : Runtime)
    (db : Db) :
    List (List TraceabilityEvent) →
      Except StoreError (Db × List Uuid)
| [] => .ok (db, [])
| chunk :: rest => do
    let inserted ← batchInsertCanonicalEvents rt db chunk
    let later ← insertChunks rt inserted.1 rest
    return (later.1, inserted.2 ++ later.2)

/-
  The reconciliation of events that lost the idempotency
  race: the last result under a lost key is replaced by that
  of the stored row.
-/
def reconcile
    (db : Db)
    (tenantId : Uuid)
    (events lost : List TraceabilityEvent)
    (results : List CanonicalStoreResult) :
    List CanonicalStoreResult :=
  let winners :=
    existingMap db tenantId (lost.filterMap dedupKey)
  results.mapIdx (fun index result =>
    match events[index]? with
    | none => result
    | some event =>
        let isLast :=
          !(events.drop (index + 1)).any (fun later =>
            (dedupKey later).isSome &&
              dedupKey later == dedupKey event)
        match winners.lookup event with
        | some stored =>
            if isLast then idempotentResult stored else result
        | none => result)

/- The steps of the batch after the canonical inserts. -/
def writeBatch
    (store : CanonicalEventStore)
    (rt : Runtime)
    (events : List TraceabilityEvent)
    (tenantId : Uuid)
    (plan : BatchPlan)
    (insertedIds : List Uuid)
    (db : Db) :
    Except StoreError (List CanonicalStoreResult × Db) := do
  let lost :=
    plan.newEvents.filter (fun event =>
      !insertedIds.contains event.eventId)
  let results :=
    if lost.isEmpty then plan.results
    else reconcile db tenantId events lost plan.results
  let chained ←
    (plan.chainEntries.filter (fun entry =>
      insertedIds.contains entry.cteEventId)).foldlM
        Db.insertChainEntry db
  let landed :=
    plan.newEvents.filter (fun event =>
      insertedIds.contains event.eventId)
  let linked ←
    landed.foldlM (createTransformationLinks rt) chained
  let metered ← landed.foldlM store.meter linked
  let copied ←
    landed.foldlM (fun current event => do
      let copied ← store.dualWriteStep current event
      return copied.2) metered
  return (results, copied)

/- The batch of one tenant, with its events prepared. -/
def persistPrepared
    (store : CanonicalEventStore)
    (rt : Runtime)
    (tenantId : Uuid)
    (events : List TraceabilityEvent)
    (db : Db) :
    Except StoreError (List CanonicalStoreResult × Db) := do
  let existing :=
    existingMap db tenantId (events.filterMap dedupKey)
  let start := chainStart db tenantId
  let plan := planBatch rt start.1 start.2 existing events
  let inserted ←
    insertChunks rt db (Table.chunksOf 50 plan.newEvents)
  store.writeBatch rt events tenantId plan inserted.2 inserted.1

/- `persist_events_batch`. -/
def persistEventsBatch
    (store : CanonicalEventStore)
    (rt : Runtime)
    (events : List TraceabilityEvent)
    (db : Db) :
    Except StoreError (List CanonicalStoreResult × Db) :=
  match events with
  | [] => .ok ([], db)
  | first :: rest =>
      if rest.any (fun event =>
          event.tenantId != first.tenantId) then
        .error (.valueError
          "persist_events_batch requires a single-tenant batch")
      else do
        let prepared ← events.mapM (ensurePrepared rt)
        store.persistPrepared rt first.tenantId prepared db

end CanonicalEventStore

end RegEngine
