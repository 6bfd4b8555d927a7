import RegEngine.Ingestion.Webhook.Event
import RegEngine.Shared.CanonicalPersistence.Writer
import RegEngine.Shared.CtePersistence.Batch

/-
  `ingest_events` (`webhook_router_v2/routes.py`) and the
  canonical write of an event (`rules_eval.py`): the checks of
  each event, the batch attempt, the event-by-event fallback
  under savepoints, and the response.

  What the route calls outside of the two stores is a
  parameter: the checks that it asks for, and the exceptions
  that its hooks and its session raise.

  Main declarations:
    * `Webhook.Outside`
    * `Webhook.Session`
    * `Webhook.batchAttempt`
    * `Webhook.fallback`
-/

--------
-- Exceptions
--------

namespace RegEngine

namespace Webhook

/- The exception classes that the route's handlers tell apart. -/
inductive Raised where
  | valueError
  | typeError
  | runtimeError
  | attributeError
  | keyError
  | importError
  | sqlAlchemyError
  | other
  deriving DecidableEq

/- The class of an exception of the stores. -/
def Raised.ofStoreError : StoreError → Raised
| .valueError _ => .valueError
| .typeError _ => .typeError
| .rawPayloadTooLarge _ _ => .valueError
| .duplicateEvent _ _ => .other
| .overflowError => .other
| .integrityError _ => .sqlAlchemyError

/- A call of a store, with the class of its exception. -/
def ofStore {α : Type} (out : Except StoreError α) :
    Except Raised α :=
  match out with
  | .ok value => .ok value
  | .error raised => .error (.ofStoreError raised)

/- A call that raises, or returns nothing. -/
def failing (fault : Option Raised) : Except Raised Unit :=
  match fault with
  | none => .ok ()
  | some raised => .error raised

/- The handler around the batch attempt. -/
def batchHandler : List Raised :=
  [.valueError, .typeError, .runtimeError, .attributeError]

/- The handler around an event of the fallback. -/
def eventHandler : List Raised :=
  [.sqlAlchemyError, .valueError, .typeError, .runtimeError,
    .keyError]

/- The two attempts to store an event. -/
inductive Attempt where
  | batch
  | fallback
  deriving DecidableEq

/-
  The handlers around `learn_from_event`. That of the fallback
  has no `RuntimeError`.
-/
def learnHandler : Attempt → List Raised
| .batch =>
    [.importError, .sqlAlchemyError, .valueError, .typeError,
      .runtimeError, .keyError]
| .fallback =>
    [.importError, .sqlAlchemyError, .valueError, .typeError,
      .keyError]

--------
-- What The Route Calls
--------

open CtePersistence (StoreResult)

/-
  What the route calls outside of the stores: the checks, the
  values that are minted, and what raises where. An event that
  gets past the first check is met once in each attempt.
-/
structure Outside where
  validateKdes : IngestEvent → List String
  preeval :
    Attempt → IngestEvent → Except Raised (Option String)
  candidate : Attempt → IngestEvent → Minted
  canonical : Attempt → IngestEvent → Minted
  eventId : Attempt → IngestEvent → Uuid
  correlationId : IngestEvent → String
  batchFault : Option Raised
  savepointFault : IngestEvent → Option Raised
  storeFault : IngestEvent → Option Raised
  obligations :
    Attempt → IngestEvent →
      Except Raised (List ComplianceAlertRow)
  evaluate : Attempt → IngestEvent → Option Raised
  releaseFault : IngestEvent → Option Raised
  publish : Attempt → IngestEvent → Option Raised
  learn : Attempt → IngestEvent → Option Raised
  funnelFault : Option Raised
  commitFault : Option Raised

/- A request: its tenant, its clock and what it calls. -/
structure Request where
  rt : Runtime
  settings : Settings
  now : Datetime
  tenantId : Uuid
  source : String
  outside : Outside

/- `EventResult.status`. -/
inductive ResultStatus where
  | accepted
  | rejected
  deriving DecidableEq

/- `EventResult`. -/
structure EventResult where
  traceabilityLotCode : String
  cteType : String
  status : ResultStatus
  eventId : Option Uuid
  sha256Hash : Option String
  chainHash : Option String
  errors : List String
  deriving DecidableEq

/- `IngestResponse`, with its clock left out. -/
structure IngestResponse where
  accepted : Nat
  rejected : Nat
  total : Nat
  events : List EventResult
  deriving DecidableEq

/-
  The tables as the session sees them, the accumulators of the
  route, and the ids it has handed to the graph sync.
-/
structure Session where
  db : Db
  results : List EventResult
  accepted : Nat
  rejected : Nat
  billableEventIds : List Uuid
  published : List Uuid

namespace Session

/- The session at the start of the request. -/
def start (db : Db) : Session :=
  ⟨db, [], 0, 0, [], []⟩

/- An event is reported as rejected. -/
def reject
    (session : Session)
    (event : IngestEvent)
    (errors : List String) :
    Session :=
  { session with
    results :=
      session.results ++
        [⟨event.traceabilityLotCode, event.cteType.value,
          .rejected, none, none, none, errors⟩]
    rejected := session.rejected + 1 }

/- An event is reported as accepted, and is to be billed. -/
def accept
    (session : Session)
    (event : IngestEvent)
    (result : StoreResult) :
    Session :=
  { session with
    results :=
      session.results ++
        [⟨event.traceabilityLotCode, event.cteType.value,
          .accepted, some result.eventId,
          some result.sha256Hash, some result.chainHash, []⟩]
    accepted := session.accepted + 1
    billableEventIds :=
      session.billableEventIds ++ [result.eventId] }

/- The tables of a session, with an id handed on. -/
def publish
    (session : Session)
    (eventId : Uuid)
    (db : Db) :
    Session :=
  { session with
    db := db
    published := session.published ++ [eventId] }

end Session

--------
-- Checks
--------

/- Why an event is refused before any store sees it. -/
def refusal
    (request : Request)
    (seen : List String)
    (event : IngestEvent) :
    Option (List String) :=
  if batchKey event ∈ seen then
    some ["Duplicate event in batch — same CTE type, TLC, timestamp, and location"]
  else
    match validateEventTimestampWindow request.rt
        request.settings request.now event.timestamp with
    | some replayError => some [replayError]
    | none =>
        match request.outside.validateKdes event with
        | [] => none
        | errors => some errors

/- The first phase: the events that pass the checks. -/
def screen (request : Request) :
    List String → Session → List IngestEvent →
      Session × List IngestEvent
| _, session, [] => (session, [])
| seen, session, event :: rest =>
    match refusal request seen event with
    | some errors =>
        screen request (batchKey event :: seen)
          (session.reject event errors) rest
    | none =>
        let later :=
          screen request (batchKey event :: seen) session rest
        (later.1, event :: later.2)

/- The rules' verdict on the events, before they are stored. -/
def enforce (request : Request) :
    Session → List IngestEvent →
      Except Raised (Session × List IngestEvent)
| session, [] => .ok (session, [])
| session, event :: rest => do
    let verdict ← request.outside.preeval .batch event
    match verdict with
    | some reason =>
        enforce request
          (session.reject event ["rule_violation: " ++ reason])
          rest
    | none => do
        let later ← enforce request session rest
        return (later.1, event :: later.2)

--------
-- Storing An Event
--------

open CtePersistence (StoreResult CtePayload)

/- The store that `_persist_canonical_and_eval` opens. -/
def canonicalStore : CanonicalEventStore where
  dualWrite := false
  skipChainWrite := true

/-
  The canonical write of `_persist_canonical_and_eval`, under
  the id of the legacy row.
-/
def persistCanonical
    (request : Request)
    (attempt : Attempt)
    (event : IngestEvent)
    (eventId : Uuid)
    (db : Db) :
    Except StoreError (CanonicalStoreResult × Db) := do
  let canonical ←
    normalizeWebhookEvent request.rt request.settings
      (request.outside.canonical attempt event) event
      request.tenantId request.source
  let prepared ←
    prepare request.rt { canonical with eventId := eventId }
  canonicalStore.persistEvent request.rt request.now prepared db

/-
  `_persist_required_canonical_and_eval`. Whatever is raised
  inside leaves it as one exception that no handler of the
  route names.
-/
def persistRequiredCanonicalAndEval
    (request : Request)
    (attempt : Attempt)
    (event : IngestEvent)
    (eventId : Uuid)
    (db : Db) :
    Except Raised Db :=
  match persistCanonical request attempt event eventId db with
  | .error _ => .error .other
  | .ok stored =>
      match request.outside.evaluate attempt event with
      | some _ => .error .other
      | none => .ok stored.2

/- What must succeed in the transaction of a stored event. -/
def require
    (request : Request)
    (attempt : Attempt)
    (event : IngestEvent)
    (eventId : Uuid)
    (db : Db) :
    Except Raised Db := do
  let alerts ← request.outside.obligations attempt event
  persistRequiredCanonicalAndEval request attempt event eventId
    (alerts.foldl Db.insertComplianceAlert db)

/-
  What leaves the hooks that follow: the graph sync raises as
  it is, the catalog through its handler.
-/
def afterStore
    (request : Request)
    (attempt : Attempt)
    (event : IngestEvent) :
    Option Raised :=
  match request.outside.publish attempt event with
  | some raised => some raised
  | none =>
      match request.outside.learn attempt event with
      | none => none
      | some raised =>
          if raised ∈ learnHandler attempt then none
          else some raised

--------
-- The Batch Attempt
--------

/- `batch_dicts`, with the ids that the store mints. -/
def batchDicts
    (request : Request)
    (events : List IngestEvent) :
    Except Raised (List (Uuid × CtePayload)) :=
  events.mapM (fun event => do
    let canonical ←
      ofStore (normalizeWebhookEvent request.rt
        request.settings (request.outside.candidate .batch event)
        event request.tenantId request.source)
    return (request.outside.eventId .batch event,
      batchDict event canonical))

/- `store_events_batch`, or the failure of its session. -/
def storeBatch
    (request : Request)
    (dicts : List (Uuid × CtePayload))
    (db : Db) :
    Except Raised (List StoreResult × Db) := do
  failing request.outside.batchFault
  ofStore (CtePersistence.storeEventsBatch request.rt
    request.now request.tenantId request.source dicts db)

/-
  The loop over the results of the store. An event is reported
  as accepted first; what follows may still raise.
-/
def batchLoop (request : Request) :
    Session → List (StoreResult × IngestEvent) →
      Session × Option Raised
| session, [] => (session, none)
| session, (result, event) :: rest =>
    let booked := session.accept event result
    match require request .batch event result.eventId
        session.db with
    | .error raised => (booked, some raised)
    | .ok db =>
        let stored := booked.publish result.eventId db
        match afterStore request .batch event with
        | some raised => (stored, some raised)
        | none => batchLoop request stored rest

/- The batch attempt, with the exception that ends it. -/
def batchAttempt
    (request : Request)
    (session : Session)
    (dicts : List (Uuid × CtePayload))
    (events : List IngestEvent) :
    Session × Option Raised :=
  match storeBatch request dicts session.db with
  | .error raised => (session, some raised)
  | .ok stored =>
      batchLoop request { session with db := stored.2 }
        (stored.1.zip events)

--------
-- The Fallback
--------

/- What the savepoint of an event holds, up to its release. -/
def storeOne
    (request : Request)
    (event : IngestEvent)
    (db : Db) :
    Except Raised (StoreResult × Db) := do
  failing (request.outside.storeFault event)
  let canonical ←
    ofStore (normalizeWebhookEvent request.rt request.settings
      (request.outside.candidate .fallback event) event
      request.tenantId request.source)
  let stored ←
    ofStore (CtePersistence.storeEvent request.rt request.now
      request.tenantId request.source
      (request.outside.eventId .fallback event)
      (batchDict event canonical) db)
  let required ←
    require request .fallback event stored.1.eventId stored.2
  failing (request.outside.releaseFault event)
  return (stored.1, required)

/- The report of an event whose savepoint is rolled back. -/
def storageError
    (request : Request)
    (session : Session)
    (event : IngestEvent) :
    Session :=
  session.reject event
    ["Internal storage error (correlation: " ++
      request.outside.correlationId event ++ ")"]

/-
  An event of the fallback. The handler is the same before and
  after the release of the savepoint; after it, the rollback
  finds the savepoint closed and the event stays stored.
-/
def fallbackEvent
    (request : Request)
    (session : Session)
    (event : IngestEvent) :
    Except Raised Session := do
  let verdict ← request.outside.preeval .fallback event
  match verdict with
  | some reason =>
      return session.reject event ["rule_violation: " ++ reason]
  | none => do
      failing (request.outside.savepointFault event)
      match storeOne request event session.db with
      | .error raised =>
          if raised ∈ eventHandler then
            return storageError request session event
          else
            .error raised
      | .ok stored =>
          let done :=
            (session.accept event stored.1).publish
              stored.1.eventId stored.2
          match afterStore request .fallback event with
          | none => return done
          | some raised =>
              if raised ∈ eventHandler then
                return storageError request done event
              else
                .error raised

/- The fallback over the events. -/
def fallback
    (request : Request)
    (session : Session)
    (events : List IngestEvent) :
    Except Raised Session :=
  events.foldlM (fallbackEvent request) session

--------
-- The Route
--------

/-
  The events that are left are stored: all of them at once, or
  each on its own after a failure that the route handles. The
  failed attempt is rolled back and its reports are dropped;
  the ids it has handed to the graph sync are out.
-/
def persistValid
    (request : Request)
    (session : Session)
    (events : List IngestEvent) :
    Except Raised Session :=
  if events.isEmpty then
    .ok session
  else do
    let dicts ← batchDicts request events
    let tried := batchAttempt request session dicts events
    match tried.2 with
    | none => return tried.1
    | some raised =>
        if raised ∈ batchHandler then
          fallback request
            { session with published := tried.1.published }
            events
        else
          .error raised

/-
  `ingest_events`: the response, and the session whose tables
  are committed and whose ids are billed. Whatever is raised
  rolls the session back and leaves no response.
-/
def ingestEvents
    (request : Request)
    (events : List IngestEvent)
    (db : Db) :
    Except Raised (IngestResponse × Session) := do
  let screened := screen request [] (.start db) events
  let kept ← enforce request screened.1 screened.2
  let done ← persistValid request kept.1 kept.2
  if 0 < done.accepted then
    failing request.outside.funnelFault
  failing request.outside.commitFault
  return (⟨done.accepted, done.rejected, events.length,
    done.results⟩, done)

end Webhook

end RegEngine
