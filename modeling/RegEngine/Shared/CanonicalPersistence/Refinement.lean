import RegEngine.Shared.CanonicalPersistence.BatchPlan

/-
  The canonical batch writer against the single writer on the
  same events in turn. The batch takes each of its steps for
  all new events before the next step; the single writer takes
  all steps for one event before the next event. The steps
  write different tables, so that their order does not matter,
  but the batch leaves out the amendment step, the legacy id
  of its results and the option that skips the chain, and it
  looks input lots up when all rows are in.

  Main declarations:
    * `CanonicalEventStore.persistEach`
    * `CanonicalEventStore.newEvents`
    * `CanonicalEventStore.persistEventsBatch_refines`
-/

--------
-- Events In Turn
--------

namespace RegEngine

namespace CanonicalEventStore

/- `persist_event` on the events one after another. -/
def persistEach
    (store : CanonicalEventStore)
    (rt : Runtime)
    (now : Datetime) :
    List TraceabilityEvent → Db →
      Except StoreError (List CanonicalStoreResult × Db)
| [], db => .ok ([], db)
| event :: rest, db => do
    let first ← store.persistEvent rt now event db
    let later ← persistEach store rt now rest first.2
    return (first.1 :: later.1, later.2)

/- `persist_event` on an event that is prepared. -/
def persistOnePrepared
    (store : CanonicalEventStore)
    (rt : Runtime)
    (now : Datetime)
    (event : TraceabilityEvent)
    (db : Db) :
    Except StoreError (CanonicalStoreResult × Db) :=
  match lookup db event with
  | some existing => .ok (idempotentResult existing, db)
  | none => store.persistNewEvent rt now event db

def persistEachPrepared
    (store : CanonicalEventStore)
    (rt : Runtime)
    (now : Datetime) :
    List TraceabilityEvent → Db →
      Except StoreError (List CanonicalStoreResult × Db)
| [], db => .ok ([], db)
| event :: rest, db => do
    let first ← store.persistOnePrepared rt now event db
    let later ← persistEachPrepared store rt now rest first.2
    return (first.1 :: later.1, later.2)

variable {db : Db} {now : Datetime} {event : TraceabilityEvent}

/- Events are prepared alone, before or in their turn. -/
theorem persistEach_eq
    {store : CanonicalEventStore}
    {rt : Runtime}
    {events prepared : List TraceabilityEvent}
    (hPrepared :
      events.mapM (ensurePrepared rt) = .ok prepared) :
    store.persistEach rt now events db =
      store.persistEachPrepared rt now prepared db := by
  induction events generalizing prepared db with
  | nil =>
      rw [List.mapM_nil] at hPrepared
      rw [← Outcome.pure_eq_ok.mp hPrepared]
      rfl
  | cons event rest ih =>
      rw [List.mapM_cons] at hPrepared
      rcases Outcome.bind_eq_ok.mp hPrepared with
        ⟨first, hFirst, hPrepared⟩
      rcases Outcome.bind_eq_ok.mp hPrepared with
        ⟨later, hLater, hPrepared⟩
      rw [← Outcome.pure_eq_ok.mp hPrepared]
      have hEvent :
          store.persistEvent rt now event db =
            store.persistOnePrepared rt now first db := by
        rw [persistEvent, hFirst]
        rfl
      simp only [persistEach, persistEachPrepared, hEvent,
        ih hLater]

--------
-- Sightings
--------

/- What the writers read of a row that is there already. -/
structure Sighting where
  eventId : Uuid
  tenantId : Uuid
  status : EventStatus
  idempotencyKey : Option String
  traceabilityLotCode : String
  eventTimestamp : Int
  deriving DecidableEq

def sightingOf (row : TraceabilityEventRow) : Sighting where
  eventId := row.eventId
  tenantId := row.tenantId
  status := row.status
  idempotencyKey := row.idempotencyKey
  traceabilityLotCode := row.traceabilityLotCode
  eventTimestamp := row.eventTimestamp

/- The sighting of an event, once it is stored. -/
def sighting (event : TraceabilityEvent) : Sighting :=
  sightingOf (eventRow event)

def sightings (db : Db) : List Sighting :=
  db.traceabilityEvents.map sightingOf

/- The event that a lot was last seen in. -/
def lastSeen
    (seen : List Sighting)
    (tenantId : Uuid)
    (tlc : String) : Option Uuid :=
  (Table.maxBy Sighting.eventTimestamp
    (seen.filter (fun one =>
      one.tenantId == tenantId &&
        one.traceabilityLotCode == tlc))).map
      Sighting.eventId

/- Lots are looked up in the sightings. -/
theorem latestLotEvent_eq
    (db : Db)
    (tenantId : Uuid)
    (tlc : String) :
    latestLotEvent db tenantId tlc =
      lastSeen (sightings db) tenantId tlc := by
  unfold latestLotEvent lastSeen sightings
  rw [List.filter_map, Table.maxBy_map, Option.map_map]
  rfl

/- An event that the writers find by its key. -/
def isStored
    (seen : List Sighting)
    (event : TraceabilityEvent) : Bool :=
  match dedupKey event with
  | none => false
  | some key =>
      seen.any (fun one =>
        one.tenantId == event.tenantId &&
          one.idempotencyKey == some key)

/- The lookup finds the events that are stored. -/
theorem lookup_isSome
    (db : Db)
    (event : TraceabilityEvent) :
    (lookup db event).isSome =
      isStored (sightings db) event := by
  unfold lookup isStored
  cases dedupKey event with
  | none => rfl
  | some key =>
      simp only [Option.isSome_map, Db.findByKey,
        List.isSome_find?, sightings, List.any_map]
      rfl

/- The events of a batch that are stored anew. -/
def newEvents :
    List Sighting → List TraceabilityEvent →
      List TraceabilityEvent
| _, [] => []
| seen, event :: rest =>
    if isStored seen event then
      newEvents seen rest
    else
      event :: newEvents (seen ++ [sighting event]) rest

--------
-- Events That Are Written Alike
--------

/-
  No row of the tenant has the key of the event. Of an event
  that is not found, only the empty key can be taken.
-/
def keyFree
    (seen : List Sighting)
    (event : TraceabilityEvent) : Bool :=
  seen.all (fun one =>
    !(event.tenantId == one.tenantId &&
      sameKey event.idempotencyKey one.idempotencyKey))

/-
  The event amends nothing: it names no event, or another that
  is stored before it and is not an active one of its tenant.
-/
def amendsNothing
    (seen : List Sighting)
    (event : TraceabilityEvent) : Bool :=
  match event.supersedesEventId with
  | none => true
  | some target =>
      target != event.eventId &&
        seen.any (fun one => one.eventId == target) &&
        seen.all (fun one =>
          !(one.eventId == target &&
            one.tenantId == event.tenantId &&
            one.status == .active))

/-
  The input lots of the event were last seen in the same
  events before and after the events that come later.
-/
def lotsSettled
    (seen later : List Sighting)
    (event : TraceabilityEvent) : Bool :=
  (inputLotCodes event).all (fun code =>
    lastSeen (seen ++ sighting event :: later) event.tenantId
        (Python.strip code) ==
      lastSeen (seen ++ [sighting event]) event.tenantId
        (Python.strip code))

/- New events that meet all three in turn. -/
def settled :
    List Sighting → List TraceabilityEvent → Bool
| _, [] => true
| seen, event :: rest =>
    keyFree seen event && amendsNothing seen event &&
      lotsSettled seen (rest.map sighting) event &&
      settled (seen ++ [sighting event]) rest

/-
  A batch that the store writes as it writes its events in
  turn: it has no new event, or the store writes its chain and
  no legacy copy and the new events are settled.
-/
def writesAlike
    (store : CanonicalEventStore)
    (db : Db)
    (prepared : List TraceabilityEvent) : Bool :=
  let new := newEvents (sightings db) prepared
  (new.isEmpty ||
      (!store.skipChainWrite && !store.dualWrite)) &&
    settled (sightings db) new

theorem conflict_of_keyFree
    {rows : List TraceabilityEventRow}
    (hFree : keyFree (rows.map sightingOf) event = true) :
    TraceabilityEventRow.constraints.conflict rows
      (eventRow event) = false := by
  simp only [keyFree, List.all_map, List.all_eq_true,
    Function.comp_apply, Bool.not_eq_true'] at hFree
  simp only [Table.Constraints.conflict, List.any_eq_false,
    Bool.not_eq_true]
  intro row hRow
  exact hFree row hRow

/- An event that amends nothing leaves the rows. -/
theorem supersede_of_amendsNothing
    {rows : List TraceabilityEventRow}
    (hRows : db.traceabilityEvents = rows ++ [eventRow event])
    (hAmends :
      amendsNothing (rows.map sightingOf) event = true) :
    supersede db now event = .ok db := by
  unfold supersede
  unfold amendsNothing at hAmends
  cases hTarget : event.supersedesEventId with
  | none => rfl
  | some target =>
      simp only [hTarget, Bool.and_eq_true, bne_iff_ne, ne_eq,
        List.all_eq_true, List.all_map] at hAmends
      rcases hAmends with ⟨⟨hOwn, -⟩, hOthers⟩
      simp only [hOwn, if_false, Except.ok.injEq,
        markSuperseded]
      have hEach :
          ∀ row ∈ db.traceabilityEvents,
            ¬ (row.eventId = target ∧
              row.tenantId = event.tenantId ∧
              row.status = .active) := by
        rintro row hRow ⟨hId, hTenant, hStatus⟩
        rw [hRows] at hRow
        rcases List.mem_append.mp hRow with hOld | hNew
        · have hOther := hOthers row hOld
          simp [sightingOf, hId, hTenant, hStatus] at hOther
        · rw [List.mem_singleton.mp hNew] at hId
          exact hOwn hId.symm
      rw [List.map_congr_left (fun row hRow =>
        if_neg (hEach row hRow)), List.map_id']

end CanonicalEventStore

end RegEngine

--------
-- The Steps Of One Event
--------

namespace RegEngine

namespace Db

def eventTable : Region Db (List TraceabilityEventRow) where
  get := Db.traceabilityEvents
  set db table := { db with traceabilityEvents := table }
  get_set _ _ := rfl
  set_get db := Eq.refl db
  set_set _ _ _ := rfl

def chainTable : Region Db (List HashChainRow) where
  get := Db.hashChain
  set db table := { db with hashChain := table }
  get_set _ _ := rfl
  set_get db := Eq.refl db
  set_set _ _ _ := rfl

theorem insertChainEntry_acts
    (row : HashChainRow) :
    chainTable.Acts (fun _ => ()) (fun db =>
      db.insertChainEntry row) := by
  refine ⟨fun _ table =>
    (Table.insertRow HashChainRow.constraints table row).map
      Prod.fst, ?_⟩
  intro db
  unfold insertChainEntry
  cases hRow :
      Table.insertRow HashChainRow.constraints db.hashChain
        row <;>
    simp [hRow, bind, Except.bind, Except.map, pure,
      Except.pure, chainTable]

end Db

namespace CanonicalEventStore

section

/- The insert of one canonical row. -/
def insertOne
    (rt : Runtime)
    (db : Db)
    (event : TraceabilityEvent) :
    Except StoreError Db := do
  let row ← eventToParams rt event
  let inserted ← db.insertTraceabilityEvents [row]
  return inserted.1

/- The links of an event, with its lots looked up in `seen`. -/
def linkSeen
    (rt : Runtime)
    (seen : List Sighting)
    (db : Db)
    (event : TraceabilityEvent) :
    Except StoreError Db :=
  if namesInputLots event then
    (inputsByTlc event.kdes).map (fun inputs =>
      { db with
        transformationLinks :=
          (inputLotCodes event).foldl
            (addInputLink rt event inputs
              (lastSeen seen event.tenantId))
            db.transformationLinks })
  else
    .ok db

/-
  The steps of the single writer for a new event that amends
  nothing, in the order in which it takes them.
-/
def eventSteps
    (store : CanonicalEventStore)
    (rt : Runtime)
    (seen : List Sighting)
    (db : Db)
    (item : TraceabilityEvent × HashChainRow) :
    Except StoreError Db := do
  let inserted ← insertOne rt db item.1
  let metered ← store.meter inserted item.1
  let chained ← metered.insertChainEntry item.2
  linkSeen rt seen chained item.1

/- The insert of a canonical row acts on its table. -/
theorem insertOne_acts
    (rt : Runtime)
    (event : TraceabilityEvent) :
    Db.eventTable.Acts Db.ingestionRuns (fun db =>
      insertOne rt db event) := by
  refine ⟨fun runs table => do
    let row ← eventToParams rt event
    let out ←
      Table.insertRows TraceabilityEventRow.constraints table
        [row]
    out.2.forM
      ({ Db.empty with
        ingestionRuns := runs
        traceabilityEvents := out.1 } :
          Db).checkReferences
    return out.1, ?_⟩
  intro db
  unfold insertOne Db.insertTraceabilityEvents
  cases eventToParams rt event with
  | error raised => rfl
  | ok row =>
      cases hRows :
          Table.insertRows TraceabilityEventRow.constraints
            db.traceabilityEvents [row] with
      | error raised =>
          simp [hRows, bind, Except.bind, Except.map,
            Db.eventTable]
      | ok out =>
          have hRefs :
              Db.checkReferences
                  { db with traceabilityEvents := out.1 } =
                Db.checkReferences
                  { Db.empty with
                    ingestionRuns := db.ingestionRuns
                    traceabilityEvents := out.1 } := rfl
          simp only [hRows, bind, Except.bind, Db.eventTable,
            hRefs]
          cases out.2.forM
              (Db.checkReferences
                { Db.empty with
                  ingestionRuns := db.ingestionRuns
                  traceabilityEvents := out.1 }) <;> rfl

/- Links with fixed lookups act on the table of links. -/
theorem linkSeen_acts
    (rt : Runtime)
    (seen : List Sighting)
    (event : TraceabilityEvent) :
    Db.linkTable.Acts (fun _ => ()) (fun db =>
      linkSeen rt seen db event) := by
  refine ⟨fun _ table =>
    if namesInputLots event then
      (inputsByTlc event.kdes).map (fun inputs =>
        (inputLotCodes event).foldl
          (addInputLink rt event inputs
            (lastSeen seen event.tenantId))
          table)
    else
      .ok table, ?_⟩
  intro db
  unfold linkSeen
  split
  · cases inputsByTlc event.kdes <;> rfl
  · rfl

variable {db : Db} {event : TraceabilityEvent} {rt : Runtime}
variable {entry : HashChainRow} {store : CanonicalEventStore}

/- Links read the lots they name, and nothing else. -/
theorem createTransformationLinks_eq
    {seen : List Sighting}
    (hLots :
      ∀ code ∈ inputLotCodes event,
        lastSeen seen event.tenantId (Python.strip code) =
          lastSeen (sightings db) event.tenantId
            (Python.strip code)) :
    createTransformationLinks rt db event =
      linkSeen rt seen db event := by
  unfold createTransformationLinks linkSeen
  split
  · cases inputsByTlc event.kdes with
    | error raised => rfl
    | ok inputs =>
        refine congrArg Except.ok ?_
        rw [foldl_linkInput_eq]
        congr 1
        apply List.foldl_ext
        intro table code hCode
        simp only [addInputLink, latestLotEvent_eq,
          hLots code hCode]
  · rfl

/- A row that is free lands. -/
theorem insertTraceabilityEvents_one
    {db db' : Db}
    {kept : List TraceabilityEventRow}
    (hFree : keyFree (sightings db) event = true)
    (hInsert :
      db.insertTraceabilityEvents [eventRow event] =
        .ok (db', kept)) :
    kept = [eventRow event] ∧
      db' =
        { db with
          traceabilityEvents :=
            db.traceabilityEvents ++ [eventRow event] } := by
  rcases Db.insertTraceabilityEvents_cases hInsert with
    ⟨hRows, -, hDb⟩
  have hKept : kept = [eventRow event] := by
    refine Table.insertRows_of_free ⟨?_, by simp⟩ hRows
    intro row hRow
    rw [List.mem_singleton.mp hRow]
    exact conflict_of_keyFree hFree
  exact ⟨hKept, by rw [hDb, hKept]⟩

/- The guard of a chain row whose event is stored. -/
theorem insertGuardedChainEntry_of_mem
    {row : TraceabilityEventRow}
    (hMem : row ∈ db.traceabilityEvents)
    (hId : row.eventId = entry.cteEventId)
    (hTenant : row.tenantId = entry.tenantId) :
    insertGuardedChainEntry db entry =
      db.insertChainEntry entry := by
  unfold insertGuardedChainEntry
  rw [if_pos]
  rw [List.any_eq_true]
  exact ⟨row, hMem, by simp [hId, hTenant]⟩

variable {later : List Sighting}

/- The steps after the insert of an event that is settled. -/
theorem afterInsert_eq
    {now : Datetime}
    {event : TraceabilityEvent}
    {rows : List TraceabilityEventRow}
    (hSkip : store.skipChainWrite = false)
    (hDual : store.dualWrite = false)
    (hRows : db.traceabilityEvents = rows ++ [eventRow event])
    (hId : event.eventId = entry.cteEventId)
    (hTenant : event.tenantId = entry.tenantId)
    (hAmends :
      amendsNothing (rows.map sightingOf) event = true)
    (hLots :
      lotsSettled (rows.map sightingOf) later event = true) :
    store.afterInsert rt now event entry db =
      (do
        let metered ← store.meter db event
        let chained ← metered.insertChainEntry entry
        linkSeen rt
          (rows.map sightingOf ++ sighting event :: later)
          chained event).map (fun db' =>
        (insertedResult event none, db')) := by
  unfold afterInsert
  cases hMeter : store.meter db event with
  | error raised => rfl
  | ok metered =>
      have hMetered :
          metered.traceabilityEvents =
            rows ++ [eventRow event] := by
        rw [(meter_acts store event).keeps
          (fun _ _ => rfl : Db.usageTables.Blind
            Db.traceabilityEvents) hMeter, hRows]
      have hChain :
          store.chainStep metered entry =
            metered.insertChainEntry entry := by
        rw [chainStep, hSkip]
        exact insertGuardedChainEntry_of_mem
          (hMetered ▸ by simp : eventRow event ∈ _) hId hTenant
      simp only [bind, Except.bind,
        supersede_of_amendsNothing hMetered hAmends, hChain]
      cases hEntry : metered.insertChainEntry entry with
      | error raised => rfl
      | ok chained =>
          have hSeen :
              sightings chained =
                rows.map sightingOf ++ [sighting event] := by
            rw [sightings,
              (Db.insertChainEntry_acts entry).keeps
                (fun _ _ => rfl : Db.chainTable.Blind
                  Db.traceabilityEvents) hEntry, hMetered,
              List.map_append]
            rfl
          have hLinks :
              createTransformationLinks rt chained event =
                linkSeen rt
                  (rows.map sightingOf ++
                    sighting event :: later) chained event := by
            apply createTransformationLinks_eq
            intro code hCode
            rw [hSeen]
            simp only [lotsSettled, List.all_eq_true,
              beq_iff_eq] at hLots
            exact hLots code hCode
          simp only [dualWriteStep, hDual, Bool.false_eq_true,
            if_false, hLinks]
          cases linkSeen rt
            (rows.map sightingOf ++ sighting event :: later)
            chained event <;> rfl

/-
  The single writer takes the steps of a settled event, with
  its lots looked up among all that will be seen.
-/
theorem persistNewEvent_eq
    {now : Datetime}
    {event : TraceabilityEvent}
    {db : Db}
    {previousChainHash : Option String}
    {nextSequence : Int}
    (hSkip : store.skipChainWrite = false)
    (hDual : store.dualWrite = false)
    (hStart :
      CtePersistence.chainStart db event.tenantId =
        (previousChainHash, nextSequence))
    (hFree : keyFree (sightings db) event = true)
    (hAmends : amendsNothing (sightings db) event = true)
    (hLots : lotsSettled (sightings db) later event = true) :
    store.persistNewEvent rt now event db =
      (store.eventSteps rt
        (sightings db ++ sighting event :: later) db
        (chainedAfter rt previousChainHash event,
          chainRowAfter rt nextSequence previousChainHash
            event)).map (fun db' =>
        (insertedResult
          (chainedAfter rt previousChainHash event) none,
          db')) := by
  have hChained :
      ({ event with
        chainHash :=
          some (CtePersistence.computeChainHash rt.sha256Hex
            (eventHash event) previousChainHash) } :
          TraceabilityEvent) =
        chainedAfter rt previousChainHash event := rfl
  simp only [persistNewEvent, eventSteps, insertOne, hStart,
    eventChainHash, hSkip, Bool.false_eq_true, if_false]
  simp only [bind, Except.bind, hChained]
  cases hRow :
      eventToParams rt
        (chainedAfter rt previousChainHash event) with
  | error raised => rfl
  | ok row =>
      have hRowEq := eventToParams_eq hRow
      cases hInsert : db.insertTraceabilityEvents [row] with
      | error raised =>
          simp only [hInsert]
          rfl
      | ok inserted =>
          have hFree' :
              keyFree (sightings db)
                (chainedAfter rt previousChainHash event) =
                  true := hFree
          rcases inserted with ⟨table, kept⟩
          rw [hRowEq] at hInsert
          rcases insertTraceabilityEvents_one hFree' hInsert with
            ⟨hKept, hDb⟩
          have hRace :
              lostRace (table, kept)
                  (chainedAfter rt previousChainHash event) =
                none := by
            simp [lostRace, hKept]
          simp only [hRowEq, hInsert, hRace]
          exact afterInsert_eq hSkip hDual (by rw [hDb]) rfl rfl
            hAmends hLots

/- The rows that the steps of an event leave. -/
theorem eventSteps_effect
    {seen : List Sighting}
    {db db' : Db}
    (hFree : keyFree (sightings db) event = true)
    (hSteps :
      store.eventSteps rt seen db (event, entry) = .ok db') :
    db'.traceabilityEvents =
        db.traceabilityEvents ++ [eventRow event] ∧
      db'.hashChain = db.hashChain ++ [entry] := by
  unfold eventSteps at hSteps
  rcases Outcome.bind_eq_ok.mp hSteps with
    ⟨inserted, hInsert, hSteps⟩
  rcases Outcome.bind_eq_ok.mp hSteps with
    ⟨metered, hMeter, hSteps⟩
  rcases Outcome.bind_eq_ok.mp hSteps with
    ⟨chained, hChain, hLinks⟩
  unfold insertOne at hInsert
  rcases Outcome.bind_eq_ok.mp hInsert with
    ⟨row, hRow, hInsert⟩
  rcases Outcome.bind_eq_ok.mp hInsert with
    ⟨⟨table, kept⟩, hTable, hInsert⟩
  rw [eventToParams_eq hRow] at hTable
  have hDb := (insertTraceabilityEvents_one hFree hTable).2
  have hInserted : inserted = table :=
    (Outcome.pure_eq_ok.mp hInsert).symm
  have hMetered :=
    (meter_acts store event).keeps
      (fun _ _ => rfl : Db.usageTables.Blind
        Db.canonicalTables.get) hMeter
  have hLinked :=
    (linkSeen_acts rt seen event).keeps
      (fun _ _ => rfl : Db.linkTable.Blind
        Db.canonicalTables.get) hLinks
  have hChained := Ledger.insertChainEntry_eq hChain
  simp only [Db.canonicalTables, Prod.mk.injEq]
    at hMetered hLinked
  constructor
  · rw [hLinked.1, hChained, hMetered.1, hInserted, hDb]
  · rw [hLinked.2, hChained, hMetered.2, hInserted, hDb]

end

--------
-- The Single Writer On The Plan
--------

open CtePersistence (computeChainHash chainStart)

/- The new events of a plan beside their chain rows. -/
def BatchPlan.items
    (plan : BatchPlan) :
    List (TraceabilityEvent × HashChainRow) :=
  plan.newEvents.zip plan.chainEntries

/-
  A database that a batch has come to in its plan: its map
  finds what the tables hold, and its chain goes on from the
  tenant's last chain row.
-/
structure Simulates
    (db : Db)
    (tenantId : Uuid)
    (previousChainHash : Option String)
    (nextSequence : Int)
    (existing : KeyMap)
    (events : List TraceabilityEvent) : Prop where
  tenant : ∀ event ∈ events, event.tenantId = tenantId
  found :
    ∀ event ∈ events, existing.lookup event = lookup db event
  start :
    chainStart db tenantId = (previousChainHash, nextSequence)

variable {existing : KeyMap} {nextSequence : Int}
variable {previousChainHash : Option String} {tenantId : Uuid}
variable {db db' : Db} {rt : Runtime}
variable {store : CanonicalEventStore}
variable {events : List TraceabilityEvent} {now : Datetime}
variable {event : TraceabilityEvent} {ids : List Uuid}
variable {results : List CanonicalStoreResult}

/- An event that is found leaves the rest as it is. -/
theorem Simulates.tail
    {db : Db}
    {event : TraceabilityEvent}
    {rest : List TraceabilityEvent}
    (hSim :
      Simulates db tenantId previousChainHash nextSequence
        existing (event :: rest)) :
    Simulates db tenantId previousChainHash nextSequence
      existing rest where
  tenant later hLater := hSim.tenant later (by simp [hLater])
  found later hLater := hSim.found later (by simp [hLater])
  start := hSim.start

/- The lookup after one more row. -/
theorem lookup_append
    {event later : TraceabilityEvent}
    (hTenant : later.tenantId = event.tenantId)
    (hFound : existing.lookup later = lookup db later)
    (hRows :
      db'.traceabilityEvents =
        db.traceabilityEvents ++
          [eventRow (chainedAfter rt previousChainHash event)]) :
    (existing.withNew rt previousChainHash event).lookup later =
      lookup db' later := by
  unfold KeyMap.lookup at hFound ⊢
  unfold lookup at hFound ⊢
  cases hKey : dedupKey later with
  | none => rfl
  | some key =>
      simp only [hKey, Option.bind_some, Db.findByKey]
        at hFound ⊢
      have hNonempty := (dedupKey_eq_some.mp hKey).2
      rw [hRows, List.find?_append, List.find?_singleton]
      simp only [eventRow, chainedAfter, hTenant, beq_self_eq_true,
        Bool.true_and, beq_iff_eq] at hFound ⊢
      unfold KeyMap.withNew
      cases hOwn : dedupKey event with
      | none =>
          have hOther : event.idempotencyKey ≠ some key := by
            intro hSame
            rw [dedupKey_eq_some.mpr ⟨hSame, hNonempty⟩] at hOwn
            simp at hOwn
          simp [hOther, hFound]
      | some own =>
          have hOwnKey := (dedupKey_eq_some.mp hOwn).1
          simp only [KeyMap.find, List.find?_append,
            List.find?_singleton, hOwnKey, beq_iff_eq,
            Option.some.injEq, Option.map_or]
          simp only [KeyMap.find] at hFound
          rw [hFound]
          congr 1
          split <;> rfl

/- The steps of a new event lead to the rest of the plan. -/
theorem Simulates.addNew
    {seen : List Sighting}
    {event : TraceabilityEvent}
    {rest : List TraceabilityEvent}
    (hSim :
      Simulates db tenantId previousChainHash nextSequence
        existing (event :: rest))
    (hFree : keyFree (sightings db) event = true)
    (hSteps :
      store.eventSteps rt seen db
          (chainedAfter rt previousChainHash event,
            chainRowAfter rt nextSequence previousChainHash
              event) =
        .ok db') :
    Simulates db' tenantId
        (some (computeChainHash rt.sha256Hex (eventHash event)
          previousChainHash))
        (nextSequence + 1)
        (existing.withNew rt previousChainHash event) rest ∧
      sightings db' = sightings db ++ [sighting event] := by
  have hOwn := hSim.tenant event (by simp)
  have hFree' :
      keyFree (sightings db)
        (chainedAfter rt previousChainHash event) = true := hFree
  rcases eventSteps_effect hFree' hSteps with ⟨hRows, hChain⟩
  have hStart :
      chainStart
          { db with
            hashChain :=
              db.hashChain ++
                [chainRowAfter rt nextSequence
                  previousChainHash event] } tenantId =
        (some (computeChainHash rt.sha256Hex (eventHash event)
          previousChainHash), nextSequence + 1) := by
    rw [← hOwn]
    apply Ledger.chainStart_append
    change nextSequence = (chainStart db event.tenantId).2
    rw [hOwn, hSim.start]
  refine ⟨⟨?_, ?_, ?_⟩, ?_⟩
  · intro later hLater
    exact hSim.tenant later (by simp [hLater])
  · intro later hLater
    apply lookup_append _ (hSim.found later (by simp [hLater]))
      hRows
    rw [hSim.tenant later (by simp [hLater]), hOwn]
  · rw [← hStart]
    exact Ledger.chainStart_congr (by rw [hChain]) tenantId
  · rw [sightings, hRows, List.map_append]
    rfl

/-
  The single writer on settled events takes the steps of the
  plan's new events, and returns the results of the plan. The
  induction is on the events, with all that will be seen kept
  fixed.
-/
theorem persistEachPrepared_eq
    {db : Db}
    {seen : List Sighting}
    (hSim :
      Simulates db tenantId previousChainHash nextSequence
        existing events)
    (hOptions :
      newEvents (sightings db) events = [] ∨
        (store.skipChainWrite = false ∧
          store.dualWrite = false))
    (hSettled :
      settled (sightings db)
        (newEvents (sightings db) events) = true)
    (hSeen :
      seen =
        sightings db ++
          (newEvents (sightings db) events).map sighting) :
    store.persistEachPrepared rt now events db =
      ((planBatch rt previousChainHash nextSequence existing
        events).items.foldlM (store.eventSteps rt seen)
          db).map (fun db' =>
            ((planBatch rt previousChainHash nextSequence
              existing events).results, db')) := by
  induction events generalizing db previousChainHash
    nextSequence existing with
  | nil => rfl
  | cons event rest ih =>
      have hOwn := hSim.tenant event (by simp)
      have hFound := hSim.found event (by simp)
      have hStored := lookup_isSome db event
      rw [planBatch_cons, persistEachPrepared,
        persistOnePrepared]
      cases hLookup : lookup db event with
      | some existing' =>
          rw [hLookup] at hFound hStored
          have hNew :
              newEvents (sightings db) (event :: rest) =
                newEvents (sightings db) rest := by
            rw [newEvents, ← hStored]
            rfl
          rw [hNew] at hOptions hSettled hSeen
          rw [hFound]
          have hRest := ih hSim.tail hOptions hSettled hSeen
          simp only [bind, Except.bind, hRest]
          simp only [BatchPlan.items]
          cases ((planBatch rt previousChainHash nextSequence
            existing rest).newEvents.zip
              (planBatch rt previousChainHash nextSequence
                existing rest).chainEntries).foldlM
                  (store.eventSteps rt seen) db <;> rfl
      | none =>
          rw [hLookup] at hFound hStored
          have hNew :
              newEvents (sightings db) (event :: rest) =
                event ::
                  newEvents (sightings db ++ [sighting event])
                    rest := by
            rw [newEvents, ← hStored]
            rfl
          rw [hNew] at hOptions hSettled hSeen
          have hFlags :
              store.skipChainWrite = false ∧
                store.dualWrite = false := by
            simpa using hOptions
          simp only [settled, Bool.and_eq_true] at hSettled
          rcases hSettled with
            ⟨⟨⟨hFree, hAmends⟩, hLots⟩, hLater⟩
          have hStart :
              chainStart db event.tenantId =
                (previousChainHash, nextSequence) := by
            rw [hOwn, hSim.start]
          rw [List.map_cons] at hSeen
          simp only [hFound, persistNewEvent_eq hFlags.1 hFlags.2
            hStart hFree hAmends hLots, ← hSeen, BatchPlan.items,
            List.zip_cons_cons, List.foldlM_cons]
          cases hSteps :
              store.eventSteps rt seen db
                (chainedAfter rt previousChainHash event,
                  chainRowAfter rt nextSequence
                    previousChainHash event) with
          | error raised => rfl
          | ok next =>
              rcases hSim.addNew hFree hSteps with
                ⟨hNext, hSightings⟩
              have hRest :=
                ih hNext (Or.inr hFlags)
                  (by rw [hSightings]; exact hLater)
                  (by
                    rw [hSightings, hSeen, List.append_assoc]
                    rfl)
              simp only [bind, Except.bind, Except.map, hRest]
              simp only [BatchPlan.items]
              cases ((planBatch rt
                (some (computeChainHash rt.sha256Hex
                  (eventHash event) previousChainHash))
                (nextSequence + 1)
                (existing.withNew rt previousChainHash event)
                rest).newEvents.zip
                  (planBatch rt
                    (some (computeChainHash rt.sha256Hex
                      (eventHash event) previousChainHash))
                    (nextSequence + 1)
                    (existing.withNew rt previousChainHash event)
                    rest).chainEntries).foldlM
                      (store.eventSteps rt seen) next <;> rfl

--------
-- The Inserts Of The Batch
--------

/- The event that an event names is stored. -/
def TargetStored
    (rows : List TraceabilityEventRow)
    (event : TraceabilityEvent) : Prop :=
  event.supersedesEventId.any (fun target =>
    !rows.any (fun other => other.eventId == target)) = false

/- An event that amends nothing names a stored event. -/
theorem targetStored_of_amendsNothing
    {rows : List TraceabilityEventRow}
    (hAmends :
      amendsNothing (rows.map sightingOf) event = true) :
    TargetStored rows event := by
  unfold amendsNothing at hAmends
  unfold TargetStored
  cases hTarget : event.supersedesEventId with
  | none => rfl
  | some target =>
      simp only [hTarget, Bool.and_eq_true, List.any_map]
        at hAmends
      simp only [Option.any_some, Bool.not_eq_false']
      exact hAmends.1.2

/- A stored event stays stored. -/
theorem TargetStored.append
    {rows more : List TraceabilityEventRow}
    (hStored : TargetStored rows event) :
    TargetStored (rows ++ more) event := by
  unfold TargetStored at hStored ⊢
  cases hTarget : event.supersedesEventId with
  | none => rfl
  | some target =>
      simp only [hTarget, Option.any_some,
        Bool.not_eq_false'] at hStored ⊢
      rw [List.any_append, hStored, Bool.true_or]

/- References to stored events are left to the runs. -/
theorem checkReferences_of_targetStored
    (hRuns : db'.ingestionRuns = db.ingestionRuns)
    (hStored : TargetStored db.traceabilityEvents event)
    (hStored' : TargetStored db'.traceabilityEvents event) :
    db'.checkReferences (eventRow event) =
      db.checkReferences (eventRow event) := by
  unfold TargetStored at hStored hStored'
  simp only [Db.checkReferences, eventRow, hStored, hStored',
    hRuns]

/- A settled event goes in alone, and then the others. -/
theorem insertTraceabilityEvents_cons_iff
    {event : TraceabilityEvent}
    {rows kept : List TraceabilityEventRow}
    (hFree : keyFree (sightings db) event = true)
    (hAmends : amendsNothing (sightings db) event = true) :
    db.insertTraceabilityEvents (eventRow event :: rows) =
        .ok (db', kept) ↔
      ∃ next later,
        db.insertTraceabilityEvents [eventRow event] =
            .ok (next, [eventRow event]) ∧
          next.insertTraceabilityEvents rows =
            .ok (db', later) ∧
          kept = eventRow event :: later := by
  have hConflict :
      TraceabilityEventRow.constraints.conflict
        db.traceabilityEvents (eventRow event) = false :=
    conflict_of_keyFree hFree
  have hStored : TargetStored db.traceabilityEvents event :=
    targetStored_of_amendsNothing hAmends
  simp only [Db.insertTraceabilityEvents_iff,
    Table.insertRows_cons_iff hConflict]
  have hOwn :
      ∀ later,
        Db.checkReferences
            { db with
              traceabilityEvents :=
                db.traceabilityEvents ++
                  eventRow event :: later } (eventRow event) =
          db.checkReferences (eventRow event) :=
    fun later => checkReferences_of_targetStored rfl hStored
      hStored.append
  constructor
  · rintro ⟨⟨hRow, later, hRows, rfl⟩, hRefs, rfl⟩
    rw [Outcome.forM_cons_eq_ok, hOwn] at hRefs
    refine ⟨_, later, ⟨⟨hRow, [], rfl, rfl⟩, ?_, rfl⟩,
      ⟨?_, ?_, ?_⟩, rfl⟩
    · rw [Outcome.forM_cons_eq_ok, hOwn]
      exact ⟨hRefs.1, rfl⟩
    · simpa using hRows
    · exact hRefs.2
    · simp
  · rintro ⟨next, later, ⟨⟨hRow, -⟩, hRefs, rfl⟩,
      ⟨hRows, hLater, hDb⟩, rfl⟩
    rw [Outcome.forM_cons_eq_ok, hOwn] at hRefs
    simp only [List.append_assoc, List.singleton_append]
      at hRows hDb
    refine ⟨⟨hRow, later, hRows, rfl⟩, ?_, hDb⟩
    rw [Outcome.forM_cons_eq_ok, hDb, hOwn]
    rw [hDb] at hLater
    exact ⟨hRefs.1, hLater⟩

/-
  One statement for several settled events inserts the first
  and then the others.
-/
theorem batchInsertCanonicalEvents_cons_iff
    {event : TraceabilityEvent}
    {rest : List TraceabilityEvent}
    (hFree : keyFree (sightings db) event = true)
    (hAmends : amendsNothing (sightings db) event = true) :
    batchInsertCanonicalEvents rt db (event :: rest) =
        .ok (db', ids) ↔
      ∃ next later,
        insertOne rt db event = .ok next ∧
          batchInsertCanonicalEvents rt next rest =
            .ok (db', later) ∧
          ids = event.eventId :: later := by
  simp only [batchInsertCanonicalEvents, insertOne,
    List.mapM_cons, Outcome.bind_eq_ok, Outcome.pure_eq_ok,
    Prod.mk.injEq]
  constructor
  · rintro ⟨all, ⟨row, hRow, rows, hRows, rfl⟩, ⟨table, kept⟩,
      hInsert, rfl, rfl⟩
    rw [eventToParams_eq hRow,
      insertTraceabilityEvents_cons_iff hFree hAmends] at hInsert
    rcases hInsert with ⟨next, later, hOne, hLater, rfl⟩
    refine ⟨next, _,
      ⟨row, hRow, ⟨next, [eventRow event]⟩, ?_, rfl⟩,
      ⟨rows, hRows, ⟨table, later⟩, hLater, rfl, rfl⟩, rfl⟩
    rw [eventToParams_eq hRow, hOne]
  · rintro ⟨next, later, ⟨row, hRow, ⟨table, kept⟩, hOne, rfl⟩,
      ⟨rows, hRows, ⟨final, kept'⟩, hLater, rfl, rfl⟩, rfl⟩
    rw [eventToParams_eq hRow] at hOne
    have hKept := (insertTraceabilityEvents_one hFree hOne).1
    rw [hKept] at hOne
    refine ⟨row :: rows, ⟨row, hRow, rows, hRows, rfl⟩,
      ⟨final, eventRow event :: kept'⟩, ?_, rfl, rfl⟩
    rw [eventToParams_eq hRow,
      insertTraceabilityEvents_cons_iff hFree hAmends]
    exact ⟨table, kept', hOne, hLater, rfl⟩

/- An inserted event is seen. -/
theorem sightings_insertOne
    (hFree : keyFree (sightings db) event = true)
    (hInsert : insertOne rt db event = .ok db') :
    sightings db' = sightings db ++ [sighting event] := by
  unfold insertOne at hInsert
  rcases Outcome.bind_eq_ok.mp hInsert with
    ⟨row, hRow, hInsert⟩
  rcases Outcome.bind_eq_ok.mp hInsert with
    ⟨⟨table, kept⟩, hTable, hInsert⟩
  rw [eventToParams_eq hRow] at hTable
  rw [← Outcome.pure_eq_ok.mp hInsert,
    (insertTraceabilityEvents_one hFree hTable).2, sightings,
    List.map_append]
  rfl

/- Events that land, and that name stored events, in turn. -/
def insertable :
    List Sighting → List TraceabilityEvent → Bool
| _, [] => true
| seen, event :: rest =>
    keyFree seen event && amendsNothing seen event &&
      insertable (seen ++ [sighting event]) rest

/- Settled events can be inserted. -/
theorem insertable_of_settled
    {seen : List Sighting}
    (hSettled : settled seen events = true) :
    insertable seen events = true := by
  induction events generalizing seen with
  | nil => rfl
  | cons event rest ih =>
      simp only [settled, Bool.and_eq_true] at hSettled
      simp only [insertable, Bool.and_eq_true]
      exact ⟨hSettled.1.1, ih hSettled.2⟩

/- Events are inserted after those before them. -/
theorem insertable_append
    {seen : List Sighting}
    {events more : List TraceabilityEvent} :
    insertable seen (events ++ more) =
      (insertable seen events &&
        insertable (seen ++ events.map sighting) more) := by
  induction events generalizing seen with
  | nil => simp [insertable]
  | cons event rest ih =>
      simp only [List.cons_append, insertable, ih,
        List.map_cons, List.append_assoc, List.nil_append,
        Bool.and_assoc]

/- One statement inserts its events in turn. -/
theorem batchInsertCanonicalEvents_iff
    (hEvents : insertable (sightings db) events = true) :
    batchInsertCanonicalEvents rt db events = .ok (db', ids) ↔
      events.foldlM (insertOne rt) db = .ok db' ∧
        ids = events.map TraceabilityEvent.eventId := by
  induction events generalizing db ids with
  | nil =>
      have hNil :
          batchInsertCanonicalEvents rt db [] = .ok (db, []) :=
        rfl
      rw [hNil, Except.ok.injEq, Prod.mk.injEq,
        List.foldlM_nil, Outcome.pure_eq_ok, List.map_nil,
        @eq_comm _ ids]
  | cons event rest ih =>
      simp only [insertable, Bool.and_eq_true] at hEvents
      rcases hEvents with ⟨⟨hFree, hAmends⟩, hRest⟩
      rw [batchInsertCanonicalEvents_cons_iff hFree hAmends,
        Outcome.foldlM_cons_eq_ok]
      have hNext :
          ∀ next, insertOne rt db event = .ok next →
            insertable (sightings next) rest = true := by
        intro next hOne
        rw [sightings_insertOne hFree hOne]
        exact hRest
      constructor
      · rintro ⟨next, later, hOne, hLater, rfl⟩
        rcases (ih (hNext next hOne)).mp hLater with
          ⟨hLoop, rfl⟩
        exact ⟨⟨next, hOne, hLoop⟩, rfl⟩
      · rintro ⟨⟨next, hOne, hLoop⟩, rfl⟩
        exact ⟨next, _, hOne,
          (ih (hNext next hOne)).mpr ⟨hLoop, rfl⟩, rfl⟩

/- The sightings after events are inserted. -/
theorem sightings_foldlM_insertOne
    (hEvents : insertable (sightings db) events = true)
    (hLoop : events.foldlM (insertOne rt) db = .ok db') :
    sightings db' = sightings db ++ events.map sighting := by
  induction events generalizing db with
  | nil =>
      rw [List.foldlM_nil] at hLoop
      rw [← Outcome.pure_eq_ok.mp hLoop, List.map_nil,
        List.append_nil]
  | cons event rest ih =>
      simp only [insertable, Bool.and_eq_true] at hEvents
      rcases hEvents with ⟨⟨hFree, -⟩, hRest⟩
      rcases Outcome.foldlM_cons_eq_ok.mp hLoop with
        ⟨next, hOne, hLater⟩
      have hNext := sightings_insertOne hFree hOne
      rw [ih (by rw [hNext]; exact hRest) hLater, hNext,
        List.map_cons, List.append_assoc]
      rfl

/- The statements of the batch insert its events in turn. -/
theorem insertChunks_iff
    {chunks : List (List TraceabilityEvent)}
    (hEvents : insertable (sightings db) chunks.flatten = true) :
    insertChunks rt db chunks = .ok (db', ids) ↔
      chunks.flatten.foldlM (insertOne rt) db = .ok db' ∧
        ids =
          chunks.flatten.map TraceabilityEvent.eventId := by
  induction chunks generalizing db ids with
  | nil =>
      rw [insertChunks, Except.ok.injEq, Prod.mk.injEq,
        List.flatten_nil, List.foldlM_nil, Outcome.pure_eq_ok,
        List.map_nil, @eq_comm _ ids]
  | cons chunk rest ih =>
      rw [List.flatten_cons, insertable_append,
        Bool.and_eq_true] at hEvents
      rw [List.flatten_cons, List.foldlM_append, insertChunks]
      simp only [Outcome.bind_eq_ok, Outcome.pure_eq_ok,
        Prod.mk.injEq, List.map_append]
      constructor
      · rintro ⟨⟨next, own⟩, hOwn, ⟨final, later⟩, hLater, rfl,
          rfl⟩
        rcases (batchInsertCanonicalEvents_iff hEvents.1).mp
          hOwn with ⟨hLoop, rfl⟩
        have hNext := sightings_foldlM_insertOne hEvents.1 hLoop
        rcases (ih (by rw [hNext]; exact hEvents.2)).mp
          hLater with ⟨hRest, rfl⟩
        exact ⟨⟨next, hLoop, hRest⟩, rfl⟩
      · rintro ⟨⟨next, hLoop, hRest⟩, rfl⟩
        have hNext := sightings_foldlM_insertOne hEvents.1 hLoop
        exact ⟨⟨next, _⟩,
          (batchInsertCanonicalEvents_iff hEvents.1).mpr
            ⟨hLoop, rfl⟩,
          ⟨db', _⟩,
          (ih (by rw [hNext]; exact hEvents.2)).mpr
            ⟨hRest, rfl⟩,
          rfl, rfl⟩

--------
-- The Batch On The Plan
--------

/-
  The steps of the batch writer: one step for all new events
  before the next.
-/
def batchSteps
    (store : CanonicalEventStore)
    (rt : Runtime)
    (seen : List Sighting)
    (items : List (TraceabilityEvent × HashChainRow))
    (db : Db) :
    Except StoreError Db := do
  let inserted ←
    items.foldlM (fun db item => insertOne rt db item.1) db
  let chained ←
    items.foldlM (fun db item => db.insertChainEntry item.2)
      inserted
  let linked ←
    items.foldlM (fun db item => linkSeen rt seen db item.1)
      chained
  items.foldlM (fun db item => store.meter db item.1) linked

/-
  The steps write tables of their own, so that the order of
  the batch and that of the single writer come to the same.
-/
theorem batchSteps_iff
    {seen : List Sighting}
    {items : List (TraceabilityEvent × HashChainRow)}
    {db db' : Db} :
    store.batchSteps rt seen items db = .ok db' ↔
      items.foldlM (store.eventSteps rt seen) db = .ok db' := by
  have hInsertChain :
      ∀ x y : TraceabilityEvent × HashChainRow,
        Region.Commute (fun db => insertOne rt db x.1)
          (fun db => Db.insertChainEntry db y.2) :=
    fun x y => (insertOne_acts rt x.1).commute
      (Db.insertChainEntry_acts y.2) (fun _ _ _ => rfl)
      (fun _ _ => rfl) (fun _ _ => rfl)
  have hLinkMeter :
      ∀ x y : TraceabilityEvent × HashChainRow,
        Region.Commute (fun db => linkSeen rt seen db x.1)
          (fun db => store.meter db y.1) :=
    fun x y => (linkSeen_acts rt seen x.1).commute
      (meter_acts store y.1) (fun _ _ _ => rfl)
      (fun _ _ => rfl) (fun _ _ => rfl)
  have hInsertLink :
      ∀ x y : TraceabilityEvent × HashChainRow,
        Region.Commute (fun db => insertOne rt db x.1)
          (fun db => linkSeen rt seen db y.1) :=
    fun x y => (insertOne_acts rt x.1).commute
      (linkSeen_acts rt seen y.1) (fun _ _ _ => rfl)
      (fun _ _ => rfl) (fun _ _ => rfl)
  have hInsertMeter :
      ∀ x y : TraceabilityEvent × HashChainRow,
        Region.Commute (fun db => insertOne rt db x.1)
          (fun db => store.meter db y.1) :=
    fun x y => (insertOne_acts rt x.1).commute
      (meter_acts store y.1) (fun _ _ _ => rfl)
      (fun _ _ => rfl) (fun _ _ => rfl)
  have hChainLink :
      ∀ x y : TraceabilityEvent × HashChainRow,
        Region.Commute (fun db => Db.insertChainEntry db x.2)
          (fun db => linkSeen rt seen db y.1) :=
    fun x y => (Db.insertChainEntry_acts x.2).commute
      (linkSeen_acts rt seen y.1) (fun _ _ _ => rfl)
      (fun _ _ => rfl) (fun _ _ => rfl)
  have hChainMeter :
      ∀ x y : TraceabilityEvent × HashChainRow,
        Region.Commute (fun db => Db.insertChainEntry db x.2)
          (fun db => store.meter db y.1) :=
    fun x y => (Db.insertChainEntry_acts x.2).commute
      (meter_acts store y.1) (fun _ _ _ => rfl)
      (fun _ _ => rfl) (fun _ _ => rfl)
  have hPairs :
      ∀ x y : TraceabilityEvent × HashChainRow,
        Region.Commute
          (fun db => insertOne rt db x.1 >>= fun db =>
            Db.insertChainEntry db x.2)
          (fun db => linkSeen rt seen db y.1 >>= fun db =>
            store.meter db y.1) := by
    intro x y
    apply Region.Commute.symm
    apply Region.Commute.bind
    · exact ((hInsertLink x y).bind (hChainLink x y)).symm
    · exact ((hInsertMeter x y).bind (hChainMeter x y)).symm
  have hItem :
      ∀ (x : TraceabilityEvent × HashChainRow) (s s' : Db),
        ((insertOne rt s x.1 >>= fun db =>
            Db.insertChainEntry db x.2) >>= fun db =>
          linkSeen rt seen db x.1 >>= fun db =>
            store.meter db x.1) = .ok s' ↔
        store.eventSteps rt seen s x = .ok s' := by
    intro x s s'
    have hMove :=
      (hChainMeter x x).bind (hLinkMeter x x)
    simp only [eventSteps, bind_assoc]
    rw [Outcome.bind_eq_ok, Outcome.bind_eq_ok]
    have hTail := fun t => hMove t s'
    simp only [bind_assoc] at hTail
    simp only [hTail]
  calc
    store.batchSteps rt seen items db = .ok db' ↔
        ((items.foldlM (fun db item =>
            insertOne rt db item.1) db >>= fun db =>
          items.foldlM (fun db item =>
            Db.insertChainEntry db item.2) db) >>= fun db =>
          items.foldlM (fun db item =>
            linkSeen rt seen db item.1) db >>= fun db =>
          items.foldlM (fun db item =>
            store.meter db item.1) db) = .ok db' := by
      rw [batchSteps, bind_assoc]
    _ ↔ (items.foldlM (fun db item =>
            insertOne rt db item.1 >>= fun db =>
              Db.insertChainEntry db item.2) db >>= fun db =>
          items.foldlM (fun db item =>
            linkSeen rt seen db item.1 >>= fun db =>
              store.meter db item.1) db) = .ok db' := by
      rw [Outcome.bind_eq_ok, Outcome.bind_eq_ok]
      simp only [Region.foldlM_fuse hInsertChain,
        Region.foldlM_fuse hLinkMeter]
    _ ↔ items.foldlM (fun db item =>
          (insertOne rt db item.1 >>= fun db =>
            Db.insertChainEntry db item.2) >>= fun db =>
          linkSeen rt seen db item.1 >>= fun db =>
            store.meter db item.1) db = .ok db' :=
      Region.foldlM_fuse hPairs items db db'
    _ ↔ items.foldlM (store.eventSteps rt seen) db =
          .ok db' :=
      Region.foldlM_congr_ok hItem items db db'

/- The chain rows of a plan stand for its new events. -/
theorem planBatch_ids
    (rt : Runtime)
    (previousChainHash : Option String)
    (nextSequence : Int)
    (existing : KeyMap)
    (events : List TraceabilityEvent) :
    (planBatch rt previousChainHash nextSequence existing
        events).chainEntries.map HashChainRow.cteEventId =
      (planBatch rt previousChainHash nextSequence existing
        events).newEvents.map TraceabilityEvent.eventId := by
  induction events generalizing previousChainHash nextSequence
    existing with
  | nil => rfl
  | cons event rest ih =>
      rw [planBatch_cons]
      cases existing.lookup event with
      | some stored => exact ih previousChainHash _ existing
      | none =>
          simp only [List.map_cons]
          rw [ih]
          rfl

/- The map finds a later event after one more. -/
theorem withNew_lookup_isSome
    {seen : List Sighting}
    {event later : TraceabilityEvent}
    (hTenant : later.tenantId = event.tenantId)
    (hFound :
      (existing.lookup later).isSome = isStored seen later) :
    ((existing.withNew rt previousChainHash event).lookup
        later).isSome =
      isStored (seen ++ [sighting event]) later := by
  unfold KeyMap.lookup isStored at hFound ⊢
  cases hKey : dedupKey later with
  | none => rfl
  | some key =>
      have hNonempty := (dedupKey_eq_some.mp hKey).2
      simp only [hKey, Option.bind_some] at hFound ⊢
      rw [List.any_append, ← hFound]
      have hLast :
          [sighting event].any (fun one =>
              one.tenantId == later.tenantId &&
                one.idempotencyKey == some key) =
            (event.idempotencyKey == some key) := by
        simp [sighting, sightingOf, eventRow, hTenant]
      rw [hLast]
      unfold KeyMap.withNew
      cases hOwn : dedupKey event with
      | none =>
          have hOther :
              (event.idempotencyKey == some key) = false := by
            rw [beq_eq_false_iff_ne]
            intro hSame
            rw [dedupKey_eq_some.mpr ⟨hSame, hNonempty⟩] at hOwn
            simp at hOwn
          rw [hOther, Bool.or_false]
      | some own =>
          have hOwnKey := (dedupKey_eq_some.mp hOwn).1
          simp only [KeyMap.find, List.find?_append,
            List.find?_singleton, Option.isSome_map,
            Option.isSome_or, hOwnKey]
          congr 1
          by_cases hSame : own = key <;> simp [hSame]

/- The new events of a plan, with their chain hashes. -/
theorem planBatch_newEvents
    {seen : List Sighting}
    (hTenant : ∀ event ∈ events, event.tenantId = tenantId)
    (hFound :
      ∀ event ∈ events,
        (existing.lookup event).isSome = isStored seen event) :
    List.Forall₂
      (fun chained event =>
        ∃ previous, chained = chainedAfter rt previous event)
      (planBatch rt previousChainHash nextSequence existing
        events).newEvents
      (newEvents seen events) := by
  induction events generalizing previousChainHash nextSequence
    existing seen with
  | nil => exact List.Forall₂.nil
  | cons event rest ih =>
      have hRest :
          ∀ later ∈ rest, later.tenantId = tenantId :=
        fun later hLater => hTenant later (by simp [hLater])
      have hOwn := hFound event (by simp)
      rw [planBatch_cons, newEvents]
      cases hLookup : existing.lookup event with
      | some stored =>
          rw [hLookup] at hOwn
          rw [← hOwn, Option.isSome_some, if_pos rfl]
          exact ih hRest (fun later hLater =>
            hFound later (by simp [hLater]))
      | none =>
          rw [hLookup] at hOwn
          rw [← hOwn, Option.isSome_none,
            if_neg Bool.false_ne_true]
          refine List.Forall₂.cons ⟨_, rfl⟩ (ih hRest ?_)
          intro later hLater
          apply withNew_lookup_isSome _
            (hFound later (by simp [hLater]))
          rw [hRest later hLater, hTenant event (by simp)]

/- A chain hash changes no sighting. -/
theorem map_sighting_of_chained
    {chained events : List TraceabilityEvent}
    (hChained :
      List.Forall₂
        (fun chained event =>
          ∃ previous, chained = chainedAfter rt previous event)
        chained events) :
    chained.map sighting = events.map sighting := by
  induction hChained with
  | nil => rfl
  | cons hOne _ ih =>
      rcases hOne with ⟨previous, rfl⟩
      rw [List.map_cons, List.map_cons, ih]
      rfl

/- A chain hash unsettles no event. -/
theorem settled_of_chained
    {chained events : List TraceabilityEvent}
    {seen : List Sighting}
    (hChained :
      List.Forall₂
        (fun chained event =>
          ∃ previous, chained = chainedAfter rt previous event)
        chained events)
    (hSettled : settled seen events = true) :
    settled seen chained = true := by
  induction hChained generalizing seen with
  | nil => rfl
  | cons hOne hRest ih =>
      rcases hOne with ⟨previous, rfl⟩
      simp only [settled, Bool.and_eq_true] at hSettled ⊢
      rw [map_sighting_of_chained hRest]
      exact ⟨hSettled.1, ih hSettled.2⟩

/- Links are made in turn with the lots that are seen. -/
theorem foldlM_createTransformationLinks
    {seen : List Sighting}
    {db : Db}
    (hSeen : sightings db = seen) :
    events.foldlM (createTransformationLinks rt) db =
      events.foldlM (linkSeen rt seen) db := by
  induction events generalizing db with
  | nil => rfl
  | cons event rest ih =>
      have hOne :
          createTransformationLinks rt db event =
            linkSeen rt seen db event := by
        apply createTransformationLinks_eq
        intro code _
        rw [hSeen]
      rw [List.foldlM_cons, List.foldlM_cons, hOne]
      cases hLink : linkSeen rt seen db event with
      | error raised => rfl
      | ok next =>
          apply ih
          rw [← hSeen, sightings,
            (linkSeen_acts rt seen event).keeps
              (fun _ _ => rfl : Db.linkTable.Blind
                Db.traceabilityEvents) hLink]
          rfl

/- A copy step that copies nothing. -/
theorem foldlM_dualWriteStep
    {db : Db}
    (hCopies : events = [] ∨ store.dualWrite = false) :
    events.foldlM (fun current event => do
        let copied ← store.dualWriteStep current event
        return copied.2) db = .ok db := by
  rcases hCopies with rfl | hDual
  · rfl
  · induction events with
    | nil => rfl
    | cons event rest ih =>
        rw [List.foldlM_cons]
        simpa [dualWriteStep, hDual, bind, Except.bind, pure,
          Except.pure] using ih

variable {plan : BatchPlan}

/- A batch that lost no event and copies none. -/
theorem writeBatch_iff
    (hIds :
      plan.chainEntries.map HashChainRow.cteEventId =
        plan.newEvents.map TraceabilityEvent.eventId)
    (hCopies :
      plan.newEvents = [] ∨ store.dualWrite = false) :
    store.writeBatch rt events tenantId plan
          (plan.newEvents.map TraceabilityEvent.eventId) db =
        .ok (results, db') ↔
      results = plan.results ∧
        (do
          let chained ←
            plan.chainEntries.foldlM Db.insertChainEntry db
          let linked ←
            plan.newEvents.foldlM
              (createTransformationLinks rt) chained
          plan.newEvents.foldlM store.meter linked) =
            .ok db' := by
  have hLost :
      plan.newEvents.filter (fun event =>
          !(plan.newEvents.map
            TraceabilityEvent.eventId).contains
              event.eventId) = [] := by
    rw [List.filter_eq_nil_iff]
    intro event hEvent
    simpa using ⟨event, hEvent, rfl⟩
  have hLanded :
      plan.newEvents.filter (fun event =>
          (plan.newEvents.map
            TraceabilityEvent.eventId).contains
              event.eventId) = plan.newEvents := by
    rw [List.filter_eq_self]
    intro event hEvent
    simpa using ⟨event, hEvent, rfl⟩
  have hEntries :
      plan.chainEntries.filter (fun entry =>
          (plan.newEvents.map
            TraceabilityEvent.eventId).contains
              entry.cteEventId) =
        plan.chainEntries := by
    rw [List.filter_eq_self, ← hIds]
    intro entry hEntry
    simpa using ⟨entry, hEntry, rfl⟩
  simp only [writeBatch, hLost, hLanded, hEntries,
    List.isEmpty_nil, if_true, foldlM_dualWriteStep hCopies,
    Outcome.bind_eq_ok, Outcome.pure_eq_ok, Prod.mk.injEq]
  constructor
  · rintro ⟨chained, hChain, linked, hLink, metered, hMeter, _,
      hCopy, rfl, rfl⟩
    cases hCopy
    exact ⟨rfl, chained, hChain, linked, hLink, hMeter⟩
  · rintro ⟨rfl, chained, hChain, linked, hLink, hMeter⟩
    exact ⟨chained, hChain, linked, hLink, db', hMeter, db',
      rfl, rfl, rfl⟩

/- The steps of the batch, by the lists of its plan. -/
theorem batchSteps_eq
    {seen : List Sighting}
    {db : Db}
    (hIds :
      plan.chainEntries.map HashChainRow.cteEventId =
        plan.newEvents.map TraceabilityEvent.eventId) :
    store.batchSteps rt seen plan.items db =
      (do
        let inserted ← plan.newEvents.foldlM (insertOne rt) db
        let chained ←
          plan.chainEntries.foldlM Db.insertChainEntry inserted
        let linked ←
          plan.newEvents.foldlM (linkSeen rt seen) chained
        plan.newEvents.foldlM store.meter linked) := by
  have hLength :
      plan.chainEntries.length = plan.newEvents.length := by
    simpa using congrArg List.length hIds
  have hEvents : plan.items.map Prod.fst = plan.newEvents :=
    List.map_fst_zip (by omega)
  have hEntries :
      plan.items.map Prod.snd = plan.chainEntries :=
    List.map_snd_zip (by omega)
  unfold batchSteps
  rw [← hEvents, ← hEntries]
  simp only [List.foldlM_map]

/-
  A batch of settled events takes the steps of the plan's new
  events, and returns the results of the plan.
-/
theorem persistPrepared_iff
    {seen : List Sighting}
    (hTenant : ∀ event ∈ events, event.tenantId = tenantId)
    (hFound :
      ∀ event ∈ events,
        ((existingMap db tenantId
          (events.filterMap dedupKey)).lookup event).isSome =
            isStored (sightings db) event)
    (hOptions :
      newEvents (sightings db) events = [] ∨
        (store.skipChainWrite = false ∧
          store.dualWrite = false))
    (hSettled :
      settled (sightings db)
        (newEvents (sightings db) events) = true)
    (hSeen :
      seen =
        sightings db ++
          (newEvents (sightings db) events).map sighting) :
    store.persistPrepared rt tenantId events db =
        .ok (results, db') ↔
      results = (planFor rt db tenantId events).results ∧
        store.batchSteps rt seen
          (planFor rt db tenantId events).items db =
            .ok db' := by
  have hIds :
      (planFor rt db tenantId events).chainEntries.map
          HashChainRow.cteEventId =
        (planFor rt db tenantId events).newEvents.map
          TraceabilityEvent.eventId :=
    planBatch_ids _ _ _ _ _
  have hChained :
      List.Forall₂
        (fun chained event =>
          ∃ previous, chained = chainedAfter rt previous event)
        (planFor rt db tenantId events).newEvents
        (newEvents (sightings db) events) :=
    planBatch_newEvents hTenant hFound
  have hInsertable :
      insertable (sightings db)
        (planFor rt db tenantId events).newEvents = true :=
    insertable_of_settled (settled_of_chained hChained hSettled)
  have hCopies :
      (planFor rt db tenantId events).newEvents = [] ∨
        store.dualWrite = false := by
    rcases hOptions with hNone | hFlags
    · rw [hNone] at hChained
      exact Or.inl (List.forall₂_nil_right_iff.mp hChained)
    · exact Or.inr hFlags.2
  have hFlat :=
    Table.flatten_chunksOf (show 0 < 50 by decide)
      (planFor rt db tenantId events).newEvents
  have hChunks :
      ∀ {next : Db} {ids : List Uuid},
        insertChunks rt db
            (Table.chunksOf 50
              (planFor rt db tenantId events).newEvents) =
            .ok (next, ids) ↔
          (planFor rt db tenantId events).newEvents.foldlM
              (insertOne rt) db = .ok next ∧
            ids =
              (planFor rt db tenantId events).newEvents.map
                TraceabilityEvent.eventId := by
    intro next ids
    rw [insertChunks_iff (by rw [hFlat]; exact hInsertable),
      hFlat]
  have hLinks :
      ∀ {next chained : Db},
        (planFor rt db tenantId events).newEvents.foldlM
            (insertOne rt) db = .ok next →
          (planFor rt db tenantId events).chainEntries.foldlM
              Db.insertChainEntry next = .ok chained →
            sightings chained = seen := by
    intro next chained hLoop hChain
    rw [hSeen, ← map_sighting_of_chained hChained,
      ← sightings_foldlM_insertOne hInsertable hLoop, sightings,
      Ledger.foldlM_insertChainEntry hChain]
    rfl
  rw [batchSteps_eq hIds]
  change (insertChunks rt db
    (Table.chunksOf 50
      (planFor rt db tenantId events).newEvents) >>= fun out =>
        store.writeBatch rt events tenantId
          (planFor rt db tenantId events) out.2 out.1) = _ ↔ _
  simp only [Outcome.bind_eq_ok]
  constructor
  · rintro ⟨⟨next, ids⟩, hInsert, hWrite⟩
    rcases hChunks.mp hInsert with ⟨hLoop, rfl⟩
    rcases (writeBatch_iff hIds hCopies).mp hWrite with
      ⟨rfl, hSteps⟩
    simp only [Outcome.bind_eq_ok] at hSteps
    rcases hSteps with ⟨chained, hChain, linked, hLink, hMeter⟩
    rw [foldlM_createTransformationLinks
      (hLinks hLoop hChain)] at hLink
    exact ⟨rfl, next, hLoop, chained, hChain, linked, hLink,
      hMeter⟩
  · rintro ⟨rfl, next, hLoop, chained, hChain, linked, hLink,
      hMeter⟩
    refine ⟨⟨next, _⟩, hChunks.mpr ⟨hLoop, rfl⟩,
      (writeBatch_iff hIds hCopies).mpr ⟨rfl, ?_⟩⟩
    simp only [Outcome.bind_eq_ok]
    refine ⟨chained, hChain, linked, ?_, hMeter⟩
    rw [foldlM_createTransformationLinks (hLinks hLoop hChain)]
    exact hLink

/- The stored keys of the batch are those of the table. -/
theorem existingMap_lookup
    {db : Db}
    (hEvent : event ∈ events)
    (hTenant : event.tenantId = tenantId) :
    (existingMap db tenantId
        (events.filterMap dedupKey)).lookup event =
      lookup db event := by
  unfold KeyMap.lookup lookup
  cases hKey : dedupKey event with
  | none => rfl
  | some key =>
      have hIn : key ∈ events.filterMap dedupKey :=
        List.mem_filterMap.mpr ⟨event, hEvent, hKey⟩
      rw [Option.bind_some, existingMap_find db tenantId hIn,
        hTenant]

/-
  A batch of one tenant that the store writes alike returns
  exactly what the single writer returns on its events in
  turn, and leaves the same tables.
-/
theorem persistPrepared_iff_each
    (hTenant : ∀ event ∈ events, event.tenantId = tenantId)
    (hAlike : store.writesAlike db events = true) :
    store.persistPrepared rt tenantId events db =
        .ok (results, db') ↔
      store.persistEachPrepared rt now events db =
        .ok (results, db') := by
  simp only [writesAlike, Bool.and_eq_true, Bool.or_eq_true,
    List.isEmpty_iff, Bool.not_eq_true'] at hAlike
  have hFound :
      ∀ event ∈ events,
        (existingMap db tenantId
            (events.filterMap dedupKey)).lookup event =
          lookup db event :=
    fun event hEvent =>
      existingMap_lookup hEvent (hTenant event hEvent)
  rw [persistPrepared_iff hTenant (fun event hEvent => by
      rw [hFound event hEvent, lookup_isSome]) hAlike.1
      hAlike.2 rfl, batchSteps_iff,
    persistEachPrepared_eq ⟨hTenant, hFound, rfl⟩ hAlike.1
      hAlike.2 rfl, Outcome.map_eq_ok]
  constructor
  · rintro ⟨rfl, hSteps⟩
    exact ⟨db', hSteps, rfl⟩
  · rintro ⟨last, hSteps, hEq⟩
    cases hEq
    exact ⟨rfl, hSteps⟩

--------
-- The Batch And Its Events
--------

/- Events that are stored in turn can all be prepared. -/
theorem mapM_ensurePrepared_of_persistEach
    {db : Db}
    {out : List CanonicalStoreResult × Db}
    (hEach : store.persistEach rt now events db = .ok out) :
    ∃ prepared,
      events.mapM (ensurePrepared rt) = .ok prepared := by
  induction events generalizing db out with
  | nil => exact ⟨[], rfl⟩
  | cons event rest ih =>
      rw [persistEach] at hEach
      rcases Outcome.bind_eq_ok.mp hEach with
        ⟨first, hFirst, hEach⟩
      rcases Outcome.bind_eq_ok.mp hEach with
        ⟨later, hLater, _⟩
      rcases ih hLater with ⟨prepared, hRest⟩
      rw [persistEvent] at hFirst
      rcases Outcome.bind_eq_ok.mp hFirst with
        ⟨own, hOwn, _⟩
      refine ⟨own :: prepared, ?_⟩
      rw [List.mapM_cons, hOwn, hRest]
      rfl

/- The batch of a tenant is written once it is prepared. -/
theorem persistEventsBatch_eq
    {events prepared : List TraceabilityEvent}
    {db : Db}
    (hTenant : ∀ event ∈ events, event.tenantId = tenantId)
    (hPrepared :
      events.mapM (ensurePrepared rt) = .ok prepared) :
    store.persistEventsBatch rt events db =
      store.persistPrepared rt tenantId prepared db := by
  cases events with
  | nil =>
      rw [List.mapM_nil] at hPrepared
      rw [← Outcome.pure_eq_ok.mp hPrepared]
      rfl
  | cons first rest =>
      have hFirst : first.tenantId = tenantId :=
        hTenant first List.mem_cons_self
      have hSame :
          rest.any (fun event =>
            event.tenantId != first.tenantId) = false := by
        rw [List.any_eq_false]
        intro event hEvent
        rw [hTenant event (List.mem_cons_of_mem first hEvent),
          hFirst]
        simp
      rw [persistEventsBatch, hSame, hPrepared, hFirst]
      rfl

/-
  The events are of one tenant, and once they are prepared the
  store writes them alike.
-/
def batchesAlike
    (store : CanonicalEventStore)
    (rt : Runtime)
    (events : List TraceabilityEvent)
    (db : Db) : Bool :=
  events.all (fun event =>
      events.all (fun other =>
        event.tenantId == other.tenantId)) &&
    match events.mapM (ensurePrepared rt) with
    | .ok prepared => store.writesAlike db prepared
    | .error _ => true

def otherLot : TraceabilityEvent :=
  { (default : TraceabilityEvent) with
    eventId :=
      ⟨"00000000-0000-0000-0000-000000000002", isUuidText_two⟩
    traceabilityLotCode := "LOT-2"
    lotCode_length := by decide }

/- The digests of the two harvests, their keys and links. -/
def lotDigests : List (String × String) :=
  [("00000000-0000-0000-0000-000000000001|harvesting|LOT-1||1.0|cases|||2026-01-01T00:00:00+00:00|\x7b\x7d",
      "35034614427375864f62cff449cba114d83dc4b50d3c092f51e6f1eac1d74622"),
    ("00000000-0000-0000-0000-000000000002|harvesting|LOT-2||1.0|cases|||2026-01-01T00:00:00+00:00|\x7b\x7d",
      "7ee5ff91a1eaa8200c345ee0ac7e197ed01eb95d2900bcb9065edf512b9d28bf"),
    ("\x7b\"event_type\":\"harvesting\",\"from_facility\":\"\",\"kdes\":\x7b\x7d,\"source\":\"webhook_api\",\"timestamp\":\"2026-01-01T00:00:00+00:00\",\"tlc\":\"LOT-1\",\"to_facility\":\"\"\x7d",
      "5d7dd8f6213600eb10dd59c1aca7e54d29595ec9260b7f86fc1ae17ee509c7e1"),
    ("\x7b\"event_type\":\"harvesting\",\"from_facility\":\"\",\"kdes\":\x7b\x7d,\"source\":\"webhook_api\",\"timestamp\":\"2026-01-01T00:00:00+00:00\",\"tlc\":\"LOT-2\",\"to_facility\":\"\"\x7d",
      "ce4cad6e665f648383c70a29f2b714334589fa15f4acd6569f0eb2215f557001"),
    ("GENESIS|35034614427375864f62cff449cba114d83dc4b50d3c092f51e6f1eac1d74622",
      "9acc95253e23cf307674e7dfc5545b12e06348538187bc14572bba49e51d4545"),
    ("9acc95253e23cf307674e7dfc5545b12e06348538187bc14572bba49e51d4545|7ee5ff91a1eaa8200c345ee0ac7e197ed01eb95d2900bcb9065edf512b9d28bf",
      "5207ee2ff4d58875b72c62858c00fa249ca500c8ea77f592bd6cb8cc5cffbe21")]

/- The other lot, as a correction of the default harvest. -/
def correctedLot : TraceabilityEvent :=
  { otherLot with
    supersedesEventId :=
      some (default : TraceabilityEvent).eventId }

end CanonicalEventStore

end RegEngine
