import RegEngine.Library.Region
import RegEngine.Shared.Ledger
import RegEngine.Shared.Schema.Statements

/-
  What the canonical writers leave in the tables: the tables
  that each step writes, and the rows that a call adds when
  no key conflict drops one of them.

  Main declarations:
    * `Db.usageTables`
    * `Db.legacyTables`
    * `Db.linkTable`
-/

--------
-- The Size Check
--------

namespace RegEngine

namespace TraceabilityEvent

/- The size check on the characters of the payload. -/
theorem enforceRawPayloadSize_dumped :
    enforceRawPayloadSize =
      fun maxBytes e =>
        if e.rawPayload.isEmpty then
          .ok ()
        else if maxBytes <
            (Json.dump Json.spaced (Python.Value.toJson
              (.dict e.rawPayload))).length then
          .error (.rawPayloadTooLarge e.rawPayloadSize maxBytes)
        else
          .ok () := by
  funext maxBytes e
  rw [enforceRawPayloadSize,
    rawPayloadSize, Json.dumpsUnsorted,
    String.length_ofList]

end TraceabilityEvent

end RegEngine

--------
-- The Tables Of Each Step
--------

namespace RegEngine

namespace Db

def usageTables :
    Region Db (List UsageLedgerRow × List UsageCounterRow) where
  get db := (db.usageEventLedger, db.usageCounters)
  set db tables :=
    { db with
      usageEventLedger := tables.1
      usageCounters := tables.2 }
  get_set _ _ := rfl
  set_get _ := rfl
  set_set _ _ _ := rfl

def legacyTables :
    Region Db (List CteEventRow × List CteKdeRow) where
  get db := (db.cteEvents, db.cteKdes)
  set db tables :=
    { db with
      cteEvents := tables.1
      cteKdes := tables.2 }
  get_set _ _ := rfl
  set_get _ := rfl
  set_set _ _ _ := rfl

def linkTable : Region Db (List TransformationLinkRow) where
  get := Db.transformationLinks
  set db table := { db with transformationLinks := table }
  get_set _ _ := rfl
  set_get _ := rfl
  set_set _ _ _ := rfl

/- The ledger and the canonical events. -/
def canonicalTables :
    Region Db (List TraceabilityEventRow × List HashChainRow) where
  get db := (db.traceabilityEvents, db.hashChain)
  set db tables :=
    { db with
      traceabilityEvents := tables.1
      hashChain := tables.2 }
  get_set _ _ := rfl
  set_get _ := rfl
  set_set _ _ _ := rfl

/- A link added unless its event has it. -/
def addLink
    (table : List TransformationLinkRow)
    (row : TransformationLinkRow) :
    List TransformationLinkRow :=
  if TransformationLinkRow.constraints.conflict table row then
    table
  else
    table ++ [row]

/- A link insert changes its table only. -/
theorem insertTransformationLink_eq
    (db : Db)
    (row : TransformationLinkRow) :
    db.insertTransformationLink row =
      { db with
        transformationLinks :=
          addLink db.transformationLinks row } := by
  have hViolation :
      TransformationLinkRow.constraints.violation
        db.transformationLinks row = none := by
    simp [Table.Constraints.violation,
      TransformationLinkRow.constraints]
  have hCheck :
      TransformationLinkRow.constraints.check row = none := rfl
  unfold insertTransformationLink addLink Table.insertRow
  simp only [hCheck, hViolation]
  split <;> rename_i hMatch
  · split at hMatch <;>
      simp_all
  · split at hMatch <;> simp at hMatch

end Db

namespace CanonicalEventStore

/- Metering acts on the usage tables. -/
theorem meter_acts
    (store : CanonicalEventStore)
    (event : TraceabilityEvent) :
    Db.usageTables.Acts (fun _ => ())
      (fun db => store.meter db event) := by
  by_cases hMeter : store.meterUsage = true
  · refine ⟨fun _ tables => do
      let utc ←
        Outcome.ofOption .overflowError event.eventTimestamp.utc
      let period ← Usage.currentBillingPeriod utc.date
      let claim ←
        Table.insertRow UsageLedgerRow.constraints tables.1
          ⟨event.tenantId, event.eventId, period.1⟩
      if claim.2 then
        return (claim.1,
          Usage.countUnit tables.2 event.tenantId period.1
            period.2)
      else
        return tables, ?_⟩
    intro db
    simp only [meter, hMeter, if_true,
      Usage.incrementUsageForEvent]
    cases Outcome.ofOption StoreError.overflowError
        event.eventTimestamp.utc with
    | error raised => rfl
    | ok utc =>
        cases hPeriod : Usage.currentBillingPeriod utc.date with
        | error raised =>
            simp [hPeriod, bind, Except.bind, Except.map]
        | ok period =>
            cases hClaim :
                Table.insertRow UsageLedgerRow.constraints
                  db.usageEventLedger
                  ⟨event.tenantId, event.eventId, period.1⟩ with
            | error raised =>
                simp [hPeriod, hClaim, bind, Except.bind,
                  Except.map, Db.usageTables]
            | ok claim =>
                cases hFlag : claim.2 <;>
                  simp [hPeriod, hClaim, hFlag, bind,
                    Except.bind, Except.map, Db.usageTables,
                    pure, Except.pure]
  · simp only [meter, hMeter]
    exact Region.acts_ok _ _

/- The id that a store reports for its legacy copy. -/
def legacyIdOf
    (store : CanonicalEventStore)
    (event : TraceabilityEvent) :
    Option Uuid :=
  if store.dualWrite then some event.eventId else none

/- The legacy copy without its id. -/
def copyLegacy
    (store : CanonicalEventStore)
    (db : Db)
    (event : TraceabilityEvent) :
    Except StoreError Db := do
  let copied ← store.dualWriteStep db event
  return copied.2

/- The legacy copy reports the event's own id. -/
theorem dualWriteStep_eq
    (store : CanonicalEventStore)
    (db : Db)
    (event : TraceabilityEvent) :
    store.dualWriteStep db event =
      (store.copyLegacy db event).map (fun copied =>
        (store.legacyIdOf event, copied)) := by
  unfold copyLegacy dualWriteStep legacyIdOf
  by_cases hDual : store.dualWrite = true
  · simp only [hDual, if_true]
    unfold LegacyDualWrite.dualWriteLegacy
    cases db.insertCteEvent (LegacyDualWrite.legacyRow event) with
    | error raised => rfl
    | ok inserted =>
        cases hKdes :
            (CtePersistence.kdeRows event.tenantId event.eventId
              event.kdes).foldlM Db.insertCteKde inserted.1 <;>
          simp [hKdes, bind, Except.bind, Except.map, pure,
            Except.pure]
  · simp [hDual, bind, Except.bind, Except.map, pure,
      Except.pure]

/- A legacy event insert acts on the legacy tables. -/
theorem insertCteEvent_acts
    (row : CteEventRow) :
    Db.legacyTables.Acts (fun _ => ()) (fun db => do
      let inserted ← db.insertCteEvent row
      return inserted.1) := by
  refine ⟨fun _ tables => do
    let out ←
      Table.insertRow CteEventRow.constraints tables.1 row
    return (out.1, tables.2), ?_⟩
  intro db
  unfold Db.insertCteEvent
  cases hRow :
      Table.insertRow CteEventRow.constraints db.cteEvents
        row <;>
    simp [hRow, bind, Except.bind, Except.map, pure,
      Except.pure, Db.legacyTables]

/- A KDE insert acts on the legacy tables. -/
theorem insertCteKde_acts
    (row : CteKdeRow) :
    Db.legacyTables.Acts (fun _ => ()) (fun db =>
      db.insertCteKde row) := by
  refine ⟨fun _ tables =>
    if tables.1.any (fun event =>
        event.id == row.cteEventId) then
      .ok (tables.1, Db.addKde tables.2 row)
    else
      .error (broken "cte_kdes_cte_event_id_fkey"), ?_⟩
  intro db
  simp only [Db.insertCteKde_eq, Db.hasCteEvent,
    Db.legacyTables]
  by_cases hRef :
      db.cteEvents.any (fun event =>
        event.id == row.cteEventId) = true
  · simp [hRef, Except.map]
  · simp [hRef, Except.map]

theorem copyLegacy_acts
    (store : CanonicalEventStore)
    (event : TraceabilityEvent) :
    Db.legacyTables.Acts (fun _ => ())
      (fun db => store.copyLegacy db event) := by
  by_cases hDual : store.dualWrite = true
  · have hSteps :=
      (insertCteEvent_acts
        (LegacyDualWrite.legacyRow event)).bind
        (Region.Acts.foldlM insertCteKde_acts (fun _ _ => rfl)
          (CtePersistence.kdeRows event.tenantId event.eventId
            event.kdes))
        (fun _ _ => rfl)
    refine hSteps.congr ?_
    intro db
    simp only [copyLegacy, dualWriteStep, hDual, if_true,
      LegacyDualWrite.dualWriteLegacy]
    cases db.insertCteEvent (LegacyDualWrite.legacyRow event) with
    | error raised => rfl
    | ok inserted =>
        cases hKdes :
            (CtePersistence.kdeRows event.tenantId event.eventId
              event.kdes).foldlM Db.insertCteKde inserted.1 <;>
          simp [hKdes, bind, Except.bind, pure, Except.pure]
  · simp only [copyLegacy, dualWriteStep, hDual]
    exact Region.acts_ok _ _

/- The link of one input lot, last seen in an event. -/
def addInputLink
    (rt : Runtime)
    (event : TraceabilityEvent)
    (inputs : List (String × Python.Dict))
    (lastSeen : String → Option Uuid)
    (table : List TransformationLinkRow)
    (tlc : String) :
    List TransformationLinkRow :=
  match linkRow rt event (linkProcessType event)
      (inputDetail inputs (Python.strip tlc))
      (Python.strip tlc) (lastSeen (Python.strip tlc)) with
  | some row => Db.addLink table row
  | none => table

/- Linking one input lot adds to the table of links. -/
theorem linkInput_eq
    (rt : Runtime)
    (event : TraceabilityEvent)
    (inputs : List (String × Python.Dict))
    (db : Db)
    (tlc : String) :
    linkInput rt event inputs db tlc =
      { db with
        transformationLinks :=
          addInputLink rt event inputs
            (latestLotEvent db event.tenantId)
            db.transformationLinks tlc } := by
  unfold linkInput addInputLink
  split
  · rename_i row hRow
    simp only [hRow, Db.insertTransformationLink_eq]
  · rename_i hRow
    simp only [hRow]

/- Linking the input lots adds to the table of links. -/
theorem foldl_linkInput_eq
    (rt : Runtime)
    (event : TraceabilityEvent)
    (inputs : List (String × Python.Dict))
    (db : Db)
    (codes : List String) :
    codes.foldl (linkInput rt event inputs) db =
      { db with
        transformationLinks :=
          codes.foldl
            (addInputLink rt event inputs
              (latestLotEvent db event.tenantId))
            db.transformationLinks } := by
  induction codes generalizing db with
  | nil => rfl
  | cons tlc rest ih =>
      rw [List.foldl_cons, ih, linkInput_eq]
      rfl

/- Creating links reads the events and writes the links. -/
theorem createTransformationLinks_acts
    (rt : Runtime)
    (event : TraceabilityEvent) :
    Db.linkTable.Acts Db.traceabilityEvents (fun db =>
      createTransformationLinks rt db event) := by
  refine ⟨fun events table =>
    if namesInputLots event then
      (inputsByTlc event.kdes).map (fun inputs =>
        (inputLotCodes event).foldl
          (addInputLink rt event inputs
            (latestLotEvent
              { Db.empty with traceabilityEvents := events }
              event.tenantId))
          table)
    else
      .ok table, ?_⟩
  intro db
  unfold createTransformationLinks
  split
  · cases inputsByTlc event.kdes with
    | error raised => rfl
    | ok inputs =>
        refine congrArg Except.ok ?_
        rw [foldl_linkInput_eq]
        rfl
  · rfl

--------
-- Amendments
--------

/- A row after the amendment step of an event. -/
def amend
    (now : Datetime)
    (event : TraceabilityEvent)
    (row : TraceabilityEventRow) :
    TraceabilityEventRow :=
  if event.supersedesEventId = some row.eventId ∧
      row.tenantId = event.tenantId ∧ row.status = .active then
    { row with
      status := .superseded
      amendedAt := some now.instant }
  else
    row

@[simp]
theorem amend_eventId
    (now : Datetime)
    (event : TraceabilityEvent)
    (row : TraceabilityEventRow) :
    (amend now event row).eventId = row.eventId := by
  unfold amend
  split <;> rfl

@[simp]
theorem amend_tenantId
    (now : Datetime)
    (event : TraceabilityEvent)
    (row : TraceabilityEventRow) :
    (amend now event row).tenantId = row.tenantId := by
  unfold amend
  split <;> rfl

@[simp]
theorem amend_sha256Hash
    (now : Datetime)
    (event : TraceabilityEvent)
    (row : TraceabilityEventRow) :
    (amend now event row).sha256Hash = row.sha256Hash := by
  unfold amend
  split <;> rfl

variable {event : TraceabilityEvent} {now : Datetime}
variable {rt : Runtime} {db db' : Db}
variable {result : CanonicalStoreResult}
variable {store : CanonicalEventStore} {entry : HashChainRow}

/- An amendment rejects no row. -/
theorem amend_status_eq_rejected
    {row : TraceabilityEventRow} :
    (amend now event row).status = .rejected ↔
      row.status = .rejected := by
  unfold amend
  split
  · rename_i hActive
    simp [hActive.2.2]
  · rfl

/- The amendment step maps the canonical rows. -/
theorem supersede_eq
    {db db' : Db}
    (hAmend : supersede db now event = .ok db') :
    db' =
      { db with
        traceabilityEvents :=
          db.traceabilityEvents.map (amend now event) } := by
  unfold supersede at hAmend
  cases hTarget : event.supersedesEventId with
  | none =>
      simp only [hTarget, Except.ok.injEq] at hAmend
      have hSame : amend now event = id := by
        funext row
        simp [amend, hTarget]
      rw [hSame, List.map_id, hAmend]
  | some target =>
      simp only [hTarget] at hAmend
      split at hAmend
      · simp at hAmend
      · simp only [Except.ok.injEq] at hAmend
        rw [← hAmend, markSuperseded]
        congr 1
        refine List.map_congr_left ?_
        intro row _
        simp [amend, hTarget, eq_comm]

--------
-- The Single Writer
--------

open CtePersistence (computeChainHash chainStart)

/- An event with the chain hash that follows a digest. -/
def chainedAfter
    (rt : Runtime)
    (previousChainHash : Option String)
    (event : TraceabilityEvent) :
    TraceabilityEvent :=
  { event with
    chainHash :=
      some (computeChainHash rt.sha256Hex (eventHash event)
        previousChainHash) }

/- The chain row of an event that follows a digest. -/
def chainRowAfter
    (rt : Runtime)
    (nextSequence : Int)
    (previousChainHash : Option String)
    (event : TraceabilityEvent) :
    HashChainRow :=
  chainRow event nextSequence previousChainHash
    (computeChainHash rt.sha256Hex (eventHash event)
      previousChainHash)

/- The row of an event, when its payload is not too large. -/
theorem eventToParams_eq
    {row : TraceabilityEventRow}
    (hRow : eventToParams rt event = .ok row) :
    row = eventRow event := by
  unfold eventToParams at hRow
  simp only at hRow
  split at hRow
  · simp at hRow
  · simp only [Except.ok.injEq] at hRow
    exact hRow.symm

/- The row of an event on the characters of the payload. -/
theorem eventToParams_dumped :
    eventToParams =
      fun rt e =>
        if rawPayloadMaxBytes rt.rawPayloadMaxBytes <
            (Json.dump Json.spaced (Python.Value.toJson
              (.dict e.rawPayload))).length then
          .error (.rawPayloadTooLarge e.rawPayloadSize
            (rawPayloadMaxBytes rt.rawPayloadMaxBytes))
        else
          .ok (eventRow e) := by
  funext rt e
  rw [eventToParams,
    TraceabilityEvent.rawPayloadSize, Json.dumpsUnsorted,
    String.length_ofList]

/- Preparing an event keeps what its digests do not give. -/
theorem ensurePrepared_keeps
    {event prepared : TraceabilityEvent}
    (hPrepared :
      ensurePrepared rt event =
        .ok prepared) :
    prepared.tenantId = event.tenantId ∧
      prepared.eventTimestamp = event.eventTimestamp ∧
      prepared.confidenceScore = event.confidenceScore := by
  have hPrepare :
      ∀ maxBytes,
        event.prepareForPersistence rt.sha256Hex maxBytes =
            .ok prepared →
          prepared.tenantId = event.tenantId ∧
            prepared.eventTimestamp = event.eventTimestamp ∧
            prepared.confidenceScore =
              event.confidenceScore := by
    intro maxBytes hPrep
    unfold TraceabilityEvent.prepareForPersistence at hPrep
    split at hPrep
    · simp at hPrep
    · simp only [Except.ok.injEq] at hPrep
      rw [← hPrep]
      unfold TraceabilityEvent.applyFtlHint
      split
      · exact ⟨rfl, rfl, rfl⟩
      · simp only
        split <;> exact ⟨rfl, rfl, rfl⟩
  unfold ensurePrepared at hPrepared
  split at hPrepared
  · split at hPrepared
    · exact hPrepare _ hPrepared
    · simp only [Except.ok.injEq] at hPrepared
      rw [hPrepared]
      exact ⟨rfl, rfl, rfl⟩
  · exact hPrepare _ hPrepared

/- Preparing an event keeps its tenant. -/
theorem ensurePrepared_tenantId
    {event prepared : TraceabilityEvent}
    (hPrepared :
      ensurePrepared rt event =
        .ok prepared) :
    prepared.tenantId = event.tenantId :=
  (ensurePrepared_keeps hPrepared).1

/- Preparing the events of a batch keeps their tenant. -/
theorem mapM_ensurePrepared_tenantId
    {tenantId : Uuid}
    {events prepared : List TraceabilityEvent}
    (hTenant : ∀ event ∈ events, event.tenantId = tenantId)
    (hPrepared :
      events.mapM (ensurePrepared rt) = .ok prepared) :
    ∀ event ∈ prepared, event.tenantId = tenantId := by
  intro p hMem
  rcases Outcome.mem_mapM hPrepared hMem with
    ⟨event, hEvent, hOwn⟩
  rw [ensurePrepared_tenantId hOwn]
  exact hTenant event hEvent

/- A call finds the event stored, or stores it anew. -/
theorem persistEvent_cases
    (hPersist :
      store.persistEvent rt now event db = .ok (result, db')) :
    ∃ prepared,
      ensurePrepared rt event = .ok prepared ∧
        ((∃ stored,
            lookup db prepared = some stored ∧
              result = idempotentResult stored ∧ db' = db) ∨
          (lookup db prepared = none ∧
            store.persistNewEvent rt now prepared db =
              .ok (result, db'))) := by
  unfold persistEvent at hPersist
  rcases Outcome.bind_eq_ok.mp hPersist with
    ⟨prepared, hPrepared, hPersist⟩
  refine ⟨prepared, hPrepared, ?_⟩
  cases hLookup : lookup db prepared with
  | some stored =>
      rw [hLookup] at hPersist
      have hPair := Outcome.pure_eq_ok.mp hPersist
      simp only [Prod.mk.injEq] at hPair
      exact Or.inl ⟨stored, rfl, hPair.1.symm, hPair.2.symm⟩
  | none =>
      rw [hLookup] at hPersist
      exact Or.inr ⟨rfl, hPersist⟩

/- A guarded chain row of a stored event is inserted. -/
theorem insertGuardedChainEntry_eq
    {db db' : Db}
    {row : HashChainRow}
    (hEvent :
      ∃ event ∈ db.traceabilityEvents,
        event.eventId = row.cteEventId ∧
          event.tenantId = row.tenantId)
    (hInsert : insertGuardedChainEntry db row = .ok db') :
    db' = { db with hashChain := db.hashChain ++ [row] } := by
  unfold insertGuardedChainEntry at hInsert
  rw [if_pos (by
    rcases hEvent with ⟨event, hMem, hId, hTenant⟩
    rw [List.any_eq_true]
    exact ⟨event, hMem, by simp [hId, hTenant]⟩)] at hInsert
  exact Ledger.insertChainEntry_eq hInsert

theorem chainStep_keeps
    {ν : Type}
    {db db' : Db}
    {row : HashChainRow}
    (view : Db → ν)
    (hBlind :
      ∀ db chain, view { db with hashChain := chain } = view db)
    (hChain : store.chainStep db row = .ok db') :
    view db' = view db := by
  unfold chainStep insertGuardedChainEntry at hChain
  split at hChain
  · simp only [Except.ok.injEq] at hChain
    rw [hChain]
  · split at hChain
    · rw [Ledger.insertChainEntry_eq hChain, hBlind]
    · simp only [Except.ok.injEq] at hChain
      rw [hChain]

theorem afterInsert_cases
    (hAfter :
      store.afterInsert rt now event entry db =
        .ok (result, db')) :
    result = insertedResult event (store.legacyIdOf event) ∧
      ∃ metered amended chained copied,
        store.meter db event = .ok metered ∧
          supersede metered now event = .ok amended ∧
          store.chainStep amended entry = .ok chained ∧
          store.copyLegacy chained event = .ok copied ∧
          createTransformationLinks rt copied event =
            .ok db' := by
  unfold afterInsert at hAfter
  rcases Outcome.bind_eq_ok.mp hAfter with
    ⟨metered, hMeter, hAfter⟩
  rcases Outcome.bind_eq_ok.mp hAfter with
    ⟨amended, hAmend, hAfter⟩
  rcases Outcome.bind_eq_ok.mp hAfter with
    ⟨chained, hChain, hAfter⟩
  rcases Outcome.bind_eq_ok.mp hAfter with
    ⟨⟨legacyId, copied⟩, hCopy, hAfter⟩
  rcases Outcome.bind_eq_ok.mp hAfter with
    ⟨linked, hLinks, hAfter⟩
  have hPair := Outcome.pure_eq_ok.mp hAfter
  simp only [Prod.mk.injEq] at hPair
  rw [dualWriteStep_eq] at hCopy
  rcases Outcome.map_eq_ok.mp hCopy with
    ⟨copy, hLegacy, hCopy⟩
  simp only [Prod.mk.injEq] at hCopy
  rw [hCopy.2] at hLegacy
  refine ⟨?_, metered, amended, chained, copied, hMeter, hAmend,
    hChain, hLegacy, ?_⟩
  · rw [← hPair.1, ← hCopy.1]
  · rw [← hPair.2]
    exact hLinks

/- The steps after the insert amend the canonical rows. -/
theorem afterInsert_events
    (hAfter :
      store.afterInsert rt now event entry db =
        .ok (result, db')) :
    result.idempotent = false ∧
      db'.traceabilityEvents =
        db.traceabilityEvents.map (amend now event) := by
  rcases afterInsert_cases hAfter with
    ⟨rfl, metered, amended, chained, copied, hMeter, hAmend,
      hChain, hLegacy, hLinks⟩
  refine ⟨rfl, ?_⟩
  rw [(createTransformationLinks_acts rt event).keeps
      (fun _ _ => rfl : Db.linkTable.Blind
        Db.traceabilityEvents) hLinks,
    (copyLegacy_acts store event).keeps
      (fun _ _ => rfl : Db.legacyTables.Blind
        Db.traceabilityEvents) hLegacy,
    chainStep_keeps Db.traceabilityEvents (fun _ _ => rfl)
      hChain,
    supersede_eq hAmend,
    (meter_acts store event).keeps
      (fun _ _ => rfl : Db.usageTables.Blind
        Db.traceabilityEvents) hMeter]

/- The steps after the insert of a canonical row. -/
theorem afterInsert_effect
    (hSkip : store.skipChainWrite = false)
    (hEvent :
      ∃ row ∈ db.traceabilityEvents,
        row.eventId = entry.cteEventId ∧
          row.tenantId = entry.tenantId)
    (hAfter :
      store.afterInsert rt now event entry db =
        .ok (result, db')) :
    result = insertedResult event (store.legacyIdOf event) ∧
      db'.traceabilityEvents =
        db.traceabilityEvents.map (amend now event) ∧
      db'.hashChain = db.hashChain ++ [entry] := by
  rcases afterInsert_cases hAfter with
    ⟨rfl, metered, amended, chained, copied, hMeter, hAmend,
      hChain, hLegacy, hLinks⟩
  have hMetered :=
    (meter_acts store event).keeps
      (fun _ _ => rfl : Db.usageTables.Blind
        Db.canonicalTables.get) hMeter
  have hCopied :=
    (copyLegacy_acts store event).keeps
      (fun _ _ => rfl : Db.legacyTables.Blind
        Db.canonicalTables.get) hLegacy
  have hLinked :=
    (createTransformationLinks_acts rt event).keeps
      (fun _ _ => rfl : Db.linkTable.Blind
        Db.canonicalTables.get) hLinks
  simp only [Db.canonicalTables, Prod.mk.injEq]
    at hMetered hCopied hLinked
  have hAmended := supersede_eq hAmend
  unfold chainStep at hChain
  rw [hSkip] at hChain
  have hChained :=
    insertGuardedChainEntry_eq (by
      rcases hEvent with ⟨row, hMem, hId, hTenant⟩
      refine ⟨amend now event row, ?_, by simpa using hId,
        by simpa using hTenant⟩
      rw [hAmended, hMetered.1]
      exact List.mem_map_of_mem hMem) hChain
  refine ⟨rfl, ?_, ?_⟩
  · rw [hLinked.1, hCopied.1, hChained, hAmended, hMetered.1]
  · rw [hLinked.2, hCopied.2, hChained, hAmended, hMetered.2]

/-
  A new event is inserted; then it is found to have lost the
  race for its key, or the steps after the insert follow.
-/
theorem persistNewEvent_cases
    (hPersist :
      store.persistNewEvent rt now event db =
        .ok (result, db')) :
    ∃ chainHash kept,
      let chained := { event with chainHash := some chainHash }
      let inserted :=
        { db with
          traceabilityEvents := db.traceabilityEvents ++ kept }
      store.eventChainHash db event
          (computeChainHash rt.sha256Hex (eventHash event)
            (chainStart db event.tenantId).1) =
          .ok chainHash ∧
        Table.insertRows TraceabilityEventRow.constraints
            db.traceabilityEvents [eventRow chained] =
          .ok (db.traceabilityEvents ++ kept, kept) ∧
        ((∃ stored,
            lostRace (inserted, kept) chained = some stored ∧
              result = idempotentResult stored ∧
              db' = inserted) ∨
          lostRace (inserted, kept) chained = none ∧
            store.afterInsert rt now chained
                (chainRow chained
                  (chainStart db event.tenantId).2
                  (chainStart db event.tenantId).1 chainHash)
                inserted =
              .ok (result, db')) := by
  unfold persistNewEvent at hPersist
  rcases Outcome.bind_eq_ok.mp hPersist with
    ⟨chainHash, hHash, hPersist⟩
  rcases Outcome.bind_eq_ok.mp hPersist with
    ⟨row, hRow, hPersist⟩
  rcases Outcome.bind_eq_ok.mp hPersist with
    ⟨⟨inserted, kept⟩, hInsert, hPersist⟩
  rw [eventToParams_eq hRow] at hInsert
  rcases Db.insertTraceabilityEvents_cases hInsert with
    ⟨hRows, -, rfl⟩
  refine ⟨chainHash, kept, hHash, hRows, ?_⟩
  split at hPersist
  · rename_i stored hRace
    have hPair := Outcome.pure_eq_ok.mp hPersist
    simp only [Prod.mk.injEq] at hPair
    exact .inl ⟨stored, hRace, hPair.1.symm, hPair.2.symm⟩
  · rename_i hRace
    exact .inr ⟨hRace, hPersist⟩

/- A new event whose row is free lands. -/
theorem persistNewEvent_of_free
    (hFree :
      TraceabilityEventRow.constraints.conflict
        db.traceabilityEvents (eventRow event) = false)
    (hPersist :
      store.persistNewEvent rt now event db =
        .ok (result, db')) :
    ∃ chainHash,
      let chained := { event with chainHash := some chainHash }
      let table := db.traceabilityEvents ++ [eventRow chained]
      store.eventChainHash db event
          (computeChainHash rt.sha256Hex (eventHash event)
            (chainStart db event.tenantId).1) =
          .ok chainHash ∧
        Table.insertRows TraceabilityEventRow.constraints
            db.traceabilityEvents [eventRow chained] =
          .ok (table, [eventRow chained]) ∧
        store.afterInsert rt now chained
            (chainRow chained (chainStart db event.tenantId).2
              (chainStart db event.tenantId).1 chainHash)
            { db with traceabilityEvents := table } =
          .ok (result, db') := by
  rcases persistNewEvent_cases hPersist with
    ⟨chainHash, kept, hHash, hRows, hRest⟩
  have hKept :=
    Table.insertRows_of_free ⟨fun other hOther => by
      rw [List.mem_singleton.mp hOther]
      exact hFree, by simp⟩ hRows
  rw [hKept] at hRows hRest
  rcases hRest with ⟨stored, hRace, -⟩ | ⟨-, hAfter⟩
  · cases hRace
  · exact ⟨chainHash, hHash, hRows, hAfter⟩

/- A new event adds its row and its chain row. -/
theorem persistNewEvent_effect
    (hSkip : store.skipChainWrite = false)
    (hFree :
      TraceabilityEventRow.constraints.conflict
        db.traceabilityEvents (eventRow event) = false)
    (hPersist :
      store.persistNewEvent rt now event db =
        .ok (result, db')) :
    result =
        insertedResult
          (chainedAfter rt (chainStart db event.tenantId).1
            event)
          (store.legacyIdOf event) ∧
      db'.traceabilityEvents =
        (db.traceabilityEvents ++
          [eventRow
            (chainedAfter rt (chainStart db event.tenantId).1
              event)]).map (amend now event) ∧
      db'.hashChain =
        db.hashChain ++
          [chainRowAfter rt (chainStart db event.tenantId).2
            (chainStart db event.tenantId).1 event] := by
  rcases persistNewEvent_of_free hFree hPersist with
    ⟨chainHash, hHash, -, hAfter⟩
  rw [eventChainHash, hSkip] at hHash
  cases hHash
  exact afterInsert_effect hSkip
    ⟨_, List.mem_append_right _ (List.mem_singleton_self _),
      rfl, rfl⟩ hAfter

--------
-- Writing Beside The Legacy Store
--------

/- The tables that a store beside the legacy one leaves alone. -/
def besideTables (db : Db) :
    List CteEventRow × List HashChainRow :=
  (db.cteEvents, db.hashChain)

/- The steps after the insert write neither of them. -/
theorem afterInsert_beside
    (hSkip : store.skipChainWrite = true)
    (hDual : store.dualWrite = false)
    (hAfter :
      store.afterInsert rt now event entry db =
        .ok (result, db')) :
    besideTables db' = besideTables db := by
  rcases afterInsert_cases hAfter with
    ⟨rfl, metered, amended, chained, copied, hMeter, hAmend,
      hChain, hLegacy, hLinks⟩
  rw [chainStep, hSkip] at hChain
  cases hChain
  rw [copyLegacy, dualWriteStep, hDual] at hLegacy
  cases hLegacy
  have hMetered :=
    (meter_acts store event).keeps
      (fun _ _ => rfl : Db.usageTables.Blind besideTables)
      hMeter
  have hLinked :=
    (createTransformationLinks_acts rt event).keeps
      (fun _ _ => rfl : Db.linkTable.Blind besideTables) hLinks
  calc besideTables db'
      = besideTables amended := hLinked
    _ = besideTables metered := by rw [supersede_eq hAmend]; rfl
    _ = besideTables db := hMetered

/- A call beside the legacy store writes neither table. -/
theorem persistEvent_beside
    (hSkip : store.skipChainWrite = true)
    (hDual : store.dualWrite = false)
    (hPersist :
      store.persistEvent rt now event db = .ok (result, db')) :
    besideTables db' = besideTables db := by
  rcases persistEvent_cases hPersist with
    ⟨prepared, -, ⟨stored, -, -, rfl⟩ | ⟨-, hNew⟩⟩
  · rfl
  · rcases persistNewEvent_cases hNew with
      ⟨chainHash, kept, -, -, ⟨_, -, -, rfl⟩ | ⟨-, hAfter⟩⟩
    · rfl
    · exact (afterInsert_beside hSkip hDual hAfter).trans rfl

end CanonicalEventStore

end RegEngine
