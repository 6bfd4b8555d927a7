import RegEngine.Shared.CanonicalPersistence.BatchPlan
import RegEngine.Shared.CtePersistence.Effects

/-
  What an idempotent skip of the canonical store means: the
  stored row agrees with the event on the fields of the
  idempotency key. Product, quantity and unit take no part in
  the key.

  Main declarations:
    * `CanonicalEventStore.KeyContent`
    * `CanonicalEventStore.Reachable`
    * `CanonicalEventStore.persistEvent_idempotent_content`
-/

--------
-- The Fields Of A Key
--------

namespace RegEngine

open Python (Value Dict)

namespace CanonicalEventStore

/- The content that an idempotency key covers. -/
structure KeyContent where
  eventType : CTEType
  traceabilityLotCode : String
  eventTimestamp : Int
  sourceSystem : String
  fromFacility : String
  toFacility : String
  kdes : Json

/- The key content of a stored row. -/
def rowContent (row : TraceabilityEventRow) : KeyContent where
  eventType := row.eventType
  traceabilityLotCode := row.traceabilityLotCode
  eventTimestamp := row.eventTimestamp
  sourceSystem := row.sourceSystem
  fromFacility := Python.orElse row.fromFacilityReference ""
  toFacility := Python.orElse row.toFacilityReference ""
  kdes := row.kdes.sortKeys

def eventContent (event : TraceabilityEvent) : KeyContent where
  eventType := event.eventType
  traceabilityLotCode := event.traceabilityLotCode
  eventTimestamp := event.eventTimestamp.instant
  sourceSystem := event.sourceSystem.value
  fromFacility := Python.orElse event.fromFacilityReference ""
  toFacility := Python.orElse event.toFacilityReference ""
  kdes := (Value.toJson (.dict event.kdes)).sortKeys

/- The text whose digest is the key of an event. -/
def keyText (event : TraceabilityEvent) : String :=
  Json.dumpsCompact event.keyDocument.toJson

theorem sortKeys_keyDocument
    (event : TraceabilityEvent) :
    event.keyDocument.toJson.sortKeys =
      .obj
        [("event_type", .str event.eventType.value),
          ("from_facility",
            .str (Python.orElse
              event.fromFacilityReference "")),
          ("kdes",
            (Value.toJson (.dict event.kdes)).sortKeys),
          ("source", .str event.sourceSystem.value),
          ("timestamp", .str event.eventTimestamp.isoformat),
          ("tlc", .str event.traceabilityLotCode),
          ("to_facility",
            .str (Python.orElse
              event.toFacilityReference ""))] := by
  simp only [TraceabilityEvent.keyDocument, Value.toJson,
    Value.toJsonEntries, Json.sortKeys, Json.sortKeysEntries]
  simp [List.insertionSort, List.orderedInsert, Json.EntryLe,
    Json.keyLe]

/- Equal key texts mean equal key contents. -/
theorem eventContent_eq_of_keyText
    {a b : TraceabilityEvent}
    (hText : keyText a = keyText b) :
    eventContent a = eventContent b := by
  have hDocument := Json.dumpsCompact_inj hText
  rw [sortKeys_keyDocument, sortKeys_keyDocument] at hDocument
  simp only [Json.obj.injEq, List.cons.injEq, Prod.mk.injEq,
    Json.str.injEq, true_and, and_true] at hDocument
  rcases hDocument with
    ⟨hType, hFrom, hKdes, hSource, hTime, hLot, hTo⟩
  simp only [eventContent, KeyContent.mk.injEq]
  exact ⟨CTEType.value_inj hType, hLot,
    by rw [Datetime.isoformat_inj hTime], hSource, hFrom, hTo,
    hKdes⟩

--------
-- Reachable States
--------

open CtePersistence (CtePayload StoreResult)

/-
  An event that the store would write under the key computed
  from its content. A caller that gives a digest of its own
  can give any key with it.
-/
def Keyed (rt : Runtime) (event : TraceabilityEvent) : Prop :=
  ∀ prepared, ensurePrepared rt event = .ok prepared →
    prepared.idempotencyKey =
      some (prepared.computeIdempotencyKey rt.sha256Hex)

variable {event : TraceabilityEvent} {rt : Runtime}
variable {db db' : Db} {store : CanonicalEventStore}

/- The store computes the key of an event without a digest. -/
theorem keyed_of_sha256Hash_eq_none
    (hNone : event.sha256Hash = none) :
    Keyed rt event := by
  intro prepared hPrepared
  simp only [ensurePrepared, hNone,
    TraceabilityEvent.prepareForPersistence] at hPrepared
  split at hPrepared
  · simp at hPrepared
  · simp only [Except.ok.injEq] at hPrepared
    rw [← hPrepared]
    rfl

/-
  The states that calls of the writers lead to when the
  canonical store gets keyed events. A rollback goes back to
  an earlier state.
-/
inductive Reachable (rt : Runtime) : Db → Prop where
  | empty (ingestionRuns : List (Uuid × Uuid)) :
      Reachable rt
        { Db.empty with ingestionRuns := ingestionRuns }
  | persistEvent
      {db db' : Db}
      {store : CanonicalEventStore}
      {now : Datetime}
      {event : TraceabilityEvent}
      {result : CanonicalStoreResult} :
      Reachable rt db →
        Keyed rt event →
          store.persistEvent rt now event db =
              .ok (result, db') →
            Reachable rt db'
  | persistEventsBatch
      {db db' : Db}
      {store : CanonicalEventStore}
      {events : List TraceabilityEvent}
      {results : List CanonicalStoreResult} :
      Reachable rt db →
        (∀ event ∈ events, Keyed rt event) →
          store.persistEventsBatch rt events db =
              .ok (results, db') →
            Reachable rt db'
  | storeEvent
      {db db' : Db}
      {now : Datetime}
      {tenantId eventId : Uuid}
      {source : String}
      {payload : CtePayload}
      {result : StoreResult} :
      Reachable rt db →
        CtePersistence.storeEvent rt now tenantId source
            eventId payload db =
            .ok (result, db') →
          Reachable rt db'
  | storeEventsBatch
      {db db' : Db}
      {now : Datetime}
      {tenantId : Uuid}
      {source : String}
      {events : List (Uuid × CtePayload)}
      {results : List StoreResult} :
      Reachable rt db →
        CtePersistence.storeEventsBatch rt now tenantId source
            events db =
            .ok (results, db') →
          Reachable rt db'

/- A row written for an event under its computed key. -/
def RowKeyed (rt : Runtime) (row : TraceabilityEventRow) :
    Prop :=
  ∃ event : TraceabilityEvent,
    row.idempotencyKey =
        some (event.computeIdempotencyKey rt.sha256Hex) ∧
      rowContent row = eventContent event

/- An amended row is written for the same event. -/
theorem RowKeyed.amend
    {row : TraceabilityEventRow}
    (hKeyed : RowKeyed rt row)
    (now : Datetime)
    (event : TraceabilityEvent) :
    RowKeyed rt (amend now event row) := by
  unfold CanonicalEventStore.amend
  split
  · exact hKeyed
  · exact hKeyed

/- The row of a keyed event, whatever its chain hash. -/
theorem rowKeyed_eventRow
    (hKey :
      event.idempotencyKey =
        some (event.computeIdempotencyKey rt.sha256Hex)) :
    RowKeyed rt (eventRow event) :=
  ⟨event, hKey, rfl⟩

--------
-- What The Calls Keep
--------

variable {now : Datetime} {result : CanonicalStoreResult}

/- Storing a keyed event keeps the rows keyed. -/
theorem persistNewEvent_rowsKeyed
    (hKey :
      event.idempotencyKey =
        some (event.computeIdempotencyKey rt.sha256Hex))
    (hTable : ∀ row ∈ db.traceabilityEvents, RowKeyed rt row)
    (hPersist :
      store.persistNewEvent rt now event db =
        .ok (result, db')) :
    ∀ row ∈ db'.traceabilityEvents, RowKeyed rt row := by
  rcases persistNewEvent_cases hPersist with
    ⟨chainHash, kept, -, hRows, hRest⟩
  have hInserted :
      ∀ row ∈ db.traceabilityEvents ++ kept, RowKeyed rt row := by
    intro row hRow
    rcases List.mem_append.mp hRow with hOld | hNew
    · exact hTable row hOld
    · have hOwn := (Table.insertRows_sublist hRows).subset hNew
      rw [List.mem_singleton.mp hOwn]
      exact rowKeyed_eventRow hKey
  rcases hRest with ⟨_, -, -, rfl⟩ | ⟨-, hAfter⟩
  · exact hInserted
  · rw [(afterInsert_events hAfter).2]
    intro other hOther
    rcases List.mem_map.mp hOther with ⟨old, hOld, hEq⟩
    rw [← hEq]
    exact (hInserted old hOld).amend now _

/- Chunks of keyed events keep the rows keyed. -/
theorem insertChunks_rowsKeyed
    {chunks : List (List TraceabilityEvent)}
    {ids : List Uuid}
    (hTable : ∀ row ∈ db.traceabilityEvents, RowKeyed rt row)
    (hEvents :
      ∀ event ∈ chunks.flatten, RowKeyed rt (eventRow event))
    (hInsert : insertChunks rt db chunks = .ok (db', ids)) :
    ∀ row ∈ db'.traceabilityEvents, RowKeyed rt row := by
  rcases insertChunks_rows hInsert with ⟨kept, hRows, rfl, -⟩
  intro row hRow
  rcases List.mem_append.mp hRow with hOld | hNew
  · exact hTable row hOld
  · rcases List.mem_map.mp
        ((Table.insertRows_sublist hRows).subset hNew) with
      ⟨event, hEvent, rfl⟩
    exact hEvents event hEvent

/- A batch of keyed events keeps the rows keyed. -/
theorem persistPrepared_rowsKeyed
    {tenantId : Uuid}
    {events : List TraceabilityEvent}
    {results : List CanonicalStoreResult}
    (hKeys :
      ∀ event ∈ events,
        event.idempotencyKey =
          some (event.computeIdempotencyKey rt.sha256Hex))
    (hTable : ∀ row ∈ db.traceabilityEvents, RowKeyed rt row)
    (hPersist :
      store.persistPrepared rt tenantId events db =
        .ok (results, db')) :
    ∀ row ∈ db'.traceabilityEvents, RowKeyed rt row := by
  rcases persistPrepared_cases hPersist with
    ⟨inserted, ids, hInsert, hPersist⟩
  have hInserted :=
    insertChunks_rowsKeyed hTable (by
      intro event hEvent
      rw [Table.flatten_chunksOf (by decide)] at hEvent
      rcases mem_newEvents_planBatch hEvent with
        ⟨given, hGiven, previous, hEq⟩
      rw [hEq]
      exact rowKeyed_eventRow (hKeys given hGiven)) hInsert
  rw [writeBatch_events hPersist]
  exact hInserted

/- The rows of every reachable state are keyed. -/
theorem reachable_rowsKeyed
    {db : Db}
    (hReach : Reachable rt db) :
    ∀ row ∈ db.traceabilityEvents, RowKeyed rt row := by
  induction hReach with
  | empty ingestionRuns => simp [Db.empty]
  | persistEvent _ hKeyed hPersist ih =>
      rcases persistEvent_cases hPersist with
        ⟨prepared, hPrepared, ⟨_, -, -, hDb⟩ | ⟨-, hNew⟩⟩
      · rw [hDb]
        exact ih
      · exact persistNewEvent_rowsKeyed
          (hKeyed prepared hPrepared) ih hNew
  | persistEventsBatch _ hKeyed hPersist ih =>
      rcases persistEventsBatch_cases hPersist with
        ⟨-, -, hDb⟩ | ⟨tenantId, prepared, -, hPrepared, hBatch⟩
      · rw [hDb]
        exact ih
      · refine persistPrepared_rowsKeyed ?_ ih hBatch
        intro p hMem
        rcases Outcome.mem_mapM hPrepared hMem with
          ⟨event, hEvent, hPrep⟩
        exact hKeyed event hEvent p hPrep
  | storeEvent _ hStore ih =>
      rcases CtePersistence.storeEvent_cases hStore with
        ⟨p, -, ⟨_, -, -, hDb⟩ | ⟨hFind, hNew⟩⟩
      · rw [hDb]
        exact ih
      · rcases CtePersistence.storeNewEvent_effect hFind hNew
          with ⟨_, _, _, -, -, -, -, -, hDb⟩
        rw [hDb]
        exact ih
  | storeEventsBatch _ hStore ih =>
      rcases CtePersistence.storeEventsBatch_cases hStore with
        ⟨_, _, -, -, -, -, hDb⟩
      rw [hDb]
      exact ih

--------
-- Idempotent Skips
--------

/- A store that has nothing under a key stores the event. -/
theorem persistNewEvent_not_idempotent
    (hLookup : lookup db event = none)
    (hPersist :
      store.persistNewEvent rt now event db =
        .ok (result, db')) :
    result.idempotent = false := by
  rcases persistNewEvent_cases hPersist with
    ⟨chainHash, kept, -, -, ⟨stored, hRace, -⟩ | ⟨-, hAfter⟩⟩
  · unfold lostRace at hRace
    split at hRace
    · rename_i hKept
      have hNil : kept = [] := List.isEmpty_iff.mp hKept
      simp only [hNil, List.append_nil] at hRace
      change lookup db event = some stored at hRace
      rw [hLookup] at hRace
      cases hRace
    · cases hRace
  · exact (afterInsert_events hAfter).1

/- A stored event that is looked up is a row of the table. -/
theorem lookup_eq_some
    {db : Db}
    {stored : CanonicalStored}
    (hLookup : lookup db event = some stored) :
    ∃ row ∈ db.traceabilityEvents,
      row.tenantId = event.tenantId ∧
        row.idempotencyKey = event.idempotencyKey ∧
        storedOf row = stored := by
  unfold lookup at hLookup
  cases hKey : dedupKey event with
  | none => simp [hKey] at hLookup
  | some key =>
      simp only [hKey, Option.map_eq_some_iff] at hLookup
      rcases hLookup with ⟨row, hFind, hStored⟩
      unfold Db.findByKey at hFind
      have hBoth := List.find?_some hFind
      simp only [Bool.and_eq_true, beq_iff_eq] at hBoth
      exact ⟨row, List.mem_of_find?_eq_some hFind, hBoth.1,
        by rw [hBoth.2, (dedupKey_eq_some.mp hKey).1], hStored⟩

/-
  When a keyed event is skipped as stored, the row that the
  store reports is one of the event's tenant under its key,
  and agrees with it on the content of the key.
-/
theorem persistEvent_idempotent_content
    (rt : Runtime)
    (store : CanonicalEventStore)
    (now : Datetime)
    (event prepared : TraceabilityEvent)
    (db db' : Db)
    (result : CanonicalStoreResult)
    (hReach : Reachable rt db)
    (hPrepared : ensurePrepared rt event = .ok prepared)
    (hKeyed : Keyed rt event)
    (hFree :
      ∀ text,
        rt.sha256Hex text = rt.sha256Hex (keyText prepared) →
          text = keyText prepared)
    (hPersist :
      store.persistEvent rt now event db = .ok (result, db'))
    (hIdempotent : result.idempotent = true) :
    ∃ row ∈ db.traceabilityEvents,
      row.tenantId = prepared.tenantId ∧
        row.idempotencyKey = prepared.idempotencyKey ∧
        row.eventId = result.eventId ∧
        rowContent row = eventContent prepared := by
  rcases persistEvent_cases hPersist with
    ⟨p, hPrep, ⟨stored, hLookup, hResult, -⟩ | ⟨hLookup, hNew⟩⟩
  · rw [hPrepared, Except.ok.injEq] at hPrep
    rw [← hPrep] at hLookup
    rcases lookup_eq_some hLookup with
      ⟨row, hMem, hTenant, hKey, hStored⟩
    rcases reachable_rowsKeyed hReach row hMem with
      ⟨source, hRowKey, hContent⟩
    rw [hKey, hKeyed prepared hPrepared, Option.some.injEq]
      at hRowKey
    have hText := hFree (keyText source) hRowKey.symm
    refine ⟨row, hMem, hTenant, hKey, ?_, ?_⟩
    · rw [hResult, ← hStored]
      rfl
    · rw [hContent]
      exact eventContent_eq_of_keyText hText
  · rw [persistNewEvent_not_idempotent hLookup hNew]
      at hIdempotent
    exact absurd hIdempotent (by decide)

/- Two events stored one after the other in an empty store. -/
def storeBoth
    (rt : Runtime)
    (first second : TraceabilityEvent) :
    Except StoreError
      (CanonicalStoreResult × List TraceabilityEventRow) := do
  let stored ←
    persistEvent {} rt
      ⟨⟨2026, 1, 2⟩, 0, 0, Datetime.isValid_second⟩ first
      Db.empty
  let skipped ←
    persistEvent {} rt
      ⟨⟨2026, 1, 2⟩, 0, 0, Datetime.isValid_second⟩ second
      stored.2
  return (skipped.1, stored.2.traceabilityEvents)

/- A harvest of two cases, otherwise like the default one. -/
def twoCases : TraceabilityEvent :=
  { (default : TraceabilityEvent) with
    eventId :=
      ⟨"00000000-0000-0000-0000-000000000002", isUuidText_two⟩
    quantity := ⟨"2.0", Python.isFloatRepr_two⟩
    quantity_nonneg := by decide }

/- The digests of the two harvests and of their one key. -/
def harvestDigests : List (String × String) :=
  [("00000000-0000-0000-0000-000000000001|harvesting|LOT-1||1.0|cases|||2026-01-01T00:00:00+00:00|\x7b\x7d",
      "35034614427375864f62cff449cba114d83dc4b50d3c092f51e6f1eac1d74622"),
    ("00000000-0000-0000-0000-000000000002|harvesting|LOT-1||2.0|cases|||2026-01-01T00:00:00+00:00|\x7b\x7d",
      "e3a98146bdba2a45e1bac3916b4b3dac05e17712b588401548961839140c664b"),
    ("\x7b\"event_type\":\"harvesting\",\"from_facility\":\"\",\"kdes\":\x7b\x7d,\"source\":\"webhook_api\",\"timestamp\":\"2026-01-01T00:00:00+00:00\",\"tlc\":\"LOT-1\",\"to_facility\":\"\"\x7d",
      "5d7dd8f6213600eb10dd59c1aca7e54d29595ec9260b7f86fc1ae17ee509c7e1"),
    ("GENESIS|35034614427375864f62cff449cba114d83dc4b50d3c092f51e6f1eac1d74622",
      "9acc95253e23cf307674e7dfc5545b12e06348538187bc14572bba49e51d4545")]

theorem persistEvent_idempotent_twoCases :
    ∃ db db' prepared result,
      persistEvent {} (Runtime.ofDigests harvestDigests)
          ⟨⟨2026, 1, 2⟩, 0, 0, by decide⟩ twoCases db =
        .ok (result, db') ∧
      result.idempotent = true ∧
      ∃ row ∈ db.traceabilityEvents,
        row.tenantId = prepared.tenantId ∧
          row.idempotencyKey = prepared.idempotencyKey ∧
          row.eventId = result.eventId ∧
          rowContent row = eventContent prepared := by
  have hRun :
      (storeBoth (Runtime.ofDigests harvestDigests) default
        twoCases).toOption.map (fun out => out.1.idempotent) =
        some true := by
    decide +kernel
  have hText :
      (ensurePrepared (Runtime.ofDigests harvestDigests)
        twoCases).toOption.map (fun prepared =>
          ((Runtime.ofDigests harvestDigests).sha256Hex
            (keyText prepared),
            keyText prepared == (harvestDigests.map
              Prod.fst).getD 2 "")) =
        some ("5d7dd8f6213600eb10dd59c1aca7e54d29595ec9260b7f86fc1ae17ee509c7e1",
          true) := by
    decide +kernel
  cases hBoth :
      storeBoth (Runtime.ofDigests harvestDigests) default
        twoCases with
  | error raised => simp [hBoth, Except.toOption] at hRun
  | ok out =>
      simp only [hBoth, Except.toOption, Option.map_some,
        Option.some.injEq] at hRun
      rcases Outcome.bind_eq_ok.mp hBoth with
        ⟨⟨stored, db⟩, hStored, hBoth⟩
      rcases Outcome.bind_eq_ok.mp hBoth with
        ⟨⟨result, db'⟩, hSkipped, hBoth⟩
      rw [← Outcome.pure_eq_ok.mp hBoth] at hRun
      cases hPrepared :
          ensurePrepared (Runtime.ofDigests harvestDigests)
            twoCases with
      | error raised =>
          simp [hPrepared, Except.toOption] at hText
      | ok prepared =>
          simp only [hPrepared, Except.toOption,
            Option.map_some, Option.some.injEq, Prod.mk.injEq,
            beq_iff_eq] at hText
          refine ⟨db, db', prepared, result, hSkipped, hRun, ?_⟩
          refine persistEvent_idempotent_content _ {} _ twoCases
            prepared db db' result
            (.persistEvent (.empty [])
              (keyed_of_sha256Hash_eq_none rfl) hStored)
            hPrepared (keyed_of_sha256Hash_eq_none rfl) ?_
            hSkipped hRun
          intro text hSame
          have hMem :=
            Runtime.mem_of_ofDigests
              (hSame.trans hText.1) (by decide)
          rw [hText.2]
          simpa [harvestDigests] using hMem

/- An event with a digest and a key that its caller gave. -/
def givenKey (event : TraceabilityEvent) : TraceabilityEvent :=
  { event with
    sha256Hash :=
      some "35034614427375864f62cff449cba114d83dc4b50d3c092f51e6f1eac1d74622"
    idempotencyKey := some "order-7" }

/-
  The second harvest is skipped, and the stored row has another
  quantity. Under a key that the caller gave, it may have
  another lot code as well.
-/
theorem storeBoth_skips_other_content :
    (storeBoth (Runtime.ofDigests harvestDigests) default
        twoCases).toOption.map (fun out =>
          (out.1.idempotent,
            out.2.map (fun row =>
              (decide (row.eventId = out.1.eventId),
                decide (row.quantity = twoCases.quantity))))) =
        some (true, [(true, false)]) ∧
      (storeBoth (Runtime.ofDigests harvestDigests)
        (givenKey default)
        (givenKey
          { twoCases with
            traceabilityLotCode := "LOT-2"
            lotCode_length := by decide })).toOption.map
          (fun out =>
            (out.1.idempotent,
              out.2.map (fun row =>
                decide (row.traceabilityLotCode = "LOT-2")))) =
        some (true, [false]) := by
  constructor <;> decide +kernel

end CanonicalEventStore

end RegEngine
