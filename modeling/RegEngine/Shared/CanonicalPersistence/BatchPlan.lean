import RegEngine.Shared.CanonicalPersistence.Effects

/-
  The plans of the canonical batch writer, and the rows they
  leave. Keys that are empty texts are not looked up before
  the insert, so a plan is sound when the database would drop
  none of its rows.

  Main declarations:
    * `CanonicalEventStore.KeyTaken`
    * `CanonicalEventStore.BatchAdmissible`
    * `CanonicalEventStore.BatchPlan.WellFormed`
-/

--------
-- Admissible Events
--------

namespace RegEngine

namespace CanonicalEventStore

/-
  A key is taken by a stored row of the tenant or by an event
  that comes before.
-/
def KeyTaken
    (db : Db)
    (tenantId : Uuid)
    (before : List TraceabilityEvent)
    (key : String) : Prop :=
  db.findByKey tenantId key ≠ none ∨
    ∃ event ∈ before, event.idempotencyKey = some key

/-
  An event that the canonical writers put on the ledger as
  they should: a rejected event is one that they skip, and an
  empty key is not taken.
-/
structure Admissible
    (db : Db)
    (before : List TraceabilityEvent)
    (event : TraceabilityEvent) : Prop where
  rejected :
    event.status = .rejected →
      ∃ key, dedupKey event = some key ∧
        KeyTaken db event.tenantId before key
  emptyKey :
    event.idempotencyKey = some "" →
      ¬ KeyTaken db event.tenantId before ""

/- Each event of a batch is admissible after those before. -/
def BatchAdmissible (db : Db) :
    List TraceabilityEvent → List TraceabilityEvent → Prop
| _, [] => True
| before, event :: rest =>
    Admissible db before event ∧
      BatchAdmissible db (before ++ [event]) rest

variable {event : TraceabilityEvent}
variable {before : List TraceabilityEvent} {db : Db}
variable {tenantId : Uuid} {nextSequence : Int}
variable {previousChainHash : Option String} {plan : BatchPlan}
variable {existing : KeyMap} {rt : Runtime}
variable {events : List TraceabilityEvent}
variable {results : List CanonicalStoreResult}
variable {store : CanonicalEventStore}

/- The keys that are looked up are the texts with characters. -/
theorem dedupKey_eq_some
    {key : String} :
    dedupKey event = some key ↔
      event.idempotencyKey = some key ∧ key ≠ "" := by
  unfold dedupKey
  cases event.idempotencyKey with
  | none => simp
  | some given =>
      by_cases hEmpty : given = ""
      · simp only [hEmpty, if_true, Option.some.injEq]
        constructor
        · simp
        · rintro ⟨hSame, hNe⟩
          exact absurd hSame.symm hNe
      · simp only [hEmpty, if_false, Option.some.injEq]
        constructor
        · intro hSame
          exact ⟨hSame, hSame ▸ hEmpty⟩
        · exact fun h => h.1

/- A key is taken after one more event. -/
theorem keyTaken_append
    {key : String} :
    KeyTaken db tenantId (before ++ [event]) key ↔
      KeyTaken db tenantId before key ∨
        event.idempotencyKey = some key := by
  unfold KeyTaken
  constructor
  · rintro (hStored | ⟨other, hMem, hKey⟩)
    · exact Or.inl (Or.inl hStored)
    · rcases List.mem_append.mp hMem with hOld | hNew
      · exact Or.inl (Or.inr ⟨other, hOld, hKey⟩)
      · rw [List.mem_singleton.mp hNew] at hKey
        exact Or.inr hKey
  · rintro ((hStored | ⟨other, hMem, hKey⟩) | hKey)
    · exact Or.inl hStored
    · exact Or.inr ⟨other, by simp [hMem], hKey⟩
    · exact Or.inr ⟨event, by simp, hKey⟩

/-
  An admissible event that is not found is accepted, and its
  key is free.
-/
theorem Admissible.new
    (hAdm : Admissible db before event)
    (hFree :
      ∀ key, dedupKey event = some key →
        ¬ KeyTaken db event.tenantId before key) :
    event.status ≠ .rejected ∧
      ∀ key, event.idempotencyKey = some key →
        ¬ KeyTaken db event.tenantId before key := by
  constructor
  · intro hStatus
    rcases hAdm.rejected hStatus with ⟨key, hKey, hTaken⟩
    exact hFree key hKey hTaken
  · intro key hKey
    by_cases hEmpty : key = ""
    · rw [hEmpty] at hKey ⊢
      exact hAdm.emptyKey hKey
    · exact hFree key (dedupKey_eq_some.mpr ⟨hKey, hEmpty⟩)

/- A free key makes a row free of conflicts. -/
theorem conflict_eventRow
    (hFree :
      ∀ key, event.idempotencyKey = some key →
        ¬ KeyTaken db event.tenantId [] key) :
    TraceabilityEventRow.constraints.conflict
      db.traceabilityEvents (eventRow event) = false := by
  apply Db.conflict_of_findByKey
  intro key hKey
  by_contra hFind
  exact hFree key hKey (Or.inl hFind)

--------
-- Well-Formed Plans
--------

open Ledger (columns chainEntry canonicalEntry)

open CtePersistence (computeChainHash chainStart)

/- A result that reports a new event on the ledger. -/
def isNew
    (result : CanonicalStoreResult) :
    Bool :=
  result.success && !result.idempotent

/-
  A plan for one tenant from a point of the chain on: its
  events are accepted and their keys free and distinct, and
  its chain rows go on from the point and stand for its
  events in order.
-/
structure BatchPlan.WellFormed
    (sha256Hex : String → String)
    (db : Db)
    (tenantId : Uuid)
    (before : List TraceabilityEvent)
    (previousChainHash : Option String)
    (nextSequence : Int)
    (plan : BatchPlan) : Prop where
  tenant : ∀ event ∈ plan.newEvents, event.tenantId = tenantId
  free :
    ∀ event ∈ plan.newEvents, ∀ key,
      event.idempotencyKey = some key →
        ¬ KeyTaken db tenantId before key
  distinct :
    plan.newEvents.Pairwise (fun event later =>
      sameKey later.idempotencyKey event.idempotencyKey = false)
  accepted :
    ∀ event ∈ plan.newEvents, event.status ≠ .rejected
  linked :
    HashChain.Linked (columns sha256Hex) nextSequence
      previousChainHash plan.chainEntries
  chainTenant :
    ∀ row ∈ plan.chainEntries, row.tenantId = tenantId
  chained :
    plan.chainEntries.map chainEntry =
      plan.newEvents.map (fun event =>
        canonicalEntry (eventRow event))
  reported :
    (plan.results.filter isNew).map
        CanonicalStoreResult.eventId =
      plan.chainEntries.map HashChainRow.cteEventId

/- The empty plan goes on from every point. -/
theorem BatchPlan.WellFormed.empty
    (sha256Hex : String → String)
    (db : Db)
    (tenantId : Uuid)
    (before : List TraceabilityEvent)
    (previousChainHash : Option String)
    (nextSequence : Int) :
    (⟨[], [], []⟩ : BatchPlan).WellFormed sha256Hex db tenantId
      before previousChainHash nextSequence := by
  constructor <;> simp [HashChain.Linked]

/- An event that is stored adds no row. -/
theorem BatchPlan.WellFormed.addStored
    {sha256Hex : String → String}
    {plan : BatchPlan}
    (hPlan :
      plan.WellFormed sha256Hex db tenantId (before ++ [event])
        previousChainHash nextSequence)
    (stored : CanonicalStored) :
    { plan with
      results :=
        idempotentResult stored :: plan.results }.WellFormed
          sha256Hex db tenantId before previousChainHash
            nextSequence where
  tenant := hPlan.tenant
  free := by
    intro later hLater key hKey hTaken
    exact hPlan.free later hLater key hKey
      (Iff.mpr keyTaken_append (Or.inl hTaken))
  distinct := hPlan.distinct
  accepted := hPlan.accepted
  linked := hPlan.linked
  chainTenant := hPlan.chainTenant
  chained := hPlan.chained
  reported := by
    rw [List.filter_cons_of_neg (by
      simp [isNew, idempotentResult])]
    exact hPlan.reported

/- The rows of a new event go before the plan that follows. -/
theorem BatchPlan.WellFormed.addNew
    {rt : Runtime}
    {event : TraceabilityEvent}
    {previousChainHash : Option String}
    (hTenant : event.tenantId = tenantId)
    (hStatus : event.status ≠ .rejected)
    (hFree :
      ∀ key, event.idempotencyKey = some key →
        ¬ KeyTaken db tenantId before key)
    (hPlan :
      plan.WellFormed rt.sha256Hex db tenantId
        (before ++ [event])
        (some (computeChainHash rt.sha256Hex (eventHash event)
          previousChainHash))
        (nextSequence + 1)) :
    (⟨chainedAfter rt previousChainHash event ::
          plan.newEvents,
        chainRowAfter rt nextSequence previousChainHash event ::
          plan.chainEntries,
        insertedResult (chainedAfter rt previousChainHash event)
            none ::
          plan.results⟩ : BatchPlan).WellFormed rt.sha256Hex db
            tenantId before previousChainHash nextSequence where
  tenant := by
    intro other hOther
    rcases List.mem_cons.mp hOther with hNew | hOld
    · rw [hNew]
      exact hTenant
    · exact hPlan.tenant other hOld
  free := by
    intro other hOther key hKey hTaken
    rcases List.mem_cons.mp hOther with hNew | hOld
    · rw [hNew] at hKey
      exact hFree key hKey hTaken
    · exact hPlan.free other hOld key hKey
        (Iff.mpr keyTaken_append (Or.inl hTaken))
  distinct := by
    refine List.pairwise_cons.mpr ⟨?_, hPlan.distinct⟩
    intro later hLater
    change sameKey later.idempotencyKey
      event.idempotencyKey = false
    cases hKey : later.idempotencyKey with
    | none => simp [sameKey]
    | some key =>
        have hNot := hPlan.free later hLater key hKey
        rw [keyTaken_append] at hNot
        exact sameKey_eq_false (fun hSame =>
          hNot (Or.inr hSame.symm))
  accepted := by
    intro other hOther
    rcases List.mem_cons.mp hOther with hNew | hOld
    · rw [hNew]
      exact hStatus
    · exact hPlan.accepted other hOld
  linked := ⟨rfl, rfl, rfl, hPlan.linked⟩
  chainTenant := by
    intro other hOther
    rcases List.mem_cons.mp hOther with hNew | hOld
    · rw [hNew]
      exact hTenant
    · exact hPlan.chainTenant other hOld
  chained := by
    rw [List.map_cons, List.map_cons, hPlan.chained]
    rfl
  reported := by
    rw [List.filter_cons_of_pos (by
      simp [isNew, insertedResult])]
    rw [List.map_cons, List.map_cons, hPlan.reported]
    rfl

/- A map that knows the keys taken, as far as events ask. -/
def KeyMap.Knows
    (existing : KeyMap)
    (db : Db)
    (tenantId : Uuid)
    (before events : List TraceabilityEvent) : Prop :=
  ∀ event ∈ events, ∀ key, dedupKey event = some key →
    (existing.find key ≠ none ↔ KeyTaken db tenantId before key)

/- One more entry of a map. -/
theorem KeyMap.find_append
    {key other : String}
    {stored : CanonicalStored} :
    KeyMap.find (existing ++ [(key, stored)]) other ≠ none ↔
      existing.find other ≠ none ∨ key = other := by
  simp only [KeyMap.find, List.find?_append, ne_eq,
    Option.map_eq_none_iff, Option.or_eq_none_iff,
    List.find?_singleton]
  by_cases hSame : key = other
  · simp [hSame]
  · simp [hSame]

/- The map still knows the keys after an event that it holds. -/
theorem KeyMap.Knows.addStored
    {before rest : List TraceabilityEvent}
    {event : TraceabilityEvent}
    {stored : CanonicalStored}
    (hKnows : existing.Knows db tenantId before (event :: rest))
    (hLookup : existing.lookup event = some stored) :
    existing.Knows db tenantId (before ++ [event]) rest := by
  intro later hLater key hKey
  rw [hKnows later (by simp [hLater]) key hKey, keyTaken_append]
  constructor
  · exact Or.inl
  · rintro (hTaken | hSame)
    · exact hTaken
    · have hOwn : dedupKey event = some key :=
        dedupKey_eq_some.mpr
          ⟨hSame, (dedupKey_eq_some.mp hKey).2⟩
      rw [← hKnows event (by simp) key hOwn]
      unfold KeyMap.lookup at hLookup
      rw [hOwn, Option.bind_some] at hLookup
      simp [hLookup]

/- The keys that the batch knows after a new event. -/
def KeyMap.withNew
    (rt : Runtime)
    (existing : KeyMap)
    (previousChainHash : Option String)
    (event : TraceabilityEvent) :
    KeyMap :=
  match dedupKey event with
  | none => existing
  | some key =>
      existing ++
        [(key, ⟨event.eventId, event.sha256Hash,
          some (computeChainHash rt.sha256Hex (eventHash event)
            previousChainHash)⟩)]

theorem KeyMap.Knows.addNew
    {before rest : List TraceabilityEvent}
    {event : TraceabilityEvent}
    (hKnows :
      existing.Knows db tenantId before (event :: rest)) :
    (existing.withNew rt previousChainHash event).Knows db
      tenantId (before ++ [event]) rest := by
  intro later hLater key hKey
  have hOld := hKnows later (by simp [hLater]) key hKey
  have hNonempty := (dedupKey_eq_some.mp hKey).2
  rw [keyTaken_append, ← hOld]
  unfold KeyMap.withNew
  cases hOwn : dedupKey event with
  | none =>
      constructor
      · exact Or.inl
      · rintro (hFound | hSame)
        · exact hFound
        · rw [dedupKey_eq_some.mpr ⟨hSame, hNonempty⟩] at hOwn
          simp at hOwn
  | some ownKey =>
      have hEventKey := (dedupKey_eq_some.mp hOwn).1
      simp only [hEventKey, Option.some.injEq]
      exact KeyMap.find_append

/- The plan of a batch with one more event. -/
theorem planBatch_cons
    (rt : Runtime)
    (previousChainHash : Option String)
    (nextSequence : Int)
    (existing : KeyMap)
    (event : TraceabilityEvent)
    (rest : List TraceabilityEvent) :
    planBatch rt previousChainHash nextSequence existing
        (event :: rest) =
      match existing.lookup event with
      | some stored =>
          { planBatch rt previousChainHash nextSequence existing
              rest with
            results :=
              idempotentResult stored ::
                (planBatch rt previousChainHash nextSequence
                  existing rest).results }
      | none =>
          let plan :=
            planBatch rt
              (some (computeChainHash rt.sha256Hex
                (eventHash event) previousChainHash))
              (nextSequence + 1)
              (existing.withNew rt previousChainHash event) rest
          ⟨chainedAfter rt previousChainHash event ::
              plan.newEvents,
            chainRowAfter rt nextSequence previousChainHash
                event ::
              plan.chainEntries,
            insertedResult
                (chainedAfter rt previousChainHash event) none ::
              plan.results⟩ := by
  rw [planBatch]
  cases existing.lookup event <;> rfl

/- Every plan of admissible events is well-formed. -/
theorem planBatch_wellFormed
    {before events : List TraceabilityEvent}
    (hTenant : ∀ event ∈ events, event.tenantId = tenantId)
    (hKnows : existing.Knows db tenantId before events)
    (hAdm : BatchAdmissible db before events) :
    (planBatch rt previousChainHash nextSequence existing
      events).WellFormed rt.sha256Hex db tenantId before
        previousChainHash nextSequence := by
  induction events generalizing before previousChainHash
    nextSequence existing with
  | nil => exact BatchPlan.WellFormed.empty _ _ _ _ _ _
  | cons event rest ih =>
      have hRest :
          ∀ later ∈ rest, later.tenantId = tenantId :=
        fun later hLater => hTenant later (by simp [hLater])
      have hOwn := hTenant event (by simp)
      rw [planBatch_cons]
      cases hLookup : existing.lookup event with
      | some stored =>
          exact (ih hRest (hKnows.addStored hLookup)
            hAdm.2).addStored stored
      | none =>
          have hNew :=
            hAdm.1.new (by
              intro key hKey
              rw [hOwn, ← hKnows event (by simp) key hKey]
              unfold KeyMap.lookup at hLookup
              rw [hKey, Option.bind_some] at hLookup
              simp [hLookup])
          rw [hOwn] at hNew
          exact BatchPlan.WellFormed.addNew hOwn hNew.1 hNew.2
            (ih hRest hKnows.addNew hAdm.2)

--------
-- The Rows Of A Batch
--------

/- The rows of a chunk are those of its events. -/
theorem mapM_eventToParams
    {rows : List TraceabilityEventRow}
    (hRows : events.mapM (eventToParams rt) = .ok rows) :
    rows = events.map eventRow := by
  induction events generalizing rows with
  | nil =>
      rw [List.mapM_nil] at hRows
      rw [← Outcome.pure_eq_ok.mp hRows, List.map_nil]
  | cons event rest ih =>
      rw [List.mapM_cons] at hRows
      rcases Outcome.bind_eq_ok.mp hRows with
        ⟨row, hRow, hRows⟩
      rcases Outcome.bind_eq_ok.mp hRows with
        ⟨later, hLater, hRows⟩
      rw [← Outcome.pure_eq_ok.mp hRows, ih hLater,
        List.map_cons, eventToParams_eq hRow]

variable {chunks : List (List TraceabilityEvent)}
variable {ids : List Uuid}

/- Chunks insert their rows as one statement would. -/
theorem insertChunks_rows
    {db db' : Db}
    (hInsert : insertChunks rt db chunks = .ok (db', ids)) :
    ∃ kept,
      Table.insertRows TraceabilityEventRow.constraints
            db.traceabilityEvents
            (chunks.flatten.map eventRow) =
          .ok (db.traceabilityEvents ++ kept, kept) ∧
        db' =
          { db with
            traceabilityEvents :=
              db.traceabilityEvents ++ kept } ∧
        ids = kept.map TraceabilityEventRow.eventId := by
  induction chunks generalizing db db' ids with
  | nil =>
      simp only [insertChunks, Except.ok.injEq,
        Prod.mk.injEq] at hInsert
      refine ⟨[], ?_, ?_, ?_⟩
      · simp [Table.insertRows]
      · rw [List.append_nil, ← hInsert.1]
      · rw [← hInsert.2, List.map_nil]
  | cons chunk rest ih =>
      rw [insertChunks] at hInsert
      rcases Outcome.bind_eq_ok.mp hInsert with
        ⟨⟨inserted, chunkIds⟩, hChunk, hInsert⟩
      rcases Outcome.bind_eq_ok.mp hInsert with
        ⟨⟨later, laterIds⟩, hLater, hInsert⟩
      have hPair := Outcome.pure_eq_ok.mp hInsert
      simp only [Prod.mk.injEq] at hPair
      unfold batchInsertCanonicalEvents at hChunk
      rcases Outcome.bind_eq_ok.mp hChunk with
        ⟨rows, hRows, hChunk⟩
      rcases Outcome.bind_eq_ok.mp hChunk with
        ⟨⟨table, kept⟩, hTable, hChunk⟩
      have hChunkPair := Outcome.pure_eq_ok.mp hChunk
      simp only [Prod.mk.injEq] at hChunkPair
      rw [mapM_eventToParams hRows] at hTable
      rcases Db.insertTraceabilityEvents_cases hTable with
        ⟨hKept, -, hTableDb⟩
      rw [← hChunkPair.1, hTableDb] at hLater
      rcases ih hLater with ⟨kept', hRest, hDb, hIds⟩
      refine ⟨kept ++ kept', ?_, ?_, ?_⟩
      · rw [List.flatten_cons, List.map_append,
          Table.insertRows_rows_append, hKept]
        simp only [hRest, List.append_assoc]
      · rw [← hPair.1, hDb]
        simp
      · rw [← hPair.2, ← hChunkPair.2, hIds, List.map_append]

/- Chunks whose rows are free all land. -/
theorem insertChunks_eq
    {db db' : Db}
    (hFree :
      TraceabilityEventRow.constraints.Free
        db.traceabilityEvents (chunks.flatten.map eventRow))
    (hInsert : insertChunks rt db chunks = .ok (db', ids)) :
    db' =
        { db with
          traceabilityEvents :=
            db.traceabilityEvents ++
              chunks.flatten.map eventRow } ∧
      ids = chunks.flatten.map TraceabilityEvent.eventId := by
  rcases insertChunks_rows hInsert with
    ⟨kept, hRows, rfl, rfl⟩
  rw [Table.insertRows_of_free hFree hRows]
  refine ⟨rfl, ?_⟩
  simp [Function.comp_def, eventRow]

/- The steps of a batch after its inserts, one by one. -/
theorem writeBatch_cases
    {db' : Db}
    (hWrite :
      store.writeBatch rt events tenantId plan ids db =
        .ok (results, db')) :
    let lost :=
      plan.newEvents.filter (fun event =>
        !ids.contains event.eventId)
    let landed :=
      plan.newEvents.filter (fun event =>
        ids.contains event.eventId)
    results =
        (if lost.isEmpty then plan.results
        else reconcile db tenantId events lost plan.results) ∧
      ∃ chained linked metered,
        (plan.chainEntries.filter (fun entry =>
          ids.contains entry.cteEventId)).foldlM
            Db.insertChainEntry db = .ok chained ∧
          landed.foldlM (createTransformationLinks rt)
            chained = .ok linked ∧
          landed.foldlM store.meter linked = .ok metered ∧
          landed.foldlM store.copyLegacy metered =
            .ok db' := by
  unfold writeBatch at hWrite
  rcases Outcome.bind_eq_ok.mp hWrite with
    ⟨chained, hChain, hWrite⟩
  rcases Outcome.bind_eq_ok.mp hWrite with
    ⟨linked, hLinks, hWrite⟩
  rcases Outcome.bind_eq_ok.mp hWrite with
    ⟨metered, hMeter, hWrite⟩
  rcases Outcome.bind_eq_ok.mp hWrite with
    ⟨copied, hCopy, hWrite⟩
  have hPair := Outcome.pure_eq_ok.mp hWrite
  simp only [Prod.mk.injEq] at hPair
  rw [← hPair.2]
  exact ⟨hPair.1.symm, chained, linked, metered, hChain, hLinks,
    hMeter, hCopy⟩

/- The steps after the inserts leave the canonical rows. -/
theorem writeBatch_events
    {db db' : Db}
    (hWrite :
      store.writeBatch rt events tenantId plan ids db =
        .ok (results, db')) :
    db'.traceabilityEvents = db.traceabilityEvents := by
  rcases writeBatch_cases hWrite with
    ⟨-, chained, linked, metered, hChain, hLinks, hMeter,
      hCopy⟩
  rw [(Region.Acts.foldlM (copyLegacy_acts store)
      (fun _ _ => rfl) _).keeps
      (fun _ _ => rfl : Db.legacyTables.Blind
        Db.traceabilityEvents) hCopy,
    (Region.Acts.foldlM (meter_acts store)
      (fun _ _ => rfl) _).keeps
      (fun _ _ => rfl : Db.usageTables.Blind
        Db.traceabilityEvents) hMeter,
    (Region.Acts.foldlM (createTransformationLinks_acts rt)
      (fun _ _ => rfl) _).keeps
      (fun _ _ => rfl : Db.linkTable.Blind
        Db.traceabilityEvents) hLinks,
    Ledger.foldlM_insertChainEntry hChain]

/- A batch whose rows all land writes its plan. -/
theorem writeBatch_effect
    {db db' : Db}
    (hIds :
      ∀ entry ∈ plan.chainEntries,
        entry.cteEventId ∈
          plan.newEvents.map TraceabilityEvent.eventId)
    (hWrite :
      store.writeBatch rt events tenantId plan
          (plan.newEvents.map TraceabilityEvent.eventId) db =
        .ok (results, db')) :
    results = plan.results ∧
      db'.traceabilityEvents = db.traceabilityEvents ∧
      db'.hashChain = db.hashChain ++ plan.chainEntries := by
  have hLost :
      plan.newEvents.filter (fun event =>
          !(plan.newEvents.map
            TraceabilityEvent.eventId).contains
              event.eventId) = [] := by
    rw [List.filter_eq_nil_iff]
    intro event hEvent
    simpa using ⟨event, hEvent, rfl⟩
  have hEntries :
      plan.chainEntries.filter (fun entry =>
          (plan.newEvents.map
            TraceabilityEvent.eventId).contains
              entry.cteEventId) =
        plan.chainEntries := by
    rw [List.filter_eq_self]
    intro entry hEntry
    simpa using List.mem_map.mp (hIds entry hEntry)
  rcases writeBatch_cases hWrite with
    ⟨hResults, chained, linked, metered, hChain, hLinks, hMeter,
      hCopy⟩
  rw [hLost] at hResults
  rw [hEntries] at hChain
  have hChained := Ledger.foldlM_insertChainEntry hChain
  have hLinked :=
    (Region.Acts.foldlM
      (createTransformationLinks_acts rt)
      (fun _ _ => rfl) _).keeps
      (fun _ _ => rfl : Db.linkTable.Blind
        Db.canonicalTables.get) hLinks
  have hMetered :=
    (Region.Acts.foldlM (meter_acts store)
      (fun _ _ => rfl) _).keeps
      (fun _ _ => rfl : Db.usageTables.Blind
        Db.canonicalTables.get) hMeter
  have hCopied :=
    (Region.Acts.foldlM (copyLegacy_acts store)
      (fun _ _ => rfl) _).keeps
      (fun _ _ => rfl : Db.legacyTables.Blind
        Db.canonicalTables.get) hCopy
  have hAll := hCopied.trans (hMetered.trans hLinked)
  simp only [Db.canonicalTables, Prod.mk.injEq] at hAll
  rw [hAll.1, hAll.2, hChained]
  exact ⟨hResults, rfl, rfl⟩

/- The keys of the batch are looked up in the table. -/
theorem existingMap_find
    (db : Db)
    (tenantId : Uuid)
    {keys : List String}
    {key : String}
    (hKey : key ∈ keys) :
    (existingMap db tenantId keys).find key =
      (db.findByKey tenantId key).map storedOf := by
  unfold KeyMap.find existingMap Db.findByKey
  induction db.traceabilityEvents with
  | nil => rfl
  | cons row rest ih =>
      rw [List.filterMap_cons, List.find?_cons]
      cases hRowKey : row.idempotencyKey with
      | none => simpa using ih
      | some rowKey =>
          by_cases hSame : row.tenantId = tenantId ∧ rowKey = key
          · simp [hSame.1, hSame.2, hKey]
          · have hFind :
                (row.tenantId == tenantId &&
                  some rowKey == some key) = false := by
              simpa using hSame
            rw [hFind]
            by_cases hRow :
                row.tenantId = tenantId ∧ rowKey ∈ keys
            · have hNe : (rowKey == key) = false := by
                simpa using fun h => hSame ⟨hRow.1, h⟩
              simp only [hRow, and_self, if_true,
                List.find?_cons, hNe]
              exact ih
            · simp only [hRow, if_false]
              exact ih

/- The stored keys of the batch are those of the table. -/
theorem existingMap_knows
    (db : Db)
    (tenantId : Uuid)
    (events : List TraceabilityEvent) :
    (existingMap db tenantId
      (events.filterMap dedupKey)).Knows db tenantId []
        events := by
  intro event hEvent key hKey
  have hIn : key ∈ events.filterMap dedupKey :=
    List.mem_filterMap.mpr ⟨event, hEvent, hKey⟩
  rw [existingMap_find db tenantId hIn]
  simp [KeyTaken]

/- The plan that a batch makes from the tables. -/
def planFor
    (rt : Runtime)
    (db : Db)
    (tenantId : Uuid)
    (events : List TraceabilityEvent) :
    BatchPlan :=
  planBatch rt (chainStart db tenantId).1
    (chainStart db tenantId).2
    (existingMap db tenantId (events.filterMap dedupKey)) events

/- The plan of admissible events is well-formed. -/
theorem planFor_wellFormed
    (hTenant : ∀ event ∈ events, event.tenantId = tenantId)
    (hAdm : BatchAdmissible db [] events) :
    (planFor rt db tenantId events).WellFormed rt.sha256Hex db
      tenantId [] (chainStart db tenantId).1
      (chainStart db tenantId).2 :=
  planBatch_wellFormed hTenant
    (existingMap_knows db tenantId events) hAdm

theorem BatchPlan.WellFormed.rowsFree
    {sha256Hex : String → String}
    (hPlan :
      plan.WellFormed sha256Hex db tenantId []
        previousChainHash nextSequence) :
    TraceabilityEventRow.constraints.Free db.traceabilityEvents
      (plan.newEvents.map eventRow) := by
  constructor
  · intro row hRow
    rcases List.mem_map.mp hRow with ⟨event, hEvent, hEq⟩
    rw [← hEq]
    apply conflict_eventRow
    rw [hPlan.tenant event hEvent]
    exact hPlan.free event hEvent
  · rw [List.pairwise_map]
    refine hPlan.distinct.imp ?_
    intro event later hKeys
    simp [TraceabilityEventRow.constraints, eventRow, hKeys]

/- The chain rows of a well-formed plan name its events. -/
theorem BatchPlan.WellFormed.chainIds
    {sha256Hex : String → String}
    (hPlan :
      plan.WellFormed sha256Hex db tenantId before
        previousChainHash nextSequence) :
    plan.chainEntries.map HashChainRow.cteEventId =
      plan.newEvents.map TraceabilityEvent.eventId := by
  have hIds := congrArg (List.map Prod.fst) hPlan.chained
  simpa [Function.comp_def, Ledger.chainEntry,
    Ledger.canonicalEntry, eventRow] using hIds

theorem mem_newEvents_planBatch
    {previousChainHash : Option String}
    {nextSequence : Int}
    {existing : KeyMap}
    {events : List TraceabilityEvent}
    (hMem :
      event ∈
        (planBatch rt previousChainHash nextSequence existing
          events).newEvents) :
    ∃ given ∈ events, ∃ previous,
      event = chainedAfter rt previous given := by
  induction events generalizing previousChainHash nextSequence
    existing with
  | nil => simp [planBatch] at hMem
  | cons first rest ih =>
      rw [planBatch_cons] at hMem
      cases hLookup : existing.lookup first with
      | some stored =>
          simp only [hLookup] at hMem
          rcases ih hMem with ⟨given, hGiven, hEq⟩
          exact ⟨given, by simp [hGiven], hEq⟩
      | none =>
          simp only [hLookup] at hMem
          rcases List.mem_cons.mp hMem with hFirst | hRest
          · exact ⟨first, by simp, previousChainHash, hFirst⟩
          · rcases ih hRest with ⟨given, hGiven, hEq⟩
            exact ⟨given, by simp [hGiven], hEq⟩

/- A batch is planned, its chunks inserted, and written. -/
theorem persistPrepared_cases
    {db' : Db}
    (hPersist :
      store.persistPrepared rt tenantId events db =
        .ok (results, db')) :
    ∃ inserted ids,
      insertChunks rt db
          (Table.chunksOf 50
            (planFor rt db tenantId events).newEvents) =
          .ok (inserted, ids) ∧
        store.writeBatch rt events tenantId
            (planFor rt db tenantId events) ids inserted =
          .ok (results, db') := by
  unfold persistPrepared at hPersist
  rcases Outcome.bind_eq_ok.mp hPersist with
    ⟨⟨inserted, ids⟩, hInsert, hWrite⟩
  exact ⟨inserted, ids, hInsert, hWrite⟩

/- A batch of admissible events leaves the rows of its plan. -/
theorem persistPrepared_effect
    {db db' : Db}
    (hTenant : ∀ event ∈ events, event.tenantId = tenantId)
    (hAdm : BatchAdmissible db [] events)
    (hPersist :
      store.persistPrepared rt tenantId events db =
        .ok (results, db')) :
    results = (planFor rt db tenantId events).results ∧
      db'.traceabilityEvents =
        db.traceabilityEvents ++
          (planFor rt db tenantId events).newEvents.map
            eventRow ∧
      db'.hashChain =
        db.hashChain ++
          (planFor rt db tenantId events).chainEntries := by
  have hPlan :
      (planFor rt db tenantId events).WellFormed rt.sha256Hex db
        tenantId [] (chainStart db tenantId).1
        (chainStart db tenantId).2 :=
    planFor_wellFormed hTenant hAdm
  rcases persistPrepared_cases hPersist with
    ⟨inserted, ids, hInsert, hPersist⟩
  have hFlat :=
    Table.flatten_chunksOf (show 0 < 50 by decide)
      (planFor rt db tenantId events).newEvents
  have hInserted :=
    insertChunks_eq (by
      rw [hFlat]
      exact hPlan.rowsFree) hInsert
  rw [hFlat] at hInserted
  rw [hInserted.1, hInserted.2] at hPersist
  have hWrite :=
    writeBatch_effect (by
      intro entry hEntry
      rw [← hPlan.chainIds]
      exact List.mem_map_of_mem hEntry) hPersist
  exact hWrite

/- What a batch of the canonical store comes to. -/
theorem persistEventsBatch_cases
    {db db' : Db}
    (hPersist :
      store.persistEventsBatch rt events db =
        .ok (results, db')) :
    (events = [] ∧ results = [] ∧ db' = db) ∨
      ∃ tenantId prepared,
        (∀ event ∈ events, event.tenantId = tenantId) ∧
          events.mapM (ensurePrepared rt) = .ok prepared ∧
          store.persistPrepared rt tenantId prepared db =
            .ok (results, db') := by
  unfold persistEventsBatch at hPersist
  cases events with
  | nil =>
      simp only [Except.ok.injEq, Prod.mk.injEq] at hPersist
      exact Or.inl ⟨rfl, hPersist.1.symm, hPersist.2.symm⟩
  | cons first rest =>
      simp only at hPersist
      split at hPersist
      · simp at hPersist
      · rename_i hOther
        rcases Outcome.bind_eq_ok.mp hPersist with
          ⟨prepared, hPrepared, hPersist⟩
        refine Or.inr ⟨first.tenantId, prepared, ?_, hPrepared,
          hPersist⟩
        intro event hEvent
        rcases List.mem_cons.mp hEvent with hFirst | hRest
        · rw [hFirst]
        · simp only [List.any_eq_true, not_exists, not_and,
            bne_iff_ne, ne_eq, not_not] at hOther
          exact hOther event hRest

end CanonicalEventStore

end RegEngine
