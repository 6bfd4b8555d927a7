import Mathlib.Algebra.GroupWithZero.Nat
import RegEngine.Library.Transaction
import RegEngine.Shared.CanonicalPersistence.BatchPlan
import RegEngine.Shared.Ledger.Runs

/-
  The books of metered usage: every canonical row has one row
  in the usage ledger, in the month of its UTC date, and the
  counters count the ledger rows.

  Main declarations:
    * `Usage.Books`
    * `Usage.Books.meter`
    * `CanonicalEventStore.run_countsOnce`
-/

--------
-- Books
--------

namespace RegEngine

namespace Usage

/- The ledger row of a canonical row, in its UTC month. -/
def ledgerRow (row : TraceabilityEventRow) :
    Option UsageLedgerRow :=
  (Datetime.ofInstant row.eventTimestamp 0).map (fun utc =>
    ⟨row.tenantId, row.eventId, { utc.date with day := 1 }⟩)

/- The units in the counters of some buckets. -/
def unitsIn
    (sel : Uuid → CalendarDate → Bool)
    (counters : List UsageCounterRow) : Nat :=
  ((counters.filter (fun row =>
    sel row.tenantId row.billingPeriodStart)).map
      UsageCounterRow.unitCount).sum

/- The ledger rows in some buckets. -/
def claimsIn
    (sel : Uuid → CalendarDate → Bool)
    (ledger : List UsageLedgerRow) : Nat :=
  (ledger.filter (fun row =>
    sel row.tenantId row.billingPeriodStart)).length

/-
  The books are in order: the ledger has the rows of the
  canonical rows, and in every choice of buckets the counters
  add up to the ledger rows.
-/
structure Books
    (rows : List TraceabilityEventRow)
    (ledger : List UsageLedgerRow)
    (counters : List UsageCounterRow) : Prop where
  keys : (counters.map counterKey).Nodup
  counted :
    ∀ sel, unitsIn sel counters = claimsIn sel ledger
  claimed : ledger.map some = rows.map ledgerRow

/- Nothing is counted at the start. -/
theorem books_nil : Books [] [] [] where
  keys := List.nodup_nil
  counted := fun _ => rfl
  claimed := rfl

/- The counter of a bucket, in a selection or not. -/
theorem unitsIn_cons
    (sel : Uuid → CalendarDate → Bool)
    (row : UsageCounterRow)
    (rest : List UsageCounterRow) :
    unitsIn sel (row :: rest) =
      (if sel row.tenantId row.billingPeriodStart then
        row.unitCount else 0) + unitsIn sel rest := by
  unfold unitsIn
  rw [List.filter_cons]
  split <;> simp

variable {counters : List UsageCounterRow}
variable {ledger : List UsageLedgerRow}

/- A unit of another bucket leaves the counters. -/
theorem countUnit_of_notMem
    {tenantId : Uuid}
    {periodStart : CalendarDate}
    (hAbsent :
      (tenantId, periodStart) ∉ counters.map counterKey) :
    counters.map (fun row =>
        if row.tenantId = tenantId ∧
            row.billingPeriodStart = periodStart then
          { row with unitCount := row.unitCount + 1 }
        else
          row) = counters := by
  nth_rewrite 2 [← List.map_id counters]
  refine List.map_congr_left ?_
  intro row hRow
  rw [if_neg]
  · rfl
  · rintro ⟨hTenant, hStart⟩
    apply hAbsent
    rw [List.mem_map]
    exact ⟨row, hRow, Prod.ext hTenant hStart⟩

/- Counting a unit adds one to the buckets it is in. -/
theorem unitsIn_countUnit
    (sel : Uuid → CalendarDate → Bool)
    (hKeys : (counters.map counterKey).Nodup)
    (tenantId : Uuid)
    (periodStart periodEnd : CalendarDate) :
    unitsIn sel
        (countUnit counters tenantId periodStart periodEnd) =
      unitsIn sel counters +
        if sel tenantId periodStart then 1 else 0 := by
  unfold countUnit
  split <;> rename_i hAny
  · induction counters with
    | nil => simp at hAny
    | cons row rest ih =>
        rw [List.map_cons, List.nodup_cons] at hKeys
        rw [List.map_cons, unitsIn_cons, unitsIn_cons]
        by_cases hOwn :
            row.tenantId = tenantId ∧
              row.billingPeriodStart = periodStart
        · have hAbsent :
              (tenantId, periodStart) ∉ rest.map counterKey := by
            rw [← hOwn.1, ← hOwn.2]
            exact hKeys.1
          rw [if_pos hOwn, countUnit_of_notMem hAbsent]
          simp only [hOwn.1, hOwn.2]
          split <;> omega
        · rw [if_neg hOwn]
          have hRest :
              (rest.any (fun row =>
                row.tenantId == tenantId &&
                  row.billingPeriodStart == periodStart)) =
                true := by
            rw [List.any_cons, Bool.or_eq_true] at hAny
            rcases hAny with hHere | hLater
            · simp only [Bool.and_eq_true,
                beq_iff_eq] at hHere
              exact absurd hHere hOwn
            · exact hLater
          rw [ih hKeys.2 hRest]
          omega
  · unfold unitsIn
    rw [List.filter_append, List.map_append, List.sum_append]
    congr 1
    by_cases hSel : sel tenantId periodStart = true
    · simp [hSel]
    · simp [hSel]

/- The ledger names the events of the canonical rows. -/
theorem Books.mem_ids
    {rows : List TraceabilityEventRow}
    (hBooks : Books rows ledger counters)
    {claim : UsageLedgerRow}
    (hClaim : claim ∈ ledger) :
    claim.eventId ∈ rows.map TraceabilityEventRow.eventId := by
  have hMem : some claim ∈ ledger.map some :=
    List.mem_map_of_mem hClaim
  rw [hBooks.claimed] at hMem
  rcases List.mem_map.mp hMem with ⟨row, hRow, hEq⟩
  rw [List.mem_map]
  refine ⟨row, hRow, ?_⟩
  rcases Option.map_eq_some_iff.mp hEq with ⟨utc, -, hSame⟩
  rw [← hSame]

theorem Books.exists_ledgerRow
    {rows : List TraceabilityEventRow}
    (hBooks : Books rows ledger counters)
    {row : TraceabilityEventRow}
    (hRow : row ∈ rows) :
    ∃ claim ∈ ledger, ledgerRow row = some claim := by
  have hMem : ledgerRow row ∈ rows.map ledgerRow :=
    List.mem_map_of_mem hRow
  rw [← hBooks.claimed] at hMem
  rcases List.mem_map.mp hMem with ⟨claim, hClaim, hEq⟩
  exact ⟨claim, hClaim, hEq.symm⟩

/- A choice of ledger rows is one of canonical rows. -/
theorem Books.filter_claims
    {rows : List TraceabilityEventRow}
    (hBooks : Books rows ledger counters)
    (p : UsageLedgerRow → Bool) :
    (ledger.filter p).map some =
      (rows.filter (fun row => (ledgerRow row).any p)).map
        ledgerRow := by
  have hBoth :=
    congrArg (List.filter (Option.any p)) hBooks.claimed
  rw [List.filter_map, List.filter_map] at hBoth
  exact hBoth

/- The ledger rows of a choice are as many as its rows. -/
theorem Books.length_claims
    {rows : List TraceabilityEventRow}
    (hBooks : Books rows ledger counters)
    (p : UsageLedgerRow → Bool)
    {q : TraceabilityEventRow → Bool}
    (hSame :
      ∀ row claim, ledgerRow row = some claim →
        q row = p claim) :
    (ledger.filter p).length = (rows.filter q).length := by
  have hLength := congrArg List.length (hBooks.filter_claims p)
  rw [List.length_map, List.length_map] at hLength
  rw [hLength]
  congr 1
  refine List.filter_congr ?_
  intro row hRow
  rcases hBooks.exists_ledgerRow hRow with ⟨claim, -, hClaim⟩
  rw [hSame row claim hClaim, hClaim]
  rfl

/- Rows of the same events and times have the same books. -/
theorem Books.congr
    {rows rows' : List TraceabilityEventRow}
    (hBooks : Books rows ledger counters)
    (hRows : rows'.map ledgerRow = rows.map ledgerRow) :
    Books rows' ledger counters :=
  ⟨hBooks.keys, hBooks.counted,
    hBooks.claimed.trans hRows.symm⟩

end Usage

end RegEngine

--------
-- Metering
--------

namespace RegEngine

open Usage (Books ledgerRow)

namespace CanonicalEventStore

variable {event : TraceabilityEvent}
variable {store : CanonicalEventStore} {db db' : Db}
variable {events : List TraceabilityEvent} {now : Datetime}
variable {result : CanonicalStoreResult} {rt : Runtime}
variable {ids : List Uuid} {tenantId : Uuid}
variable {results : List CanonicalStoreResult}

/- Metering an event that the ledger does not name. -/
theorem meter_counts
    {db db' : Db}
    (hMeters : store.meterUsage = true)
    (hFresh :
      ∀ claim ∈ db.usageEventLedger,
        claim.eventId ≠ event.eventId)
    (hMeter : store.meter db event = .ok db') :
    ∃ utc period,
      event.eventTimestamp.utc = some utc ∧
        Usage.currentBillingPeriod utc.date = .ok period ∧
        db' =
          { db with
            usageEventLedger :=
              db.usageEventLedger ++
                [⟨event.tenantId, event.eventId, period.1⟩]
            usageCounters :=
              Usage.countUnit db.usageCounters event.tenantId
                period.1 period.2 } := by
  unfold meter at hMeter
  rw [if_pos hMeters] at hMeter
  rcases Outcome.bind_eq_ok.mp hMeter with
    ⟨⟨flag, counted⟩, hCount, hMeter⟩
  have hDb := Outcome.pure_eq_ok.mp hMeter
  unfold Usage.incrementUsageForEvent at hCount
  rcases Outcome.bind_eq_ok.mp hCount with ⟨utc, hUtc, hCount⟩
  rcases Outcome.bind_eq_ok.mp hCount with
    ⟨period, hPeriod, hCount⟩
  rcases Outcome.bind_eq_ok.mp hCount with
    ⟨⟨table, landed⟩, hClaim, hCount⟩
  refine ⟨utc, period, Outcome.ofOption_eq_ok.mp hUtc, hPeriod,
    ?_⟩
  rcases Table.insertRow_cases hClaim with
    ⟨-, hConflict, -⟩ | ⟨hLanded, -, -, hTable⟩
  · rw [Table.Constraints.conflict, List.any_eq_true]
      at hConflict
    rcases hConflict with ⟨claim, hMem, hSame⟩
    simp only [UsageLedgerRow.constraints, Bool.and_eq_true,
      beq_iff_eq] at hSame
    exact absurd hSame.2.symm (hFresh claim hMem)
  · simp only [hLanded, if_true] at hCount
    have hPair := Outcome.pure_eq_ok.mp hCount
    simp only [Prod.mk.injEq] at hPair
    rw [← hDb, ← hPair.2, hTable]

/- The first day of the billing period of a date. -/
theorem currentBillingPeriod_fst
    {asOf : CalendarDate}
    {period : CalendarDate × CalendarDate}
    (hPeriod :
      Usage.currentBillingPeriod asOf = .ok period) :
    period.1 = { asOf with day := 1 } := by
  unfold Usage.currentBillingPeriod at hPeriod
  dsimp only at hPeriod
  split at hPeriod
  · split at hPeriod
    · simp at hPeriod
    · rw [← Except.ok.inj hPeriod]
  · rw [← Except.ok.inj hPeriod]

/- Metering a new row keeps the books. -/
theorem meter_books
    {rows : List TraceabilityEventRow}
    (hMeters : store.meterUsage = true)
    (hBooks :
      Books rows db.usageEventLedger db.usageCounters)
    (hFresh :
      event.eventId ∉ rows.map TraceabilityEventRow.eventId)
    (hMeter : store.meter db event = .ok db') :
    Books (rows ++ [eventRow event]) db'.usageEventLedger
      db'.usageCounters := by
  rcases meter_counts hMeters (by
      intro claim hClaim hSame
      exact hFresh (hSame ▸ hBooks.mem_ids hClaim)) hMeter with
    ⟨utc, period, hUtc, hPeriod, hDb⟩
  rw [hDb]
  refine ⟨Usage.nodup_countUnit hBooks.keys _ _ _, ?_, ?_⟩
  · intro sel
    rw [Usage.unitsIn_countUnit sel hBooks.keys,
      hBooks.counted sel]
    unfold Usage.claimsIn
    rw [List.filter_append, List.length_append]
    congr 1
    by_cases hSel : sel event.tenantId period.1 = true
    · simp [hSel]
    · simp [hSel]
  · have hOwn :
        ledgerRow (eventRow event) =
          some ⟨event.tenantId, event.eventId, period.1⟩ := by
      unfold ledgerRow
      change (event.eventTimestamp.utc).map _ = _
      rw [hUtc, currentBillingPeriod_fst hPeriod]
      rfl
    rw [List.map_append, List.map_append, hBooks.claimed,
      List.map_singleton, List.map_singleton, hOwn]

/- Metering new rows in turn keeps the books. -/
theorem foldlM_meter_books
    {rows : List TraceabilityEventRow}
    (hMeters : store.meterUsage = true)
    (hBooks :
      Books rows db.usageEventLedger db.usageCounters)
    (hIds :
      ((rows ++ events.map eventRow).map
        TraceabilityEventRow.eventId).Nodup)
    (hMeter : events.foldlM store.meter db = .ok db') :
    Books (rows ++ events.map eventRow) db'.usageEventLedger
      db'.usageCounters := by
  induction events generalizing rows db with
  | nil =>
      rw [List.foldlM_nil] at hMeter
      rw [← Outcome.pure_eq_ok.mp hMeter, List.map_nil,
        List.append_nil]
      exact hBooks
  | cons event rest ih =>
      rcases Outcome.foldlM_cons_eq_ok.mp hMeter with
        ⟨next, hNext, hRest⟩
      have hAssoc :
          rows ++ (event :: rest).map eventRow =
            (rows ++ [eventRow event]) ++ rest.map eventRow := by
        rw [List.map_cons, List.append_assoc]
        rfl
      have hFresh :
          event.eventId ∉
            rows.map TraceabilityEventRow.eventId := by
        rw [hAssoc, List.map_append, List.map_append] at hIds
        intro hMem
        have hFront := (List.nodup_append.mp hIds).1
        exact (List.nodup_append.mp hFront).2.2 _ hMem _
          (by simp [eventRow]) rfl
      rw [hAssoc] at hIds ⊢
      exact ih (meter_books hMeters hBooks hFresh hNext) hIds
        hRest

--------
-- The Single Writer
--------

/- The ids of the canonical rows are a key. -/
theorem eventId_ne_of_violates
    (row other : TraceabilityEventRow)
    (hNone :
      TraceabilityEventRow.constraints.violates row other =
        none) :
    row.eventId ≠ other.eventId := by
  intro hSame
  simp [TraceabilityEventRow.constraints, hSame] at hNone

/-
  A database whose usage is metered: the books of its
  canonical rows are in order, and their ids are a key.
-/
structure Metered (db : Db) : Prop where
  ids :
    (db.traceabilityEvents.map
      TraceabilityEventRow.eventId).Nodup
  books :
    Books db.traceabilityEvents db.usageEventLedger
      db.usageCounters

/- An amendment changes neither the event nor its time. -/
theorem ledgerRow_amend
    (now : Datetime)
    (event : TraceabilityEvent)
    (row : TraceabilityEventRow) :
    ledgerRow (amend now event row) = ledgerRow row := by
  unfold amend
  split <;> rfl

/- Metering is the only step after the insert that counts. -/
theorem afterInsert_usage
    {entry : HashChainRow}
    (hAfter :
      store.afterInsert rt now event entry db =
        .ok (result, db')) :
    ∃ metered,
      store.meter db event = .ok metered ∧
        Db.usageTables.get db' = Db.usageTables.get metered := by
  rcases afterInsert_cases hAfter with
    ⟨rfl, metered, amended, chained, copied, hMeter, hAmend,
      hChain, hLegacy, hLinks⟩
  refine ⟨metered, hMeter, ?_⟩
  rw [(createTransformationLinks_acts rt event).keeps
      (fun _ _ => rfl : Db.linkTable.Blind
        Db.usageTables.get) hLinks,
    (copyLegacy_acts store event).keeps
      (fun _ _ => rfl : Db.legacyTables.Blind
        Db.usageTables.get) hLegacy,
    chainStep_keeps Db.usageTables.get (fun _ _ => rfl) hChain,
    supersede_eq hAmend]
  rfl

/- A new event that lands is counted. -/
theorem persistNewEvent_metered
    (hMeters : store.meterUsage = true)
    (hMetered : Metered db)
    (hFree :
      TraceabilityEventRow.constraints.conflict
        db.traceabilityEvents (eventRow event) = false)
    (hPersist :
      store.persistNewEvent rt now event db =
        .ok (result, db')) :
    Metered db' := by
  rcases persistNewEvent_of_free hFree hPersist with
    ⟨chainHash, -, hRows, hAfter⟩
  have hIds :=
    Table.nodup_insertRows eventId_ne_of_violates hMetered.ids
      hRows
  have hEvents := (afterInsert_events hAfter).2
  rcases afterInsert_usage hAfter with
    ⟨metered, hMeter, hUsage⟩
  simp only [Db.usageTables, Prod.mk.injEq] at hUsage
  have hFresh :
      event.eventId ∉
        db.traceabilityEvents.map
          TraceabilityEventRow.eventId := by
    intro hMem
    rw [List.map_append] at hIds
    exact (List.nodup_append.mp hIds).2.2 _ hMem _
      (by simp [eventRow]) rfl
  have hBooks :
      Books
        (db.traceabilityEvents ++
          [eventRow
            { event with chainHash := some chainHash }])
        metered.usageEventLedger metered.usageCounters := by
    refine meter_books hMeters ?_ hFresh hMeter
    exact hMetered.books
  refine ⟨?_, ?_⟩
  · rw [hEvents, List.map_map]
    have hSame :
        TraceabilityEventRow.eventId ∘
            amend now
              { event with chainHash := some chainHash } =
          TraceabilityEventRow.eventId := by
      funext other
      exact amend_eventId _ _ _
    rw [hSame]
    exact hIds
  · rw [hEvents, hUsage.1, hUsage.2]
    refine hBooks.congr ?_
    rw [List.map_map]
    refine List.map_congr_left ?_
    intro other _
    exact ledgerRow_amend _ _ _

/-
  A single call that inserts its event: an empty key, which
  is not looked up, is not taken.
-/
def InsertsNew (db : Db) (event : TraceabilityEvent) : Prop :=
  event.idempotencyKey = some "" →
    ¬ KeyTaken db event.tenantId [] ""

/- A single call under that condition keeps the books. -/
theorem persistEvent_metered
    (hMeters : store.meterUsage = true)
    (hMetered : Metered db)
    (hNew :
      ∀ prepared, ensurePrepared rt event = .ok prepared →
        InsertsNew db prepared)
    (hPersist :
      store.persistEvent rt now event db = .ok (result, db')) :
    Metered db' := by
  rcases persistEvent_cases hPersist with
    ⟨p, hPrepared, ⟨stored, -, -, hDb⟩ | ⟨hLookup, hCall⟩⟩
  · rw [hDb]
    exact hMetered
  · refine persistNewEvent_metered hMeters hMetered
      (conflict_eventRow ?_) hCall
    intro key hKey hTaken
    by_cases hEmpty : key = ""
    · rw [hEmpty] at hKey hTaken
      exact hNew p hPrepared hKey hTaken
    · unfold lookup at hLookup
      rw [dedupKey_eq_some.mpr ⟨hKey, hEmpty⟩] at hLookup
      simp only [Option.map_eq_none_iff] at hLookup
      simp [KeyTaken, hLookup] at hTaken

--------
-- The Batch Writer
--------

/-
  A batch whose dropped events stand apart: an event whose
  empty key is taken shares its id with no other event of the
  batch.
-/
def LosersApart (db : Db) :
    List TraceabilityEvent → List TraceabilityEvent → Prop
| _, [] => True
| before, event :: rest =>
    (event.idempotencyKey = some "" →
      KeyTaken db event.tenantId before "" →
        event.eventId ∉
          (before ++ rest).map TraceabilityEvent.eventId) ∧
      LosersApart db (before ++ [event]) rest

variable {existing : KeyMap} {nextSequence : Int}
variable {previousChainHash : Option String}

theorem eventId_mem_of_planBatch
    (hMem :
      event ∈ (planBatch rt previousChainHash nextSequence
        existing events).newEvents) :
    event.eventId ∈ events.map TraceabilityEvent.eventId := by
  rcases mem_newEvents_planBatch hMem with
    ⟨given, hGiven, previous, rfl⟩
  exact List.mem_map.mpr ⟨given, hGiven, rfl⟩

/- A row that is dropped has a key that is taken. -/
theorem keyTaken_of_conflict
    {db : Db}
    {before : List TraceabilityEvent}
    {front : List TraceabilityEventRow}
    (hTenant : event.tenantId = tenantId)
    (hFront :
      ∀ row ∈ front, ∃ other ∈ before,
        row.idempotencyKey = other.idempotencyKey)
    (hConflict :
      TraceabilityEventRow.constraints.conflict
        (db.traceabilityEvents ++ front) (eventRow event) =
          true) :
    ∃ key, event.idempotencyKey = some key ∧
      KeyTaken db tenantId before key := by
  rw [Table.Constraints.conflict, List.any_eq_true] at hConflict
  rcases hConflict with ⟨row, hMem, hBoth⟩
  simp only [TraceabilityEventRow.constraints, eventRow,
    Bool.and_eq_true, beq_iff_eq] at hBoth
  rcases hBoth with ⟨hRowTenant, hKeys⟩
  cases hKey : event.idempotencyKey with
  | none => simp [hKey, sameKey] at hKeys
  | some key =>
      have hRowKey : row.idempotencyKey = some key := by
        cases hOther : row.idempotencyKey with
        | none => simp [hKey, hOther, sameKey] at hKeys
        | some other =>
            simp only [hKey, hOther, sameKey, beq_iff_eq]
              at hKeys
            rw [hKeys]
      refine ⟨key, rfl, ?_⟩
      rcases List.mem_append.mp hMem with hStored | hAdded
      · left
        rw [← hTenant, hRowTenant]
        intro hNone
        unfold Db.findByKey at hNone
        rw [List.find?_eq_none] at hNone
        exact hNone row hStored (by simp [hRowKey])
      · rcases hFront row hAdded with ⟨other, hOther, hSame⟩
        exact Or.inr ⟨other, hOther, by rw [← hSame, hRowKey]⟩

/-
  Of a batch whose dropped events stand apart, the events that
  are found among the inserted ids are those whose rows landed.
-/
theorem landed_of_insertRows
    {db : Db}
    {before events : List TraceabilityEvent}
    {front final kept : List TraceabilityEventRow}
    (hTenant : ∀ event ∈ events, event.tenantId = tenantId)
    (hKnows : existing.Knows db tenantId before events)
    (hApart : LosersApart db before events)
    (hFront :
      ∀ row ∈ front, ∃ other ∈ before,
        row.idempotencyKey = other.idempotencyKey)
    (hInsert :
      Table.insertRows TraceabilityEventRow.constraints
          (db.traceabilityEvents ++ front)
          ((planBatch rt previousChainHash nextSequence existing
            events).newEvents.map eventRow) =
        .ok (final, kept))
    (hKept : ∀ row ∈ kept, row.eventId ∈ ids)
    (hIds :
      ∀ id ∈ ids,
        id ∈ before.map TraceabilityEvent.eventId ∨
          id ∈ kept.map TraceabilityEventRow.eventId) :
    ((planBatch rt previousChainHash nextSequence existing
        events).newEvents.filter (fun event =>
          ids.contains event.eventId)).map eventRow = kept := by
  induction events generalizing previousChainHash nextSequence
    existing before front kept with
  | nil =>
      simp only [planBatch, List.map_nil, Table.insertRows,
        Except.ok.injEq, Prod.mk.injEq] at hInsert
      rw [← hInsert.2]
      rfl
  | cons event rest ih =>
      have hRest :
          ∀ later ∈ rest, later.tenantId = tenantId :=
        fun later hLater => hTenant later (by simp [hLater])
      have hOwn := hTenant event (by simp)
      rw [planBatch_cons] at hInsert ⊢
      cases hLookup : existing.lookup event with
      | some stored =>
          rw [hLookup] at hInsert
          refine ih hRest (hKnows.addStored hLookup) hApart.2 ?_
            hInsert hKept ?_
          · intro row hRow
            rcases hFront row hRow with ⟨other, hOther, hSame⟩
            exact ⟨other, by simp [hOther], hSame⟩
          · intro id hId
            rcases hIds id hId with hBefore | hHere
            · exact Or.inl (by
                rw [List.map_append]
                exact List.mem_append_left _ hBefore)
            · exact Or.inr hHere
      | none =>
          rw [hLookup] at hInsert
          rw [List.map_cons] at hInsert
          rcases Table.insertRows_cons hInsert with
            ⟨table', inserted, kept', hRow, hLater, hEq⟩
          have hNotTaken :
              ∀ key, dedupKey event = some key →
                ¬ KeyTaken db tenantId before key := by
            intro key hKey
            rw [← hKnows event (by simp) key hKey]
            unfold KeyMap.lookup at hLookup
            rw [hKey, Option.bind_some] at hLookup
            simp [hLookup]
          rcases Table.insertRow_cases hRow with
            ⟨hFlag, hConflict, hTable⟩ |
              ⟨hFlag, -, -, hTable⟩
          · -- The event is dropped: its key is the empty one,
            -- and no inserted row has its id.
            rw [hFlag] at hEq
            rw [hTable] at hLater
            have hSame : kept = kept' := by simpa using hEq
            rcases keyTaken_of_conflict hOwn hFront hConflict
              with ⟨key, hKey, hTaken⟩
            have hEmpty : key = "" := by
              by_contra hNe
              exact hNotTaken key
                (dedupKey_eq_some.mpr ⟨hKey, hNe⟩) hTaken
            rw [hEmpty] at hKey hTaken
            have hAlone :=
              hApart.1 hKey (by rw [hOwn]; exact hTaken)
            have hAbsent : event.eventId ∉ ids := by
              intro hId
              rw [List.map_append, List.mem_append,
                not_or] at hAlone
              rcases hIds _ hId with hBefore | hHere
              · exact hAlone.1 hBefore
              · rcases List.mem_map.mp hHere with
                  ⟨row, hMem, hRowId⟩
                rw [hSame] at hMem
                have hPlanned :=
                  (Table.insertRows_sublist hLater).subset hMem
                rcases List.mem_map.mp hPlanned with
                  ⟨other, hOther, hOtherRow⟩
                have hOtherId : other.eventId = event.eventId := by
                  rw [← hRowId, ← hOtherRow]
                  rfl
                apply hAlone.2
                rw [← hOtherId]
                exact eventId_mem_of_planBatch hOther
            rw [List.filter_cons_of_neg (by
              simpa [chainedAfter] using hAbsent)]
            rw [hSame] at hKept hIds ⊢
            refine ih hRest hKnows.addNew hApart.2 ?_ hLater
              hKept ?_
            · intro row hMem
              rcases hFront row hMem with ⟨other, hOther, hKeys⟩
              exact ⟨other, by simp [hOther], hKeys⟩
            · intro id hId
              rcases hIds id hId with hBefore | hHere
              · exact Or.inl (by
                  rw [List.map_append]
                  exact List.mem_append_left _ hBefore)
              · exact Or.inr hHere
          · rw [hFlag] at hEq
            have hSame :
                kept =
                  eventRow
                    (chainedAfter rt previousChainHash event) ::
                      kept' := by
              simpa using hEq
            rw [hTable, List.append_assoc] at hLater
            rw [hSame] at hKept hIds ⊢
            have hIn : event.eventId ∈ ids :=
              hKept _ List.mem_cons_self
            rw [List.filter_cons_of_pos (by
              simpa [chainedAfter] using hIn), List.map_cons]
            congr 1
            refine ih hRest hKnows.addNew hApart.2 ?_ hLater
              (fun row hMem =>
                hKept row (List.mem_cons_of_mem _ hMem)) ?_
            · intro row hMem
              rcases List.mem_append.mp hMem with hOld | hNew
              · rcases hFront row hOld with
                  ⟨other, hOther, hKeys⟩
                exact ⟨other, by simp [hOther], hKeys⟩
              · rw [List.mem_singleton.mp hNew]
                exact ⟨event, by simp, rfl⟩
            · intro id hId
              rw [List.map_append, List.mem_append]
              rcases hIds id hId with hBefore | hHere
              · exact Or.inl (Or.inl hBefore)
              · rw [List.map_cons] at hHere
                rcases List.mem_cons.mp hHere with hFirst | hRestId
                · left
                  right
                  rw [hFirst]
                  exact List.mem_singleton.mpr rfl
                · exact Or.inr hRestId

/- Of the steps after the inserts, metering counts. -/
theorem writeBatch_usage
    {plan : BatchPlan}
    (hWrite :
      store.writeBatch rt events tenantId plan ids db =
        .ok (results, db')) :
    ∃ linked metered,
      Db.usageTables.get linked = Db.usageTables.get db ∧
        (plan.newEvents.filter (fun event =>
          ids.contains event.eventId)).foldlM store.meter
            linked = .ok metered ∧
        Db.usageTables.get db' = Db.usageTables.get metered := by
  rcases writeBatch_cases hWrite with
    ⟨-, chained, linked, metered, hChain, hLinks, hMeter,
      hCopy⟩
  refine ⟨linked, metered, ?_, hMeter, ?_⟩
  · rw [(Region.Acts.foldlM (createTransformationLinks_acts rt)
        (fun _ _ => rfl) _).keeps
        (fun _ _ => rfl : Db.linkTable.Blind
          Db.usageTables.get) hLinks,
      Ledger.foldlM_insertChainEntry hChain]
    rfl
  · exact (Region.Acts.foldlM (copyLegacy_acts store)
      (fun _ _ => rfl) _).keeps
      (fun _ _ => rfl : Db.legacyTables.Blind
        Db.usageTables.get) hCopy

/- A batch whose dropped events stand apart keeps the books. -/
theorem persistPrepared_metered
    (hMeters : store.meterUsage = true)
    (hMetered : Metered db)
    (hTenant : ∀ event ∈ events, event.tenantId = tenantId)
    (hApart : LosersApart db [] events)
    (hPersist :
      store.persistPrepared rt tenantId events db =
        .ok (results, db')) :
    Metered db' := by
  rcases persistPrepared_cases hPersist with
    ⟨inserted, ids, hInsert, hPersist⟩
  rcases insertChunks_rows hInsert with
    ⟨kept, hRows, hInserted, hIds⟩
  rw [Table.flatten_chunksOf (show 0 < 50 by decide)] at hRows
  have hLanded :
      ((planFor rt db tenantId events).newEvents.filter
        (fun event => ids.contains event.eventId)).map
          eventRow = kept := by
    rw [← List.append_nil db.traceabilityEvents] at hRows
    refine landed_of_insertRows hTenant
      (existingMap_knows db tenantId events) hApart
      (by simp) hRows ?_ ?_
    · intro row hRow
      rw [hIds]
      exact List.mem_map_of_mem hRow
    · intro id hId
      rw [hIds] at hId
      exact Or.inr hId
  have hNodup :=
    Table.nodup_insertRows eventId_ne_of_violates hMetered.ids
      hRows
  rcases writeBatch_usage hPersist with
    ⟨linked, metered, hBefore, hMeter, hAfter⟩
  rw [hInserted] at hBefore
  simp only [Db.usageTables, Prod.mk.injEq] at hBefore hAfter
  have hBooks :=
    foldlM_meter_books hMeters
      (by rw [hBefore.1, hBefore.2]; exact hMetered.books)
      (by rw [hLanded]; exact hNodup) hMeter
  have hEvents := writeBatch_events hPersist
  rw [hInserted] at hEvents
  refine ⟨?_, ?_⟩
  · rw [hEvents]
    exact hNodup
  · rw [hEvents, hAfter.1, hAfter.2, ← hLanded]
    exact hBooks

/- A batch under that condition keeps the books. -/
theorem persistEventsBatch_metered
    (hMeters : store.meterUsage = true)
    (hMetered : Metered db)
    (hApart :
      ∀ prepared,
        events.mapM (ensurePrepared rt) = .ok prepared →
          LosersApart db [] prepared)
    (hPersist :
      store.persistEventsBatch rt events db =
        .ok (results, db')) :
    Metered db' := by
  rcases persistEventsBatch_cases hPersist with
    ⟨-, -, hDb⟩ |
      ⟨tenantId, prepared, hTenant, hPrepared, hBatch⟩
  · rw [hDb]
    exact hMetered
  · exact persistPrepared_metered hMeters hMetered
      (mapM_ensurePrepared_tenantId hTenant hPrepared)
      (hApart prepared hPrepared) hBatch

--------
-- Runs
--------

open Usage (Books ledgerRow unitsIn claimsIn)

/- A call that writes canonical events. -/
inductive MeteredCall where
| persistEvent
    (store : CanonicalEventStore)
    (now : Datetime)
    (event : TraceabilityEvent)
| persistEventsBatch
    (store : CanonicalEventStore)
    (events : List TraceabilityEvent)

def MeteredCall.run (rt : Runtime) (db : Db) :
    MeteredCall → Except StoreError Db
| .persistEvent store now event =>
    (store.persistEvent rt now event db).map Prod.snd
| .persistEventsBatch store events =>
    (store.persistEventsBatch rt events db).map Prod.snd

/-
  A call that meters the rows it inserts: the store meters
  usage, and the empty key, which is not looked up, is not
  the one that the table drops an event for.
-/
def MetersOnce (rt : Runtime) (db : Db) : MeteredCall → Prop
| .persistEvent store _ event =>
    store.meterUsage = true ∧
      ∀ prepared, ensurePrepared rt event = .ok prepared →
        InsertsNew db prepared
| .persistEventsBatch store events =>
    store.meterUsage = true ∧
      ∀ prepared,
        events.mapM (ensurePrepared rt) = .ok prepared →
          LosersApart db [] prepared

def tenantRows (db : Db) (tenantId : Uuid) :
    List TraceabilityEventRow :=
  db.traceabilityEvents.filter (fun row =>
    row.tenantId == tenantId)

/- The first day of the month of a row's UTC date. -/
def utcMonth (row : TraceabilityEventRow) :
    Option CalendarDate :=
  (Datetime.ofInstant row.eventTimestamp 0).map (fun utc =>
    { utc.date with day := 1 })

/-
  Every row is counted once: the units of a tenant are its
  rows and its ledger rows, a row has one ledger row, of its
  UTC month, and the units of a month are the rows of it.
-/
structure CountsOnce (db : Db) : Prop where
  units :
    ∀ tenantId,
      ((db.usageCounters.filter (fun row =>
          row.tenantId == tenantId)).map
            UsageCounterRow.unitCount).sum =
        (tenantRows db tenantId).length
  claims :
    ∀ tenantId,
      (db.usageEventLedger.filter (fun claim =>
          claim.tenantId == tenantId)).length =
        (tenantRows db tenantId).length
  once :
    ∀ row ∈ db.traceabilityEvents, ∃ month,
      utcMonth row = some month ∧
        db.usageEventLedger.filter (fun claim =>
            claim.tenantId == row.tenantId &&
              claim.eventId == row.eventId) =
          [⟨row.tenantId, row.eventId, month⟩]
  months :
    ∀ tenantId month,
      ((db.usageCounters.filter (fun row =>
          row.tenantId == tenantId &&
            row.billingPeriodStart == month)).map
            UsageCounterRow.unitCount).sum =
        ((tenantRows db tenantId).filter (fun row =>
          utcMonth row == some month)).length

/- The ledger row of a row is of its UTC month. -/
theorem ledgerRow_eq_some
    {row : TraceabilityEventRow}
    {claim : UsageLedgerRow} :
    ledgerRow row = some claim ↔
      utcMonth row = some claim.billingPeriodStart ∧
        claim.tenantId = row.tenantId ∧
        claim.eventId = row.eventId := by
  rcases claim with ⟨tenantId, eventId, start⟩
  unfold ledgerRow utcMonth
  cases Datetime.ofInstant row.eventTimestamp 0 with
  | none => simp
  | some utc =>
      simp only [Option.map_some, Option.some.injEq,
        UsageLedgerRow.mk.injEq]
      constructor
      · rintro ⟨hTenant, hEvent, hStart⟩
        exact ⟨hStart, hTenant.symm, hEvent.symm⟩
      · rintro ⟨hStart, hTenant, hEvent⟩
        exact ⟨hTenant.symm, hEvent.symm, hStart⟩

/- In a metered database every row is counted once. -/
theorem Metered.countsOnce
    {db : Db}
    (hMetered : Metered db) :
    CountsOnce db where
  units := by
    intro tenantId
    have hUnits :=
      hMetered.books.counted (fun tenant _ =>
        tenant == tenantId)
    unfold unitsIn claimsIn at hUnits
    rw [hUnits]
    refine hMetered.books.length_claims _ ?_
    intro row claim hClaim
    rw [(ledgerRow_eq_some.mp hClaim).2.1]
  claims := by
    intro tenantId
    refine hMetered.books.length_claims _ ?_
    intro row claim hClaim
    rw [(ledgerRow_eq_some.mp hClaim).2.1]
  once := by
    intro row hRow
    rcases hMetered.books.exists_ledgerRow hRow with
      ⟨claim, -, hClaim⟩
    rcases ledgerRow_eq_some.mp hClaim with
      ⟨hMonth, hTenant, hEvent⟩
    refine ⟨claim.billingPeriodStart, hMonth, ?_⟩
    refine List.map_injective_iff.mpr
      (Option.some_injective _) ?_
    rw [hMetered.books.filter_claims,
      Table.filter_of_nodup hMetered.ids hRow, List.map_singleton,
      List.map_singleton, hClaim, ← hTenant, ← hEvent]
    · rw [hClaim, Option.any_some, hTenant, hEvent]
      simp
    · intro other hOther
      cases hOtherClaim : ledgerRow other with
      | none => simp [hOtherClaim] at hOther
      | some otherClaim =>
          rw [hOtherClaim, Option.any_some] at hOther
          simp only [Bool.and_eq_true, beq_iff_eq] at hOther
          rw [← hOther.2]
          exact (ledgerRow_eq_some.mp hOtherClaim).2.2.symm
  months := by
    intro tenantId month
    have hUnits :=
      hMetered.books.counted (fun tenant start =>
        tenant == tenantId && start == month)
    unfold unitsIn claimsIn at hUnits
    rw [hUnits, tenantRows, List.filter_filter]
    refine hMetered.books.length_claims _ ?_
    intro row claim hClaim
    rcases ledgerRow_eq_some.mp hClaim with
      ⟨hMonth, hTenant, -⟩
    rw [hMonth, hTenant, Bool.and_comm]
    rfl

/- A call that meters its rows once keeps the books. -/
theorem MeteredCall.run_metered
    (rt : Runtime)
    (db : Db)
    (call : MeteredCall)
    (db' : Db)
    (hMetered : Metered db)
    (hOnce : MetersOnce rt db call)
    (hRun : MeteredCall.run rt db call = .ok db') :
    Metered db' := by
  cases call with
  | persistEvent store now event =>
      rcases Outcome.map_eq_ok.mp hRun with
        ⟨⟨result, final⟩, hPersist, hFinal⟩
      rw [← hFinal]
      exact persistEvent_metered hOnce.1 hMetered hOnce.2
        hPersist
  | persistEventsBatch store events =>
      rcases Outcome.map_eq_ok.mp hRun with
        ⟨⟨results, final⟩, hPersist, hFinal⟩
      rw [← hFinal]
      exact persistEventsBatch_metered hOnce.1 hMetered hOnce.2
        hPersist

/-
  In every run whose calls meter their rows once, every
  canonical row is counted once.
-/
theorem run_countsOnce
    (rt : Runtime)
    (transactions : List (Transaction MeteredCall))
    (hOnce :
      Transaction.AllMeet (MeteredCall.run rt) (MetersOnce rt)
        Db.empty transactions) :
    CountsOnce
      (Transaction.runAll (MeteredCall.run rt) Db.empty
        transactions) := by
  refine Metered.countsOnce ?_
  refine Transaction.runAll_invariant
    (MeteredCall.run_metered rt) ?_ hOnce
  exact ⟨List.nodup_nil, Usage.books_nil⟩

/- A harvest stored, and sent again in a later transaction. -/
def harvestTwice : List (Transaction MeteredCall) :=
  [⟨[.persistEvent {}
      ⟨⟨2026, 1, 2⟩, 0, 0, Datetime.isValid_second⟩
      default], true⟩,
    ⟨[.persistEvent {} ⟨⟨2026, 2, 2⟩, 0, 0, by decide⟩
      default], true⟩]

theorem run_countsOnce_harvestTwice :
    CountsOnce
        (Transaction.runAll
          (MeteredCall.run
            (Runtime.ofDigests Ledger.harvestDigests))
          Db.empty harvestTwice) ∧
      (Transaction.runAll
        (MeteredCall.run
          (Runtime.ofDigests Ledger.harvestDigests))
        Db.empty harvestTwice).usageEventLedger.length = 1 := by
  have hKey :
      ∀ db prepared,
        ensurePrepared (Runtime.ofDigests Ledger.harvestDigests)
            default = .ok prepared →
          InsertsNew db prepared := by
    intro db prepared hPrepared hEmpty
    have hNonempty :
        (ensurePrepared
            (Runtime.ofDigests Ledger.harvestDigests)
            default).toOption.map (fun event =>
              event.idempotencyKey == some "") =
          some false := by
      decide +kernel
    rw [hPrepared] at hNonempty
    simp [Except.toOption, hEmpty] at hNonempty
  refine ⟨run_countsOnce
    (Runtime.ofDigests Ledger.harvestDigests) harvestTwice
    ?_, by decide +kernel⟩
  refine ⟨⟨⟨rfl, hKey _⟩, fun _ _ => trivial⟩,
    ⟨⟨rfl, hKey _⟩, fun _ _ => trivial⟩, trivial⟩

/- Two harvests with an empty key, stored one by one. -/
def emptyKeyTwice : List (Transaction MeteredCall) :=
  [⟨[.persistEvent {}
      ⟨⟨2026, 1, 2⟩, 0, 0, Datetime.isValid_second⟩
      (Ledger.emptyKeyEvent
        (default : TraceabilityEvent).eventId
        "35034614427375864f62cff449cba114d83dc4b50d3c092f51e6f1eac1d74622"
        "")], true⟩,
    ⟨[.persistEvent {}
        ⟨⟨2026, 1, 2⟩, 0, 0, Datetime.isValid_second⟩
        (Ledger.emptyKeyEvent
        ⟨"00000000-0000-0000-0000-000000000002", isUuidText_two⟩
        "92efad725f08330a1acab53ee72eaab37385b3eb6cc89beb75c31f0fa65b8656"
        "")], true⟩]

/- The second is counted, and has no row. -/
theorem not_countsOnce_emptyKeyTwice :
    ¬ CountsOnce
      (Transaction.runAll
        (MeteredCall.run
          (Runtime.ofDigests Ledger.emptyKeyDigests))
        Db.empty emptyKeyTwice) := by
  intro hOnce
  have hUnits :=
    hOnce.units (default : TraceabilityEvent).tenantId
  have hCounted :
      (((Transaction.runAll
          (MeteredCall.run
            (Runtime.ofDigests Ledger.emptyKeyDigests))
          Db.empty emptyKeyTwice).usageCounters.filter
            (fun row => row.tenantId ==
              (default : TraceabilityEvent).tenantId)).map
                UsageCounterRow.unitCount).sum = 2 := by
    decide
  have hRows :
      (tenantRows
        (Transaction.runAll
          (MeteredCall.run
            (Runtime.ofDigests Ledger.emptyKeyDigests))
          Db.empty emptyKeyTwice)
        (default : TraceabilityEvent).tenantId).length = 1 := by
    decide
  omega

end CanonicalEventStore

end RegEngine
