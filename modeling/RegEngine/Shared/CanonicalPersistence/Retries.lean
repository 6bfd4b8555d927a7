import RegEngine.Shared.CanonicalPersistence.Idempotency
import RegEngine.Shared.Ledger.Growth

/-
  Canonical calls that are made again. Once a call has stored
  an event under a key that is not empty, no later run loses
  the row, so the same call returns it and writes nothing.
    * `CanonicalEventStore.persistEvent_retry`
-/

--------
-- Rows That Stay Under Their Key
--------

namespace RegEngine

namespace CanonicalEventStore

open Ledger (Grows Superseded Transaction run run_grows_any)

variable {rt : Runtime} {db db' : Db} {now : Datetime}
variable {store : CanonicalEventStore}
variable {event : TraceabilityEvent}
variable {tenantId : Uuid} {key : String}
variable {acting : Uuid → Prop}

/- What a call reports of a row never changes. -/
theorem storedOf_of_superseded
    {row row' : TraceabilityEventRow}
    (hRow : Superseded acting row row') :
    storedOf row' = storedOf row ∧
      row'.idempotencyKey = row.idempotencyKey := by
  rcases hRow with rfl | ⟨-, -, _, rfl⟩ <;> exact ⟨rfl, rfl⟩

/- A row is found under its key as long as the tables grow. -/
theorem findByKey_of_grows
    {row : TraceabilityEventRow}
    (hGrows : Grows acting db db')
    (hFind : db.findByKey tenantId key = some row) :
    ∃ row', db'.findByKey tenantId key = some row' ∧
      storedOf row' = storedOf row := by
  rcases hGrows.canonical.find?_eq_some (by
      intro row row' hRow
      rw [hRow.tenantId_eq, (storedOf_of_superseded hRow).2])
      hFind with ⟨row', hRow, hFind'⟩
  exact ⟨row', hFind', (storedOf_of_superseded hRow).1⟩

/- The same after a run. -/
theorem findByKey_run
    {row : TraceabilityEventRow}
    (hFind : db.findByKey tenantId key = some row)
    (runs : List Transaction) :
    ∃ row', (run rt db runs).findByKey tenantId key = some row' ∧
      storedOf row' = storedOf row :=
  findByKey_of_grows (run_grows_any rt db runs) hFind

--------
-- One Event Again
--------

/- What a result reports of a row. -/
def reported (result : CanonicalStoreResult) : CanonicalStored :=
  ⟨result.eventId, result.sha256Hash, result.chainHash⟩

variable {result : CanonicalStoreResult}

/- A new event with a key is found under it. -/
theorem findByKey_of_persistNewEvent
    (hKey : dedupKey event = some key)
    (hNone : db.findByKey event.tenantId key = none)
    (hPersist :
      store.persistNewEvent rt now event db =
        .ok (result, db')) :
    ∃ row, db'.findByKey event.tenantId key = some row ∧
      storedOf row = reported result := by
  have hOwn := (dedupKey_eq_some.mp hKey).1
  have hFree :
      TraceabilityEventRow.constraints.conflict
        db.traceabilityEvents (eventRow event) = false := by
    apply Db.conflict_of_findByKey
    intro other hOther
    rw [eventRow, hOwn, Option.some.injEq] at hOther
    exact hOther ▸ hNone
  rcases persistNewEvent_of_free hFree hPersist with
    ⟨chainHash, -, -, hAfter⟩
  have hFind :
      { db with
        traceabilityEvents :=
          db.traceabilityEvents ++
            [eventRow
              { event with chainHash := some chainHash }]
        }.findByKey event.tenantId key =
        some
          (eventRow
            { event with chainHash := some chainHash }) := by
    unfold Db.findByKey at hNone ⊢
    rw [List.find?_append, hNone, Option.none_or,
      List.find?_singleton]
    simp [eventRow, hOwn]
  rw [(afterInsert_cases hAfter).1]
  exact findByKey_of_grows
    (Ledger.grows_afterInsert trivial trivial hAfter :
      Grows (fun _ => True) _ db') hFind

/- A call stores an event with a key, or finds it stored. -/
theorem findByKey_of_persistEvent
    {prepared : TraceabilityEvent}
    (hPrepared : ensurePrepared rt event = .ok prepared)
    (hKey : dedupKey prepared = some key)
    (hPersist :
      store.persistEvent rt now event db = .ok (result, db')) :
    ∃ row, db'.findByKey prepared.tenantId key = some row ∧
      storedOf row = reported result := by
  rcases persistEvent_cases hPersist with
    ⟨p, hOk, ⟨stored, hLookup, rfl, rfl⟩ | ⟨hLookup, hNew⟩⟩
  · rw [hPrepared, Except.ok.injEq] at hOk
    simp only [lookup, ← hOk, hKey, Option.map_eq_some_iff]
      at hLookup
    rcases hLookup with ⟨row, hFind, rfl⟩
    exact ⟨row, hFind, rfl⟩
  · rw [hPrepared, Except.ok.injEq] at hOk
    rw [← hOk] at hLookup hNew
    simp only [lookup, hKey, Option.map_eq_none_iff] at hLookup
    exact findByKey_of_persistNewEvent hKey hLookup hNew

/-
  When `persist_event` has returned for an event whose key is
  not empty, the same call by any store after any run is
  idempotent: it returns the same id and digests, and writes
  nothing.
-/
theorem persistEvent_retry
    (rt : Runtime)
    (store store' : CanonicalEventStore)
    (now later : Datetime)
    (event prepared : TraceabilityEvent)
    (db db' : Db)
    (result : CanonicalStoreResult)
    (runs : List Transaction)
    (hPrepared : ensurePrepared rt event = .ok prepared)
    (hKey : dedupKey prepared ≠ none)
    (hPersist :
      store.persistEvent rt now event db = .ok (result, db')) :
    store'.persistEvent rt later event (run rt db' runs) =
      .ok (idempotentResult (reported result),
        run rt db' runs) := by
  rcases Option.ne_none_iff_exists'.mp hKey with ⟨key, hKey⟩
  rcases findByKey_of_persistEvent hPrepared hKey hPersist with
    ⟨row, hFind, hStored⟩
  rcases @findByKey_run rt _ _ _ _ hFind runs with
    ⟨row', hFind', hSame⟩
  have hLookup :
      lookup (run rt db' runs) prepared =
        some (reported result) := by
    simp only [lookup, hKey, hFind', Option.map_some, hSame,
      hStored]
  unfold persistEvent
  rw [hPrepared]
  simp only [bind, Except.bind, hLookup, pure, Except.pure]

/- A harvest under a key of its caller, stored again later. -/
theorem persistEvent_retry_givenKey :
    ∃ db prepared result,
      ensurePrepared (Runtime.ofDigests harvestDigests)
          (givenKey default) = .ok prepared ∧
        dedupKey prepared ≠ none ∧
        persistEvent {} (Runtime.ofDigests harvestDigests)
            ⟨⟨2026, 1, 2⟩, 0, 0, Datetime.isValid_second⟩
            (givenKey default) Db.empty =
          .ok (result, db) ∧
        persistEvent {} (Runtime.ofDigests harvestDigests)
            ⟨⟨2026, 1, 3⟩, 0, 0, by decide⟩
            (givenKey default)
            (run (Runtime.ofDigests harvestDigests) db
              Ledger.harvestRun) =
          .ok (idempotentResult (reported result),
            run (Runtime.ofDigests harvestDigests) db
              Ledger.harvestRun) := by
  have hKey :
      (ensurePrepared (Runtime.ofDigests harvestDigests)
        (givenKey default)).toOption.map dedupKey =
        some (some "order-7") := by
    decide +kernel
  have hStored :
      (persistEvent {} (Runtime.ofDigests harvestDigests)
        ⟨⟨2026, 1, 2⟩, 0, 0, Datetime.isValid_second⟩
        (givenKey default) Db.empty).isOk = true := by
    decide +kernel
  rcases Outcome.exists_eq_ok hStored with
    ⟨⟨result, db⟩, hPersist⟩
  cases hPrepared :
      ensurePrepared (Runtime.ofDigests harvestDigests)
        (givenKey default) with
  | error raised => simp [hPrepared, Except.toOption] at hKey
  | ok prepared =>
      simp only [hPrepared, Except.toOption, Option.map_some,
        Option.some.injEq] at hKey
      have hSome : dedupKey prepared ≠ none := by
        simp [hKey]
      exact ⟨db, prepared, result, rfl, hSome, hPersist,
        persistEvent_retry _ {} {} _ _ _ prepared _ db result
          Ledger.harvestRun hPrepared hSome hPersist⟩

end CanonicalEventStore

end RegEngine
