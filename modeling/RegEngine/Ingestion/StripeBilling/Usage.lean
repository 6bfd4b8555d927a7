import RegEngine.Shared.Schema

/-
  Metered usage: one unit for each accepted event, counted in
  the calendar month of its UTC date
  (`ingestion/app/stripe_billing/usage.py`).

  Main declarations:
    * `Usage.currentBillingPeriod`
    * `Usage.incrementUsageForEvent`
-/

namespace RegEngine

namespace Usage

/-
  `_current_billing_period`: the first day of the month and of
  the next one, which fails after year 9999.
-/
def currentBillingPeriod (asOf : CalendarDate) :
    Except StoreError (CalendarDate × CalendarDate) :=
  let periodStart := { asOf with day := 1 }
  if periodStart.month = 12 then
    if periodStart.year = 9999 then
      .error (.valueError "year 10000 is out of range")
    else
      .ok (periodStart,
        { periodStart with
          year := periodStart.year + 1
          month := 1 })
  else
    .ok (periodStart,
      { periodStart with month := periodStart.month + 1 })

/-
  `INSERT INTO billing.tenant_usage_counters … ON CONFLICT DO
  UPDATE SET unit_count = unit_count + 1`.
-/
def countUnit
    (counters : List UsageCounterRow)
    (tenantId : Uuid)
    (periodStart periodEnd : CalendarDate) :
    List UsageCounterRow :=
  if counters.any (fun row =>
      row.tenantId == tenantId &&
        row.billingPeriodStart == periodStart) then
    counters.map (fun row =>
      if row.tenantId = tenantId ∧
          row.billingPeriodStart = periodStart then
        { row with unitCount := row.unitCount + 1 }
      else
        row)
  else
    counters ++ [⟨tenantId, periodStart, periodEnd, 1⟩]

/- `increment_usage_for_event`. -/
def incrementUsageForEvent
    (db : Db)
    (tenantId eventId : Uuid)
    (eventTimestamp : Datetime) :
    Except StoreError (Bool × Db) := do
  let utc ←
    Outcome.ofOption .overflowError eventTimestamp.utc
  let period ← currentBillingPeriod utc.date
  let claim ←
    Table.insertRow UsageLedgerRow.constraints
      db.usageEventLedger ⟨tenantId, eventId, period.1⟩
  if claim.2 then
    return (true,
      { db with
        usageEventLedger := claim.1
        usageCounters :=
          countUnit db.usageCounters tenantId period.1
            period.2 })
  else
    return (false, db)

def counterKey (row : UsageCounterRow) : Uuid × CalendarDate :=
  (row.tenantId, row.billingPeriodStart)

/- The keys of the counters stay distinct. -/
theorem nodup_countUnit
    {counters : List UsageCounterRow}
    (hKeys : (counters.map counterKey).Nodup)
    (tenantId : Uuid)
    (periodStart periodEnd : CalendarDate) :
    ((countUnit counters tenantId periodStart periodEnd).map
      counterKey).Nodup := by
  unfold countUnit
  split <;> rename_i hAny
  · have hSame :
        (counters.map (fun row =>
            if row.tenantId = tenantId ∧
                row.billingPeriodStart = periodStart then
              { row with unitCount := row.unitCount + 1 }
            else
              row)).map counterKey =
          counters.map counterKey := by
      rw [List.map_map]
      refine List.map_congr_left ?_
      intro row _
      simp only [Function.comp_apply]
      split <;> rfl
    rw [hSame]
    exact hKeys
  · rw [List.map_append, List.map_singleton, List.nodup_append]
    refine ⟨hKeys, List.nodup_singleton _, ?_⟩
    intro p hOld q hNew hSame
    rcases List.mem_map.mp hOld with ⟨row, hRow, hEq⟩
    apply hAny
    rw [List.any_eq_true]
    refine ⟨row, hRow, ?_⟩
    rw [hSame, List.mem_singleton.mp hNew] at hEq
    simp only [counterKey, Prod.mk.injEq] at hEq
    simp [hEq.1, hEq.2]

end Usage

end RegEngine
