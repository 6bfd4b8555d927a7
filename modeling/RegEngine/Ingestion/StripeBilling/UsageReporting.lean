import Mathlib.Algebra.GroupWithZero.Nat
import RegEngine.Ingestion.StripeBilling.Usage
import RegEngine.Library.Machine

/-
  Reporting metered usage to Stripe
  (`ingestion/app/stripe_billing/usage_reporting.py`).

  A report reads the outstanding counters of a tenant under a
  lock, sends one meter event for each, and stores how far it
  came. It is taken apart into the steps between which other
  transactions run. Stripe ignores an identifier that it has
  accepted before.

  Main declarations:
    * `UsageReporting.State`
    * `UsageReporting.step`
    * `UsageReporting.run_neverOverBills`
-/

--------
-- Counters And Meter Events
--------

namespace RegEngine

/-
  A row of `billing.tenant_usage_counters` with the count
  that was last reported.
-/
structure UsageCounter extends UsageCounterRow where
  lastReportedCount : Nat

namespace UsageReporting

/- The primary key of a counter. -/
abbrev Period := Uuid × CalendarDate

def period (counter : UsageCounter) : Period :=
  (counter.tenantId, counter.billingPeriodStart)

/-
  `INSERT INTO billing.tenant_usage_counters … ON CONFLICT DO
  UPDATE SET unit_count = unit_count + 1`.
-/
def countUnit
    (counters : List UsageCounter)
    (tenantId : Uuid)
    (periodStart periodEnd : CalendarDate) :
    List UsageCounter :=
  if counters.any (fun counter =>
      counter.tenantId == tenantId &&
        counter.billingPeriodStart == periodStart) then
    counters.map (fun counter =>
      if counter.tenantId = tenantId ∧
          counter.billingPeriodStart = periodStart then
        { counter with unitCount := counter.unitCount + 1 }
      else
        counter)
  else
    counters ++
      [{ tenantId := tenantId
         billingPeriodStart := periodStart
         billingPeriodEnd := periodEnd
         unitCount := 1
         lastReportedCount := 0 }]

/- `period_start.isoformat()` of a date. -/
def isoformat (date : CalendarDate) : String :=
  String.ofList
    (Python.pad 4 date.year ++ '-' ::
      (Python.pad 2 date.month ++ '-' ::
        Python.pad 2 date.day))

/- `f"{tenant_id}:{period_start.isoformat()}:{unit_count}"`. -/
def identifier
    (tenantId : Uuid)
    (periodStart : CalendarDate)
    (unitCount : Nat) : String :=
  tenantId.text ++ ":" ++ isoformat periodStart ++ ":" ++
    toString unitCount

/-
  A meter event that Stripe accepted. The period and the count
  are those of the call; Stripe sees the other fields.
-/
structure MeterEvent where
  period : Period
  unitCount : Nat
  identifier : String
  stripeCustomerId : String
  value : Nat

/- The quantity that Stripe accepted for a period. -/
def acceptedTotal
    (accepted : List MeterEvent)
    (p : Period) : Nat :=
  ((accepted.filter (fun event => event.period = p)).map
    MeterEvent.value).sum

--------
-- Steps
--------

/- What Redis holds for a tenant's subscription. -/
structure Subscription where
  meteredBillingEnabled : Option String
  customerId : Option String

structure ReportRow where
  billingPeriodStart : CalendarDate
  unitCount : Nat
  lastReportedCount : Nat

/-
  A report in its transaction: the rows it has read and
  locked, those still to be sent, and the marks it has written
  but not committed.
-/
structure Report where
  tenantId : Uuid
  customerId : String
  rows : List ReportRow
  todo : List ReportRow
  written : List (CalendarDate × Nat)

/-
  The committed counters, the reports under way, and the meter
  events that Stripe has accepted.
-/
structure State where
  counters : List UsageCounter
  reports : List Report
  accepted : List MeterEvent

/- No usage, no report and no meter event. -/
def State.init : State :=
  ⟨[], [], []⟩

/-
  How a call of `MeterEvent.create` ends. A `StripeError` may
  be raised after Stripe has accepted the event. Any other
  exception leaves the function before its commit, and the
  caller's session rolls back.
-/
inductive CallOutcome where
  | returned
  | stripeError (accepted : Bool)
  | otherError (accepted : Bool)
  deriving DecidableEq

/- Whether the event has reached Stripe. -/
def CallOutcome.accepted : CallOutcome → Bool
| returned => true
| stripeError accepted => accepted
| otherError accepted => accepted

/- The steps of increments and reports. -/
inductive Action where
  | increment
      (tenantId : Uuid)
      (periodStart periodEnd : CalendarDate)
  | start (tenantId : Uuid) (mapping : Subscription)
  | call (tenantId : Uuid) (outcome : CallOutcome)
  | commit (tenantId : Uuid)

/- A report holds the row of a period. -/
def locked (reports : List Report) (p : Period) : Bool :=
  reports.any (fun report =>
    report.tenantId == p.1 &&
      report.rows.any (fun row =>
        row.billingPeriodStart == p.2))

/- `a <= b` on dates. -/
def dateLe (a b : CalendarDate) : Bool :=
  a.year < b.year ||
    (a.year == b.year &&
      (a.month < b.month ||
        (a.month == b.month && a.day ≤ b.day)))

/- `WHERE unit_count > last_reported_count … FOR UPDATE`. -/
def outstanding
    (counters : List UsageCounter)
    (tenantId : Uuid) :
    List ReportRow :=
  ((counters.filter (fun counter =>
      counter.tenantId == tenantId &&
        counter.lastReportedCount < counter.unitCount)).map
    (fun counter =>
      (⟨counter.billingPeriodStart, counter.unitCount,
        counter.lastReportedCount⟩ : ReportRow))).mergeSort
    (fun a b => dateLe a.billingPeriodStart b.billingPeriodStart)

/- The start of `report_tenant_usage_to_stripe`. -/
def openReport
    (s : State)
    (tenantId : Uuid)
    (mapping : Subscription) :
    Option State :=
  if mapping.meteredBillingEnabled ≠ some "true" then
    some s
  else if Python.orElse mapping.customerId "" = "" then
    some s
  else if s.reports.any (fun report =>
      report.tenantId == tenantId) then
    none
  else
    let rows := outstanding s.counters tenantId
    if rows.isEmpty then
      some s
    else
      some { s with
        reports :=
          s.reports ++
            [⟨tenantId, Python.orElse mapping.customerId "",
              rows, rows, []⟩] }

/- Stripe takes an event under a new identifier only. -/
def accept
    (accepted : List MeterEvent)
    (event : MeterEvent) :
    List MeterEvent :=
  if accepted.any (fun other =>
      other.identifier == event.identifier) then
    accepted
  else
    accepted ++ [event]

def meterEvent
    (report : Report)
    (row : ReportRow) : MeterEvent where
  period := (report.tenantId, row.billingPeriodStart)
  unitCount := row.unitCount
  identifier :=
    identifier report.tenantId row.billingPeriodStart
      row.unitCount
  stripeCustomerId := report.customerId
  value := row.unitCount - row.lastReportedCount

/- The marks of a report are committed. -/
def commitMarks
    (counters : List UsageCounter)
    (report : Report) :
    List UsageCounter :=
  counters.map (fun counter =>
    match report.written.find? (fun mark =>
        counter.tenantId == report.tenantId &&
          counter.billingPeriodStart == mark.1) with
    | some mark =>
        { counter with lastReportedCount := mark.2 }
    | none => counter)

/- The report of a tenant ends. -/
def closeReport (reports : List Report) (tenantId : Uuid) :
    List Report :=
  reports.filter (fun report => report.tenantId != tenantId)

/- The report of a tenant goes on. -/
def updateReport
    (reports : List Report)
    (report : Report) :
    List Report :=
  reports.map (fun other =>
    if other.tenantId = report.tenantId then report else other)

/- One round of the loop of a report. -/
def callStep
    (s : State)
    (report : Report)
    (row : ReportRow)
    (rest : List ReportRow)
    (outcome : CallOutcome) :
    State :=
  if row.unitCount ≤ row.lastReportedCount then
    { s with
      reports :=
        updateReport s.reports { report with todo := rest } }
  else
    let accepted :=
      if outcome.accepted then
        accept s.accepted (meterEvent report row)
      else
        s.accepted
    match outcome with
    | .returned =>
        { s with
          accepted := accepted
          reports :=
            updateReport s.reports
              { report with
                todo := rest
                written :=
                  (row.billingPeriodStart, row.unitCount) ::
                    report.written } }
    | .stripeError _ =>
        { counters := commitMarks s.counters report
          accepted := accepted
          reports := closeReport s.reports report.tenantId }
    | .otherError _ =>
        { s with
          accepted := accepted
          reports := closeReport s.reports report.tenantId }

/-
  One step. An increment of a locked row waits, and so does a
  report of a tenant that has one under way.
-/
def step (s : State) (action : Action) : Option State :=
  match action with
  | .increment tenantId periodStart periodEnd =>
      if locked s.reports (tenantId, periodStart) then
        none
      else
        some { s with
          counters :=
            countUnit s.counters tenantId periodStart
              periodEnd }
  | .start tenantId mapping => openReport s tenantId mapping
  | .call tenantId outcome =>
      match s.reports.find? (fun report =>
          report.tenantId == tenantId) with
      | none => none
      | some report =>
          match report.todo with
          | [] => none
          | row :: rest =>
              some (callStep s report row rest outcome)
  | .commit tenantId =>
      match s.reports.find? (fun report =>
          report.tenantId == tenantId) with
      | none => none
      | some report =>
          match report.todo with
          | _ :: _ => none
          | [] =>
              some
                { s with
                  counters := commitMarks s.counters report
                  reports := closeReport s.reports tenantId }

/- The count of a period, zero when it has no row. -/
def unitCountOf
    (counters : List UsageCounter)
    (p : Period) : Nat :=
  ((counters.find? (fun counter => period counter = p)).map
    (fun counter => counter.unitCount)).getD 0

--------
-- Counters Through A Step
--------

/- The counter statement is that of the metering module. -/
theorem countUnit_toUsageCounterRow
    (counters : List UsageCounter)
    (tenantId : Uuid)
    (periodStart periodEnd : CalendarDate) :
    (countUnit counters tenantId periodStart periodEnd).map
        UsageCounter.toUsageCounterRow =
      Usage.countUnit
        (counters.map UsageCounter.toUsageCounterRow) tenantId
        periodStart periodEnd := by
  unfold countUnit Usage.countUnit
  rw [List.any_map]
  split <;> rename_i hAny
  · rw [if_pos (by simpa [Function.comp_def] using hAny),
      List.map_map, List.map_map]
    refine List.map_congr_left ?_
    intro counter _
    simp only [Function.comp_apply]
    split <;> rfl
  · rw [if_neg (by simpa [Function.comp_def] using hAny),
      List.map_append]
    rfl

/-
  Every counter is still there, with a count that is no
  smaller, and the same where `Fixed` says so.
-/
def Carries
    (Fixed : Period → Prop)
    (counters counters' : List UsageCounter) : Prop :=
  ∀ counter ∈ counters, ∃ counter' ∈ counters',
    period counter' = period counter ∧
      counter.unitCount ≤ counter'.unitCount ∧
      (Fixed (period counter) →
        counter'.unitCount = counter.unitCount)

/- The counter of a unit grows, and the others stay. -/
theorem countUnit_carries
    (counters : List UsageCounter)
    (tenantId : Uuid)
    (periodStart periodEnd : CalendarDate) :
    Carries (fun p => p ≠ (tenantId, periodStart)) counters
      (countUnit counters tenantId periodStart periodEnd) := by
  intro counter hMem
  unfold countUnit
  split
  · refine ⟨_, List.mem_map_of_mem hMem, ?_⟩
    by_cases hOwn :
        counter.tenantId = tenantId ∧
          counter.billingPeriodStart = periodStart
    · rw [if_pos hOwn]
      refine ⟨rfl, Nat.le_succ _, ?_⟩
      intro hOther
      exact absurd (Prod.ext hOwn.1 hOwn.2) hOther
    · rw [if_neg hOwn]
      exact ⟨rfl, Nat.le_refl _, fun _ => rfl⟩
  · exact ⟨counter, List.mem_append_left _ hMem, rfl,
      Nat.le_refl _, fun _ => rfl⟩

/- The keys of the counters stay distinct. -/
theorem nodup_countUnit
    {counters : List UsageCounter}
    (hKeys : (counters.map period).Nodup)
    (tenantId : Uuid)
    (periodStart periodEnd : CalendarDate) :
    ((countUnit counters tenantId periodStart periodEnd).map
      period).Nodup := by
  have hPeriod :
      ∀ list : List UsageCounter,
        list.map period =
          (list.map UsageCounter.toUsageCounterRow).map
            Usage.counterKey := by
    intro list
    rw [List.map_map]
    rfl
  rw [hPeriod] at hKeys ⊢
  rw [countUnit_toUsageCounterRow]
  exact Usage.nodup_countUnit hKeys tenantId periodStart
    periodEnd

/- Marks leave the keys and the counts. -/
theorem map_commitMarks
    {α : Type}
    (f : UsageCounter → α)
    (hMark :
      ∀ counter mark,
        f { counter with lastReportedCount := mark } =
          f counter)
    (counters : List UsageCounter)
    (report : Report) :
    (commitMarks counters report).map f = counters.map f := by
  unfold commitMarks
  rw [List.map_map]
  refine List.map_congr_left ?_
  intro counter _
  simp only [Function.comp_apply]
  split
  · exact hMark _ _
  · rfl

theorem commitMarks_carries
    (counters : List UsageCounter)
    (report : Report) :
    Carries (fun _ => True) counters
      (commitMarks counters report) := by
  intro counter hMem
  refine ⟨_, List.mem_map_of_mem hMem, ?_⟩
  split <;> exact ⟨rfl, Nat.le_refl _, fun _ => rfl⟩

--------
-- Accepted Quantities
--------

/-
  What holds of counters, reports and accepted events as long
  as no quantity is sent twice: a period's total is bounded by
  every bound on the counts it was sent with, these counts
  were reached, and a report sends the counts of its rows,
  which it holds.
-/
structure Billed (s : State) : Prop where
  keys : (s.counters.map period).Nodup
  counted :
    ∀ event ∈ s.accepted, ∃ counter ∈ s.counters,
      period counter = event.period ∧
        event.unitCount ≤ counter.unitCount
  named :
    ∀ event ∈ s.accepted,
      event.identifier =
        identifier event.period.1 event.period.2
          event.unitCount
  total :
    ∀ p bound,
      (∀ event ∈ s.accepted, event.period = p →
        event.unitCount ≤ bound) →
      acceptedTotal s.accepted p ≤ bound
  read :
    ∀ report ∈ s.reports, ∀ row ∈ report.rows,
      ∃ counter ∈ s.counters,
        period counter =
            (report.tenantId, row.billingPeriodStart) ∧
          counter.unitCount = row.unitCount
  todo :
    ∀ report ∈ s.reports, ∀ row ∈ report.todo,
      row ∈ report.rows

/- A report that goes on with what it had read and locked. -/
def Continues (report' report : Report) : Prop :=
  report'.tenantId = report.tenantId ∧
    report'.rows = report.rows ∧
    ∀ row ∈ report'.todo, row ∈ report.todo

variable {reports : List Report} {s : State}

/- Counters and reports that go on keep the state billed. -/
theorem Billed.carry
    (hBilled : Billed s)
    {Fixed : Period → Prop}
    {counters : List UsageCounter}
    (hKeys : (counters.map period).Nodup)
    (hCarries : Carries Fixed s.counters counters)
    (hReports :
      ∀ report' ∈ reports, ∃ report ∈ s.reports,
        Continues report' report)
    (hFixed :
      ∀ report ∈ s.reports, ∀ row ∈ report.rows,
        Fixed (report.tenantId, row.billingPeriodStart)) :
    Billed
      { counters := counters
        reports := reports
        accepted := s.accepted } where
  keys := hKeys
  counted := by
    intro event hEvent
    rcases hBilled.counted event hEvent with
      ⟨counter, hMem, hPeriod, hCount⟩
    rcases hCarries counter hMem with
      ⟨counter', hMem', hPeriod', hCount', -⟩
    exact ⟨counter', hMem', by rw [hPeriod', hPeriod],
      Nat.le_trans hCount hCount'⟩
  named := hBilled.named
  total := hBilled.total
  read := by
    intro report' hReport' row hRow
    rcases hReports report' hReport' with
      ⟨report, hReport, hTenant, hRows, -⟩
    rw [hRows] at hRow
    rcases hBilled.read report hReport row hRow with
      ⟨counter, hMem, hPeriod, hCount⟩
    rcases hCarries counter hMem with
      ⟨counter', hMem', hPeriod', -, hSame⟩
    refine ⟨counter', hMem', ?_, ?_⟩
    · rw [hPeriod', hPeriod, hTenant]
    · rw [hSame (by
        rw [hPeriod]
        exact hFixed report hReport row hRow), hCount]
  todo := by
    intro report' hReport' row hRow
    rcases hReports report' hReport' with
      ⟨report, hReport, -, hRows, hTodo⟩
    rw [hRows]
    exact hBilled.todo report hReport row (hTodo row hRow)

/- One more accepted event adds its value to its period. -/
theorem acceptedTotal_append
    (accepted : List MeterEvent)
    (event : MeterEvent)
    (p : Period) :
    acceptedTotal (accepted ++ [event]) p =
      acceptedTotal accepted p +
        if event.period = p then event.value else 0 := by
  unfold acceptedTotal
  rw [List.filter_append, List.map_append, List.sum_append]
  by_cases hOwn : event.period = p
  · simp [hOwn]
  · simp [hOwn]

/-
  A call sends what is outstanding when every count that
  Stripe has accepted for the period is the one that is sent
  now or is covered by the stored mark.
-/
def Covered
    (accepted : List MeterEvent)
    (p : Period)
    (row : ReportRow) : Prop :=
  ∀ event ∈ accepted, event.period = p →
    event.unitCount ≤ row.lastReportedCount ∨
      event.unitCount = row.unitCount

/- A covered call keeps the state billed. -/
theorem Billed.accept
    {s : State}
    (hBilled : Billed s)
    {report : Report}
    {row : ReportRow}
    (hReport : report ∈ s.reports)
    (hRow : row ∈ report.rows)
    (hCovered :
      Covered s.accepted
        (report.tenantId, row.billingPeriodStart) row) :
    Billed
      { s with
        accepted :=
          UsageReporting.accept s.accepted
            (meterEvent report row) } := by
  unfold UsageReporting.accept
  split
  · exact hBilled
  · rename_i hNew
    -- No accepted event has the count sent now, so the mark
    -- bounds what Stripe has accepted for the period.
    have hBelow :
        ∀ event ∈ s.accepted,
          event.period =
              (report.tenantId, row.billingPeriodStart) →
            event.unitCount ≤ row.lastReportedCount := by
      intro event hEvent hPeriod
      rcases hCovered event hEvent hPeriod with hLe | hSame
      · exact hLe
      · exfalso
        apply hNew
        rw [List.any_eq_true]
        refine ⟨event, hEvent, ?_⟩
        rw [hBilled.named event hEvent, hPeriod, hSame]
        simp [meterEvent]
    have hTotal := hBilled.total _ _ hBelow
    rcases hBilled.read report hReport row hRow with
      ⟨counter, hMem, hPeriod, hCount⟩
    exact
      { keys := hBilled.keys
        counted := by
          intro event hEvent
          rcases List.mem_append.mp hEvent with hOld | hLast
          · exact hBilled.counted event hOld
          · rw [List.mem_singleton.mp hLast]
            exact ⟨counter, hMem, hPeriod,
              Nat.le_of_eq hCount.symm⟩
        named := by
          intro event hEvent
          rcases List.mem_append.mp hEvent with hOld | hLast
          · exact hBilled.named event hOld
          · rw [List.mem_singleton.mp hLast]
            rfl
        total := by
          intro p bound hBound
          have hOld :=
            hBilled.total p bound (fun event hEvent hOwn =>
              hBound event (List.mem_append_left _ hEvent)
                hOwn)
          rw [acceptedTotal_append]
          by_cases hOwn : (meterEvent report row).period = p
          · have hLast : row.unitCount ≤ bound :=
              hBound (meterEvent report row) (by simp) hOwn
            have hOwn' :
                (report.tenantId, row.billingPeriodStart) = p :=
              hOwn
            rw [hOwn'] at hTotal
            rw [if_pos hOwn]
            change acceptedTotal s.accepted p +
              (row.unitCount - row.lastReportedCount) ≤ bound
            omega
          · rw [if_neg hOwn]
            exact hOld
        read := hBilled.read
        todo := hBilled.todo }

--------
-- Runs
--------

/-
  The condition on a step: an event that reaches Stripe is
  covered. It fails when an earlier event of the period was
  accepted, its mark was not stored, and the count has grown
  since.
-/
def KeepsCount (s : State) (action : Action) : Prop :=
  match action with
  | .call tenantId outcome =>
      outcome.accepted = true →
        ∀ report ∈ s.reports, report.tenantId = tenantId →
          ∀ row ∈ report.todo.head?,
            Covered s.accepted
              (tenantId, row.billingPeriodStart) row
  | _ => True

instance
    (accepted : List MeterEvent)
    (p : Period)
    (row : ReportRow) :
    Decidable (Covered accepted p row) :=
  inferInstanceAs (Decidable (∀ event ∈ accepted, _))

instance (s : State) (action : Action) :
    Decidable (KeepsCount s action) :=
  match action with
  | .increment _ _ _ => isTrue trivial
  | .start _ _ => isTrue trivial
  | .call tenantId outcome =>
      inferInstanceAs (Decidable
        (outcome.accepted = true →
          ∀ report ∈ s.reports, report.tenantId = tenantId →
            ∀ row ∈ report.todo.head?,
              Covered s.accepted
                (tenantId, row.billingPeriodStart) row))
  | .commit _ => isTrue trivial

/- A report that goes on is one of those there were. -/
theorem continues_of_mem_updateReport
    {report report' other : Report}
    (hReport : report ∈ reports)
    (hContinues : Continues report' report)
    (hMem : other ∈ updateReport reports report') :
    ∃ old ∈ reports, Continues other old := by
  rcases List.mem_map.mp hMem with ⟨old, hOld, hEq⟩
  split at hEq
  · rw [← hEq]
    exact ⟨report, hReport, hContinues⟩
  · rw [← hEq]
    exact ⟨old, hOld, rfl, rfl, fun _ hRow => hRow⟩

theorem continues_of_mem
    {report : Report}
    (hMem : report ∈ reports) :
    ∃ old ∈ reports, Continues report old :=
  ⟨report, hMem, rfl, rfl, fun _ hRow => hRow⟩

/- Committing the marks of a report keeps the state billed. -/
theorem Billed.commit
    {s : State}
    (hBilled : Billed s)
    (report : Report) :
    Billed
      { s with
        counters := commitMarks s.counters report
        reports := closeReport s.reports report.tenantId } := by
  refine hBilled.carry ?_ (commitMarks_carries _ report) ?_
    (fun _ _ _ _ => trivial)
  · rw [map_commitMarks period (fun _ _ => rfl)]
    exact hBilled.keys
  · intro other hMem
    exact continues_of_mem (List.mem_of_mem_filter hMem)

/- Reports that go on keep the state billed. -/
theorem Billed.withReports
    {s : State}
    (hBilled : Billed s)
    {reports : List Report}
    (hReports :
      ∀ report' ∈ reports, ∃ report ∈ s.reports,
        Continues report' report) :
    Billed { s with reports := reports } := by
  have hCarries :
      Carries (fun _ => True) s.counters s.counters := by
    intro counter hMem
    exact ⟨counter, hMem, rfl, Nat.le_refl _, fun _ => rfl⟩
  exact hBilled.carry hBilled.keys hCarries hReports
    (fun _ _ _ _ => trivial)

variable {tenantId : Uuid}

/- An increment waits for the reports that hold its row. -/
theorem Billed.increment
    {s : State}
    (hBilled : Billed s)
    {periodStart : CalendarDate}
    (periodEnd : CalendarDate)
    (hFree :
      locked s.reports (tenantId, periodStart) = false) :
    Billed
      { s with
        counters :=
          countUnit s.counters tenantId periodStart
            periodEnd } := by
  refine hBilled.carry
    (nodup_countUnit hBilled.keys tenantId periodStart
      periodEnd)
    (countUnit_carries s.counters tenantId periodStart
      periodEnd)
    (fun report hMem => continues_of_mem hMem) ?_
  intro report hReport row hRow hSame
  rw [Prod.mk.injEq] at hSame
  rw [locked, List.any_eq_false] at hFree
  apply hFree report hReport
  rw [Bool.and_eq_true, List.any_eq_true]
  exact ⟨by simp [hSame.1], row, hRow, by simp [hSame.2]⟩

/- A report reads the rows as they are. -/
theorem Billed.openReport
    {s next : State}
    (hBilled : Billed s)
    {mapping : Subscription}
    (hOpen :
      UsageReporting.openReport s tenantId mapping =
        some next) :
    Billed next := by
  unfold UsageReporting.openReport at hOpen
  split at hOpen
  · rw [← Option.some.inj hOpen]
    exact hBilled
  split at hOpen
  · rw [← Option.some.inj hOpen]
    exact hBilled
  split at hOpen
  · simp at hOpen
  dsimp only at hOpen
  split at hOpen
  · rw [← Option.some.inj hOpen]
    exact hBilled
  rw [← Option.some.inj hOpen]
  refine
    { keys := hBilled.keys
      counted := hBilled.counted
      named := hBilled.named
      total := hBilled.total
      read := ?_
      todo := ?_ }
  · intro report hReport row hRow
    rcases List.mem_append.mp hReport with hOld | hNew
    · exact hBilled.read report hOld row hRow
    · rw [List.mem_singleton.mp hNew] at hRow ⊢
      rw [outstanding, List.mem_mergeSort,
        List.mem_map] at hRow
      rcases hRow with ⟨counter, hCounter, hEq⟩
      have hBoth := List.mem_filter.mp hCounter
      simp only [Bool.and_eq_true, beq_iff_eq] at hBoth
      rw [← hEq]
      exact ⟨counter, hBoth.1,
        Prod.ext hBoth.2.1 rfl, rfl⟩
  · intro report hReport row hRow
    rcases List.mem_append.mp hReport with hOld | hNew
    · exact hBilled.todo report hOld row hRow
    · rw [List.mem_singleton.mp hNew] at hRow ⊢
      exact hRow

/- A round of a report that sends a covered event. -/
theorem Billed.callStep
    (hBilled : Billed s)
    {report : Report}
    {row : ReportRow}
    {rest : List ReportRow}
    {outcome : CallOutcome}
    (hReport : report ∈ s.reports)
    (hTodo : report.todo = row :: rest)
    (hCovered :
      outcome.accepted = true →
        Covered s.accepted
          (report.tenantId, row.billingPeriodStart) row) :
    Billed
      (UsageReporting.callStep s report row rest outcome) := by
  have hRow : row ∈ report.rows :=
    hBilled.todo report hReport row (by simp [hTodo])
  have hGoesOn :
      ∀ written,
        Continues
          { report with todo := rest, written := written }
          report := by
    intro written
    refine ⟨rfl, rfl, ?_⟩
    intro other hOther
    rw [hTodo]
    exact List.mem_cons_of_mem row hOther
  unfold UsageReporting.callStep
  split
  · exact hBilled.withReports (fun other hMem =>
      continues_of_mem_updateReport hReport
        (hGoesOn report.written) hMem)
  · have hAccepted :
        Billed
          { s with
            accepted :=
              if outcome.accepted = true then
                UsageReporting.accept s.accepted
                  (meterEvent report row)
              else
                s.accepted } := by
      split
      · rename_i hReached
        exact hBilled.accept hReport hRow
          (hCovered hReached)
      · exact hBilled
    cases outcome with
    | returned =>
        exact hAccepted.withReports (fun other hMem =>
          continues_of_mem_updateReport hReport
            (hGoesOn _) hMem)
    | stripeError accepted => exact hAccepted.commit report
    | otherError accepted =>
        exact hAccepted.withReports (fun other hMem =>
          continues_of_mem (List.mem_of_mem_filter hMem))

/- Every step under the condition keeps the state billed. -/
theorem step_billed
    (s : State)
    (action : Action)
    (next : State)
    (hBilled : Billed s)
    (hKeeps : KeepsCount s action)
    (hStep : step s action = some next) :
    Billed next := by
  cases action with
  | increment tenantId periodStart periodEnd =>
      simp only [step] at hStep
      split at hStep
      · simp at hStep
      · rename_i hFree
        rw [← Option.some.inj hStep]
        exact hBilled.increment periodEnd
          (Bool.eq_false_iff.mpr hFree)
  | start tenantId mapping => exact hBilled.openReport hStep
  | call tenantId outcome =>
      simp only [step] at hStep
      split at hStep
      · simp at hStep
      · rename_i report hFind
        have hReport := List.mem_of_find?_eq_some hFind
        have hTenant : report.tenantId = tenantId := by
          simpa using List.find?_some hFind
        split at hStep
        · simp at hStep
        · rename_i row rest hTodo
          rw [← Option.some.inj hStep]
          refine hBilled.callStep hReport hTodo ?_
          intro hReached
          rw [hTenant]
          exact hKeeps hReached report hReport hTenant row
            (by simp [hTodo])
  | commit tenantId =>
      simp only [step] at hStep
      split at hStep
      · simp at hStep
      · rename_i report hFind
        have hTenant : report.tenantId = tenantId := by
          simpa using List.find?_some hFind
        split at hStep
        · simp at hStep
        · rw [← Option.some.inj hStep, ← hTenant]
          exact hBilled.commit report

/- Nothing is billed at the start. -/
theorem billed_init : Billed State.init where
  keys := List.nodup_nil
  counted := by simp [State.init]
  named := by simp [State.init]
  total := by
    intro p bound _
    exact Nat.zero_le bound
  read := by simp [State.init]
  todo := by simp [State.init]

/- In a billed state no period is billed above its count. -/
theorem Billed.acceptedTotal_le
    (hBilled : Billed s)
    (p : Period) :
    acceptedTotal s.accepted p ≤ unitCountOf s.counters p := by
  refine hBilled.total p _ ?_
  intro event hEvent hPeriod
  rcases hBilled.counted event hEvent with
    ⟨counter, hMem, hOwn, hCount⟩
  unfold unitCountOf
  cases hFind :
      s.counters.find? (fun counter => period counter = p) with
  | none =>
      rw [List.find?_eq_none] at hFind
      exact absurd (by simp [hOwn, hPeriod])
        (hFind counter hMem)
  | some found =>
      have hFound : period found = p := by
        simpa using List.find?_some hFind
      have hSame : found = counter :=
        List.inj_on_of_nodup_map hBilled.keys
          (List.mem_of_find?_eq_some hFind) hMem
          (by rw [hFound, hOwn, hPeriod])
      rw [hSame]
      exact hCount

/-
  In every run of increments and reports whose calls are all
  covered, Stripe has accepted no more for a period than its
  count.
-/
theorem run_neverOverBills
    (actions : List Action)
    (s : State)
    (p : Period)
    (hKeeps :
      Machine.Meets step KeepsCount State.init actions)
    (hRun : Machine.run step State.init actions = some s) :
    acceptedTotal s.accepted p ≤ unitCountOf s.counters p :=
  (Machine.run_invariant step_billed billed_init hKeeps
    hRun).acceptedTotal_le p

/- A tenant that has opted in, and a month of its usage. -/
def meteredTenant : Uuid :=
  ⟨"00000000-0000-0000-0000-00000000000a", by decide⟩

def january : CalendarDate :=
  ⟨2026, 1, 1⟩

def optedIn : Subscription :=
  ⟨some "true", some "cus_1"⟩

def oneUnit : Action :=
  .increment meteredTenant january ⟨2026, 2, 1⟩

/-
  A unit is reported and the answer is lost; the report is
  repeated before the count grows.
-/
def repeatedRun : List Action :=
  [oneUnit, .start meteredTenant optedIn,
    .call meteredTenant (.stripeError true),
    .start meteredTenant optedIn,
    .call meteredTenant .returned, .commit meteredTenant]

/- A repeated report is not billed twice. -/
theorem run_neverOverBills_repeatedRun :
    ∃ s,
      Machine.run step State.init repeatedRun = some s ∧
        acceptedTotal s.accepted (meteredTenant, january) = 1 ∧
        acceptedTotal s.accepted (meteredTenant, january) ≤
          unitCountOf s.counters (meteredTenant, january) := by
  have hMeets :
      Machine.Meets step KeepsCount State.init repeatedRun := by
    decide +kernel
  have hTotal :
      (Machine.run step State.init repeatedRun).map (fun s =>
          acceptedTotal s.accepted (meteredTenant, january)) =
        some 1 := by
    decide +kernel
  rcases Option.map_eq_some_iff.mp hTotal with
    ⟨s, hRun, hOne⟩
  exact ⟨s, hRun, hOne,
    run_neverOverBills repeatedRun s (meteredTenant, january)
      hMeets hRun⟩

/-
  A unit is reported and the answer is lost; a second unit
  gives the next report another identifier and the quantity of
  both.
-/
def grownRun : List Action :=
  [oneUnit, .start meteredTenant optedIn,
    .call meteredTenant (.stripeError true), oneUnit,
    .start meteredTenant optedIn,
    .call meteredTenant .returned, .commit meteredTenant]

/- Two units are billed as three. -/
theorem run_overBills_grownRun :
    ∃ s,
      Machine.run step State.init grownRun = some s ∧
        unitCountOf s.counters (meteredTenant, january) = 2 ∧
        acceptedTotal s.accepted (meteredTenant, january) =
          3 := by
  have hBoth :
      (Machine.run step State.init grownRun).map (fun s =>
          (unitCountOf s.counters (meteredTenant, january),
            acceptedTotal s.accepted
              (meteredTenant, january))) =
        some (2, 3) := by
    decide +kernel
  rcases Option.map_eq_some_iff.mp hBoth with
    ⟨s, hRun, hPair⟩
  rw [Prod.mk.injEq] at hPair
  exact ⟨s, hRun, hPair.1, hPair.2⟩

end UsageReporting

end RegEngine
