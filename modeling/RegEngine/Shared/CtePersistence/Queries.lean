import Mathlib.Data.List.Dedup
import RegEngine.Library.Query
import RegEngine.Shared.Schema

/-
  The read path of the legacy store: the bounds of a window of
  dates, the walk along transformation links, and the three
  queries for events.

  Main declarations:
    * `CtePersistence.endBoundUtc`
    * `CtePersistence.expandTlcs`
    * `Window.holds_iff`
-/

--------
-- Windows Of Dates
--------

namespace RegEngine

/- `datetime.date`: a date from year 1 to year 9999. -/
structure Date extends CalendarDate where
  valid : toCalendarDate.isValid = true
  deriving DecidableEq

/- `date.max`. -/
def Date.max : Date :=
  ⟨⟨9999, 12, 31⟩, by decide⟩

/- Midnight of a date in UTC, the time zone of a session. -/
def Date.midnight (d : Date) : Int :=
  d.toDays * Datetime.dayMicros

/- The bounds of a query, each of them optional. -/
structure Window where
  start : Option Date
  stop : Option Date
  deriving DecidableEq

def utcDay (instant : Int) : Int :=
  instant / Datetime.dayMicros

/- The UTC date of an instant lies within the bounds. -/
def Window.Covers (window : Window) (instant : Int) : Prop :=
  (∀ d ∈ window.start, (d.toDays : Int) ≤ utcDay instant) ∧
    ∀ d ∈ window.stop, utcDay instant ≤ (d.toDays : Int)

namespace CtePersistence

/-
  `_end_bound_utc`: midnight of the next day; the day after
  `date.max` raises.
-/
def endBoundUtc (stop : Date) : Except StoreError Int :=
  if stop = Date.max then
    .error .overflowError
  else
    .ok ((stop.toDays + 1) * Datetime.dayMicros)

/- The upper bound that a query is given, when it has one. -/
def endBound (stop : Option Date) :
    Except StoreError (Option Int) :=
  match stop with
  | none => .ok none
  | some d => (endBoundUtc d).map some

/- `event_timestamp >= :start_date`. -/
def fromStart (start : Option Date) (instant : Int) : Bool :=
  start.all (fun d => d.midnight ≤ instant)

/- `event_timestamp < :end_date`. -/
def beforeEnd (bound : Option Int) (instant : Int) : Bool :=
  bound.all (fun limit => instant < limit)

--------
-- The Window In The Clauses
--------

variable {d : Date} {bound : Option Int}

/- A day has begun. -/
theorem midnight_le_iff
    {instant : Int} :
    d.midnight ≤ instant ↔ (d.toDays : Int) ≤ utcDay instant := by
  unfold Date.midnight utcDay Datetime.dayMicros
  omega

/- The next day has not begun. -/
theorem lt_nextMidnight_iff
    {instant : Int} :
    instant <
        ((d.toDays : Int) + 1) * (Datetime.dayMicros : Int) ↔
      utcDay instant ≤ (d.toDays : Int) := by
  unfold utcDay Datetime.dayMicros
  omega

/- The day itself has not begun. -/
theorem lt_midnight_iff
    {instant : Int} :
    instant < d.midnight ↔ utcDay instant < (d.toDays : Int) := by
  unfold Date.midnight utcDay Datetime.dayMicros
  omega

/- A bound that is no `date.max` is the next midnight. -/
theorem endBound_eq_ok
    {stop : Option Date}
    (hBound : endBound stop = .ok bound) :
    Date.max ∉ stop ∧
      bound = stop.map (fun d =>
        ((d.toDays : Int) + 1) * (Datetime.dayMicros : Int)) := by
  cases stop with
  | none =>
    cases hBound
    exact ⟨by simp, rfl⟩
  | some d =>
    change (endBoundUtc d).map some = .ok bound at hBound
    unfold endBoundUtc at hBound
    by_cases hMax : d = Date.max
    · rw [if_pos hMax] at hBound
      cases hBound
    · rw [if_neg hMax] at hBound
      cases hBound
      refine ⟨?_, rfl⟩
      rw [Option.mem_some_iff]
      exact hMax

/- Every other date has a bound. -/
theorem endBound_of_ne_max
    {stop : Option Date}
    (hMax : Date.max ∉ stop) :
    endBound stop =
      .ok (stop.map (fun d =>
        ((d.toDays : Int) + 1) *
          (Datetime.dayMicros : Int))) := by
  cases stop with
  | none => rfl
  | some d =>
    change (endBoundUtc d).map some = _
    unfold endBoundUtc
    rw [Option.mem_some_iff] at hMax
    rw [if_neg hMax]
    rfl

variable {window : Window} {depth : Nat} {tlc : String}
variable {tlcs : List String} {tenantId : Uuid}

/- The two clauses select the dates of the window. -/
theorem covers_iff
    (hBound : endBound window.stop = .ok bound)
    (instant : Int) :
    (fromStart window.start instant &&
        beforeEnd bound instant) = true ↔
      window.Covers instant := by
  rw [(endBound_eq_ok hBound).2, Bool.and_eq_true, fromStart,
    beforeEnd, Option.all_eq_true, Option.all_eq_true,
    Window.Covers]
  apply and_congr
  · apply forall₂_congr
    intro d hMem
    rw [decide_eq_true_eq]
    exact midnight_le_iff
  · constructor
    · intro hAll d hMem
      have hBefore := hAll _ (Option.mem_map_of_mem _ hMem)
      rw [decide_eq_true_eq] at hBefore
      exact lt_nextMidnight_iff.mp hBefore
    · intro hAll limit hMem
      rcases Option.mem_map.mp hMem with ⟨d, hStop, rfl⟩
      rw [decide_eq_true_eq]
      exact lt_nextMidnight_iff.mpr (hAll d hStop)

--------
-- The Walk Along Links
--------

/- The direction that a row of the walk steps in. -/
inductive Direction where
  | forward
  | backward
  deriving DecidableEq

/- One step: from inputs to outputs, or the other way. -/
def stepTlcs
    (links : List TransformationLinkRow)
    (direction : Direction)
    (tlcs : List String) : List String :=
  match direction with
  | .forward =>
      (links.filter (fun link =>
        tlcs.contains link.inputTlc)).map
          TransformationLinkRow.outputTlc
  | .backward =>
      (links.filter (fun link =>
        tlcs.contains link.outputTlc)).map
          TransformationLinkRow.inputTlc

/- The lots of a walk of so many steps, seeds included. -/
def walk
    (links : List TransformationLinkRow)
    (direction : Direction) :
    Nat → List String → List String
| 0, tlcs => tlcs
| depth + 1, tlcs =>
    tlcs ++
      walk links direction depth
        (stepTlcs links direction tlcs)

/- `DEFAULT_TRAVERSAL_DEPTH`. -/
def defaultTraversalDepth : Nat :=
  5

/-
  `_expand_tlcs_via_transformation_links_batch`, in both
  directions; for one seed also the single-seed form.
-/
def expandTlcs
    (db : Db)
    (tenantId : Uuid)
    (seeds : List String)
    (depth : Nat) : List String :=
  let links := db.transformationLinks.filter (fun link =>
    link.tenantId == tenantId)
  (walk links .forward depth seeds ++
    walk links .backward depth seeds).dedup

theorem mem_walk_of_seed
    {links : List TransformationLinkRow}
    {direction : Direction}
    (hMem : tlc ∈ tlcs) :
    tlc ∈ walk links direction depth tlcs := by
  cases depth with
  | zero => exact hMem
  | succ depth => exact List.mem_append_left _ hMem

/- The expansion holds its seeds. -/
theorem mem_expandTlcs_of_seed
    {db : Db}
    {seeds : List String}
    (hMem : tlc ∈ seeds) :
    tlc ∈ expandTlcs db tenantId seeds depth := by
  unfold expandTlcs
  rw [List.mem_dedup]
  exact List.mem_append_left _ (mem_walk_of_seed hMem)

--------
-- The Queries
--------

open Python (Dict)

/- How an event came into the result of a query. -/
inductive TraceRelationship where
  | queried
  | linkedViaTransformation
  deriving DecidableEq

/- An event of the result of a query by lots. -/
structure TracedEvent where
  row : CteEventRow
  kdes : Dict
  relationship : TraceRelationship

/- The KDEs of an event, as `kde_map` collects them. -/
def kdesOf (db : Db) (tenantId eventId : Uuid) : Dict :=
  (db.cteKdes.filter (fun kde =>
    kde.tenantId == tenantId && kde.cteEventId == eventId)).foldl
      (fun kdes kde =>
        kdes.set kde.kdeKey (.str kde.kdeValue)) []

/- A legacy row that a query by lots selects. -/
def selectsTlc
    (tenantId : Uuid)
    (tlcs : List String)
    (start : Option Date)
    (bound : Option Int)
    (row : CteEventRow) : Bool :=
  row.tenantId == tenantId &&
    tlcs.contains row.traceabilityLotCode &&
    row.validationStatus != .rejected &&
    (fromStart start row.eventTimestamp &&
      beforeEnd bound row.eventTimestamp)

/- The rows of the query by lots. -/
theorem selectsTlc_iff
    (hBound : endBound window.stop = .ok bound)
    {row : CteEventRow} :
    selectsTlc tenantId tlcs window.start bound row = true ↔
      row.tenantId = tenantId ∧
        row.traceabilityLotCode ∈ tlcs ∧
        row.validationStatus ≠ .rejected ∧
          window.Covers row.eventTimestamp := by
  unfold selectsTlc
  rw [Bool.and_eq_true, Bool.and_eq_true, Bool.and_eq_true,
    beq_iff_eq, List.contains_iff_mem, bne_iff_ne,
    covers_iff hBound, and_assoc, and_assoc]

/- A row with its KDEs and its relation to the seeds. -/
def traced
    (db : Db)
    (tenantId : Uuid)
    (seeds : List String)
    (row : CteEventRow) : TracedEvent where
  row := row
  kdes := kdesOf db tenantId row.id
  relationship :=
    if seeds.contains row.traceabilityLotCode then .queried
    else .linkedViaTransformation

/- The rows of the lots, in the order of their time stamps. -/
def rowsOfTlcs
    (db : Db)
    (tenantId : Uuid)
    (tlcs : List String)
    (start : Option Date)
    (bound : Option Int) : List CteEventRow :=
  Query.orderBy CteEventRow.eventTimestamp
    (db.cteEvents.filter (selectsTlc tenantId tlcs start bound))

/- `query_events_by_tlc`, along the links. -/
def queryEventsByTlc
    (db : Db)
    (tenantId : Uuid)
    (tlc : String)
    (window : Window) :
    Except StoreError (List TracedEvent) := do
  let bound ← endBound window.stop
  return (rowsOfTlcs db tenantId
    (expandTlcs db tenantId [tlc] defaultTraversalDepth)
    window.start bound).map (traced db tenantId [tlc])

/- `query_events_by_tlcs`, along the links. -/
def queryEventsByTlcs
    (db : Db)
    (tenantId : Uuid)
    (tlcs : List String)
    (window : Window)
    (limit : Nat) :
    Except StoreError (List TracedEvent) :=
  if tlcs = [] then
    .ok []
  else do
    let bound ← endBound window.stop
    return ((rowsOfTlcs db tenantId
      (expandTlcs db tenantId tlcs defaultTraversalDepth)
      window.start bound).take limit).map
        (traced db tenantId tlcs)

/- A legacy row that the query for all events selects. -/
def selectsAll
    (tenantId : Uuid)
    (start : Option Date)
    (bound : Option Int)
    (eventType : Option String)
    (row : CteEventRow) : Bool :=
  row.tenantId == tenantId &&
    (fromStart start row.eventTimestamp &&
      beforeEnd bound row.eventTimestamp) &&
    eventType.all (fun name => row.eventType.value == name)

/- `query_all_events`: a page of rows, and how many there are. -/
def queryAllEvents
    (db : Db)
    (tenantId : Uuid)
    (window : Window)
    (eventType : Option String)
    (limit offset : Nat) :
    Except StoreError (List CteEventRow × Nat) := do
  let bound ← endBound window.stop
  let rows := db.cteEvents.filter
    (selectsAll tenantId window.start bound eventType)
  let ordered :=
    Query.orderByDesc CteEventRow.eventTimestamp rows
  return ((ordered.drop offset).take limit, rows.length)

end CtePersistence

end RegEngine
