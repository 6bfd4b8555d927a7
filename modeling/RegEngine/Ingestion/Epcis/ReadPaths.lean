import RegEngine.Shared.CtePersistence.Queries

/-
  The readers behind the EPCIS exports: the event list and the
  rows of a tenant.  Both compare with the dates as they were
  given and read every validation status.

  Main declarations:
    * `Epcis.listEventsFromDbDetailed`
    * `Epcis.queryTenantEvents`
    * `Epcis.epcisCovers_iff`
-/

--------
-- The Readers
--------

namespace RegEngine

open Python (Dict)
open CtePersistence (fromStart beforeEnd kdesOf)

namespace Epcis

/- A legacy row with its KDEs. -/
structure StoredEvent where
  row : CteEventRow
  kdes : Dict

/- A page of the event list. -/
structure EpcisExportPage where
  events : List StoredEvent
  truncated : Bool
  limit : Nat

/- A row that either reader selects. -/
def selectsRow
    (tenantId : Uuid)
    (window : Window)
    (row : CteEventRow) : Bool :=
  row.tenantId == tenantId &&
    (fromStart window.start row.eventTimestamp &&
      beforeEnd (window.stop.map Date.midnight)
        row.eventTimestamp)

/- The rows of a window, latest first. -/
def windowRows
    (db : Db)
    (tenantId : Uuid)
    (window : Window) : List CteEventRow :=
  Query.orderByDesc CteEventRow.eventTimestamp
    (db.cteEvents.filter (selectsRow tenantId window))

/- A row with its KDEs. -/
def stored (db : Db) (tenantId : Uuid) (row : CteEventRow) :
    StoredEvent :=
  ⟨row, kdesOf db tenantId row.id⟩

/- The product of an event is the one asked for, if any. -/
def ofProduct (productId : Option String) (event : StoredEvent) :
    Bool :=
  match productId with
  | none => true
  | some "" => true
  | some wanted =>
      (event.kdes.get "product_id").str? == some wanted

/- `EXPORT_EVENT_LIMIT`. -/
def exportEventLimit : Nat :=
  2000

/- `_list_events_from_db_detailed`, before the rendering. -/
def listEventsFromDbDetailed
    (db : Db)
    (tenantId : Uuid)
    (window : Window)
    (productId : Option String)
    (limit : Nat) :
    Except StoreError EpcisExportPage :=
  if limit < 1 then
    .error (.valueError "limit must be >= 1")
  else
    let rows := (windowRows db tenantId window).take (limit + 1)
    .ok {
      events :=
        ((rows.take limit).map (stored db tenantId)).filter
          (ofProduct productId)
      truncated := limit < rows.length
      limit := limit }

/- `_MAX_EXPORT_EVENTS`. -/
def maxExportEvents : Nat :=
  50000

/- `_query_tenant_events` without a lot filter. -/
def queryTenantEvents
    (db : Db)
    (tenantId : Uuid)
    (window : Window) : List StoredEvent :=
  ((windowRows db tenantId window).take
    (maxExportEvents + 1)).map (stored db tenantId)

--------
-- What They Select
--------

open CtePersistence (fromStart beforeEnd)

variable {window : Window} {db : Db} {tenantId : Uuid}

/- The days from the start up to the day before the end. -/
theorem epcisCovers_iff
    {instant : Int} :
    (fromStart window.start instant &&
        beforeEnd (window.stop.map Date.midnight) instant) =
        true ↔
      window.Covers instant ∧
        ∀ d ∈ window.stop, utcDay instant ≠ (d.toDays : Int) := by
  rw [Bool.and_eq_true, fromStart, beforeEnd,
    Option.all_eq_true, Option.all_eq_true, Window.Covers]
  constructor
  · rintro ⟨hStart, hEnd⟩
    have hBefore :
        ∀ d ∈ window.stop, utcDay instant < (d.toDays : Int) := by
      intro d hStop
      have hLt := hEnd _ (Option.mem_map_of_mem _ hStop)
      rw [decide_eq_true_eq] at hLt
      exact CtePersistence.lt_midnight_iff.mp hLt
    refine ⟨⟨?_, ?_⟩, ?_⟩
    · intro d hMem
      have hLe := hStart d hMem
      rw [decide_eq_true_eq] at hLe
      exact CtePersistence.midnight_le_iff.mp hLe
    · intro d hStop
      exact le_of_lt (hBefore d hStop)
    · intro d hStop
      exact ne_of_lt (hBefore d hStop)
  · rintro ⟨⟨hStart, hEnd⟩, hOther⟩
    refine ⟨?_, ?_⟩
    · intro d hMem
      rw [decide_eq_true_eq]
      exact CtePersistence.midnight_le_iff.mpr (hStart d hMem)
    · intro limit hMem
      rcases Option.mem_map.mp hMem with ⟨d, hStop, rfl⟩
      rw [decide_eq_true_eq]
      exact CtePersistence.lt_midnight_iff.mpr
        (lt_of_le_of_ne (hEnd d hStop) (hOther d hStop))

theorem mem_windowRows
    {row : CteEventRow} :
    row ∈ windowRows db tenantId window ↔
      row ∈ db.cteEvents ∧ row.tenantId = tenantId ∧
        window.Covers row.eventTimestamp ∧
          ∀ d ∈ window.stop,
            utcDay row.eventTimestamp ≠ (d.toDays : Int) := by
  unfold windowRows selectsRow
  rw [Query.mem_orderByDesc, List.mem_filter, Bool.and_eq_true,
    epcisCovers_iff, beq_iff_eq]

/- Below its cap the list shows the rows of the window. -/
theorem listEventsFromDbDetailed_eq
    (hBelow :
      (windowRows db tenantId window).length ≤
        exportEventLimit) :
    listEventsFromDbDetailed db tenantId window none
        exportEventLimit =
      .ok {
        events :=
          (windowRows db tenantId window).map
            (stored db tenantId)
        truncated := false
        limit := exportEventLimit } := by
  unfold listEventsFromDbDetailed
  rw [if_neg (by decide),
    Query.limit_eq (le_trans hBelow (Nat.le_succ _))]
  dsimp only
  rw [Query.limit_eq hBelow, List.filter_eq_self.mpr]
  · rw [decide_eq_false (Nat.not_lt.mpr hBelow)]
  · intro event hMem
    rfl

/- Below its cap the query gives the rows of the window. -/
theorem queryTenantEvents_eq
    (hBelow :
      (windowRows db tenantId window).length ≤
        maxExportEvents) :
    queryTenantEvents db tenantId window =
      (windowRows db tenantId window).map
        (stored db tenantId) := by
  unfold queryTenantEvents
  rw [Query.limit_eq (le_trans hBelow (Nat.le_succ _))]

end Epcis

end RegEngine
