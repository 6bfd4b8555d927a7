import RegEngine.Shared.Schema

/-
  What the statements of the stores leave in the tables: each
  changes one table and leaves the others as they are.

  Main declarations:
    * `Db.addKdes`
    * `Db.addAlerts`
    * `Db.foldlM_insertCteKde_eq`
-/

--------
-- Legacy Events
--------

namespace RegEngine

namespace Db

/- The table names an event by its id. -/
def hasCteEvent (db : Db) (eventId : Uuid) : Bool :=
  db.cteEvents.any (fun event => event.id == eventId)

/- A legacy insert skips the row or puts it at the end. -/
theorem insertCteEvent_cases
    {db db' : Db}
    {row : CteEventRow}
    {landed : Bool}
    (hInsert : db.insertCteEvent row = .ok (db', landed)) :
    (landed = false ∧
        CteEventRow.constraints.conflict db.cteEvents row =
          true ∧
        db' = db) ∨
      (landed = true ∧
        CteEventRow.constraints.conflict db.cteEvents row =
          false ∧
        CteEventRow.constraints.violation db.cteEvents row =
          none ∧
        db' = { db with cteEvents := db.cteEvents ++ [row] }) := by
  unfold insertCteEvent at hInsert
  rcases Outcome.bind_eq_ok.mp hInsert with
    ⟨⟨table, flag⟩, hRow, hDb⟩
  have hPair := Outcome.pure_eq_ok.mp hDb
  simp only [Prod.mk.injEq] at hPair
  rw [← hPair.1, ← hPair.2]
  rcases Table.insertRow_cases hRow with
    ⟨hFlag, hConflict, hTable⟩ |
      ⟨hFlag, hConflict, hKeys, hTable⟩
  · exact Or.inl ⟨hFlag, hConflict, by rw [hTable]⟩
  · exact Or.inr ⟨hFlag, hConflict, hKeys, by rw [hTable]⟩

variable {db : Db}

theorem conflict_of_findCteByKey
    {row : CteEventRow}
    {key : String}
    (hKey : row.idempotencyKey = some key)
    (hFind : db.findCteByKey row.tenantId key = none) :
    CteEventRow.constraints.conflict db.cteEvents row =
      false := by
  unfold findCteByKey at hFind
  rw [List.find?_eq_none] at hFind
  simp only [Table.Constraints.conflict, List.any_eq_false]
  intro other hOther
  have hNot := hFind other hOther
  simp only [CteEventRow.constraints, hKey, sameKey]
  cases hOtherKey : other.idempotencyKey with
  | none => simp
  | some otherKey =>
      intro hBoth
      simp only [Bool.and_eq_true, beq_iff_eq] at hBoth
      apply hNot
      simp [hBoth.1, hOtherKey, hBoth.2]

--------
-- KDEs And Alerts
--------

/- A KDE row added unless its event has the key. -/
def addKde (table : List CteKdeRow) (row : CteKdeRow) :
    List CteKdeRow :=
  if CteKdeRow.constraints.conflict table row then table
  else table ++ [row]

/- KDE rows added in turn. -/
def addKdes (table rows : List CteKdeRow) : List CteKdeRow :=
  rows.foldl addKde table

/- A KDE insert needs its event and changes its table only. -/
theorem insertCteKde_eq
    (db : Db)
    (row : CteKdeRow) :
    db.insertCteKde row =
      if db.hasCteEvent row.cteEventId then
        .ok { db with cteKdes := addKde db.cteKdes row }
      else
        .error (broken "cte_kdes_cte_event_id_fkey") := by
  unfold insertCteKde hasCteEvent
  split
  · have hViolation :
        CteKdeRow.constraints.violation db.cteKdes row = none := by
      simp [Table.Constraints.violation, CteKdeRow.constraints]
    have hCheck : CteKdeRow.constraints.check row = none := rfl
    unfold Table.insertRow addKde
    simp only [hCheck, hViolation]
    split <;> rfl
  · rfl

/- KDE rows of stored events are added in turn. -/
theorem foldlM_insertCteKde_eq
    {rows : List CteKdeRow}
    {db : Db}
    (hRefs :
      ∀ row ∈ rows, db.hasCteEvent row.cteEventId = true) :
    rows.foldlM insertCteKde db =
      .ok { db with cteKdes := addKdes db.cteKdes rows } := by
  induction rows generalizing db with
  | nil => rfl
  | cons row rest ih =>
      rw [List.foldlM_cons, insertCteKde_eq,
        if_pos (hRefs row (by simp))]
      exact ih (fun other hOther =>
        hRefs other (by simp [hOther]))

/- KDE inserts that return had their events. -/
theorem foldlM_insertCteKde_ok
    {rows : List CteKdeRow}
    {db db' : Db}
    (hInsert : rows.foldlM insertCteKde db = .ok db') :
    (∀ row ∈ rows, db.hasCteEvent row.cteEventId = true) ∧
      db' = { db with cteKdes := addKdes db.cteKdes rows } := by
  have hRefs :
      ∀ row ∈ rows, db.hasCteEvent row.cteEventId = true := by
    induction rows generalizing db with
    | nil => simp
    | cons row rest ih =>
        rcases Outcome.foldlM_cons_eq_ok.mp hInsert with
          ⟨next, hNext, hRest⟩
        rw [insertCteKde_eq] at hNext
        split at hNext
        · rename_i hHas
          simp only [Except.ok.injEq] at hNext
          intro other hOther
          rcases List.mem_cons.mp hOther with hHead | hTail
          · rw [hHead]
            exact hHas
          · have := ih hRest other hTail
            rw [← hNext] at this
            exact this
        · simp at hNext
  rw [foldlM_insertCteKde_eq hRefs] at hInsert
  simp only [Except.ok.injEq] at hInsert
  exact ⟨hRefs, hInsert.symm⟩

/- An alert row added when its columns allow it. -/
def addAlert
    (table : List ComplianceAlertRow)
    (row : ComplianceAlertRow) :
    List ComplianceAlertRow :=
  match ComplianceAlertRow.constraints.check row with
  | none => table ++ [row]
  | some _ => table

/- Alert rows added in turn. -/
def addAlerts (table rows : List ComplianceAlertRow) :
    List ComplianceAlertRow :=
  rows.foldl addAlert table

/- An alert of a stored event is added or refused. -/
theorem insertComplianceAlert_eq
    {db : Db}
    {row : ComplianceAlertRow}
    (hRef : db.hasCteEvent row.cteEventId = true) :
    db.insertComplianceAlert row =
      { db with
        complianceAlerts := addAlert db.complianceAlerts row } := by
  have hConflict :
      ComplianceAlertRow.constraints.conflict
        db.complianceAlerts row = false := by
    simp [Table.Constraints.conflict,
      ComplianceAlertRow.constraints]
  have hViolation :
      ComplianceAlertRow.constraints.violation
        db.complianceAlerts row = none := by
    simp [Table.Constraints.violation,
      ComplianceAlertRow.constraints]
  unfold hasCteEvent at hRef
  unfold insertComplianceAlert addAlert Table.insertRow
  rw [if_pos hRef, hConflict, hViolation]
  cases ComplianceAlertRow.constraints.check row <;> simp

/- Alerts of stored events are added in turn. -/
theorem foldl_insertComplianceAlert_eq
    {rows : List ComplianceAlertRow}
    {db : Db}
    (hRefs :
      ∀ row ∈ rows, db.hasCteEvent row.cteEventId = true) :
    rows.foldl insertComplianceAlert db =
      { db with
        complianceAlerts :=
          addAlerts db.complianceAlerts rows } := by
  induction rows generalizing db with
  | nil => rfl
  | cons row rest ih =>
      rw [List.foldl_cons,
        insertComplianceAlert_eq (hRefs row (by simp))]
      exact ih (fun other hOther =>
        hRefs other (by simp [hOther]))

--------
-- Canonical Events
--------

/- A canonical statement appends the rows that it returns. -/
theorem insertTraceabilityEvents_cases
    {db db' : Db}
    {rows kept : List TraceabilityEventRow}
    (hInsert :
      db.insertTraceabilityEvents rows = .ok (db', kept)) :
    Table.insertRows TraceabilityEventRow.constraints
          db.traceabilityEvents rows =
        .ok (db.traceabilityEvents ++ kept, kept) ∧
      kept.forM db'.checkReferences = .ok () ∧
      db' =
        { db with
          traceabilityEvents := db.traceabilityEvents ++ kept } := by
  unfold insertTraceabilityEvents at hInsert
  rcases Outcome.bind_eq_ok.mp hInsert with
    ⟨⟨table, out⟩, hRows, hInsert⟩
  rcases Outcome.bind_eq_ok.mp hInsert with
    ⟨⟨⟩, hRefs, hInsert⟩
  have hPair := Outcome.pure_eq_ok.mp hInsert
  simp only [Prod.mk.injEq] at hPair
  rcases hPair with ⟨hDb, hKept⟩
  have hTable := Table.insertRows_append hRows
  rw [hKept] at hTable hRows hRefs
  rw [hTable] at hRows hDb
  rw [hTable, hDb] at hRefs
  exact ⟨hRows, hRefs, hDb.symm⟩

/- When a canonical statement returns, and what. -/
theorem insertTraceabilityEvents_iff
    {db db' : Db}
    {rows kept : List TraceabilityEventRow} :
    db.insertTraceabilityEvents rows = .ok (db', kept) ↔
      Table.insertRows TraceabilityEventRow.constraints
            db.traceabilityEvents rows =
          .ok (db.traceabilityEvents ++ kept, kept) ∧
        kept.forM db'.checkReferences = .ok () ∧
        db' =
          { db with
            traceabilityEvents :=
              db.traceabilityEvents ++ kept } := by
  constructor
  · exact insertTraceabilityEvents_cases
  · rintro ⟨hRows, hRefs, hDb⟩
    rw [hDb] at hRefs
    simp only [insertTraceabilityEvents, hRows, bind,
      Except.bind, hRefs, hDb, pure, Except.pure]

theorem conflict_of_findByKey
    {row : TraceabilityEventRow}
    (hFind :
      ∀ key, row.idempotencyKey = some key →
        db.findByKey row.tenantId key = none) :
    TraceabilityEventRow.constraints.conflict
      db.traceabilityEvents row = false := by
  simp only [Table.Constraints.conflict, List.any_eq_false]
  intro other hOther hBoth
  simp only [TraceabilityEventRow.constraints,
    Bool.and_eq_true, beq_iff_eq] at hBoth
  cases hKey : row.idempotencyKey with
  | none => simp [hKey, sameKey] at hBoth
  | some key =>
      have hNone := hFind key hKey
      unfold findByKey at hNone
      rw [List.find?_eq_none] at hNone
      apply hNone other hOther
      cases hOtherKey : other.idempotencyKey with
      | none => simp [hKey, hOtherKey, sameKey] at hBoth
      | some otherKey =>
          simp only [hKey, hOtherKey, sameKey, beq_iff_eq]
            at hBoth
          simp [hBoth.1, hBoth.2]

end Db

end RegEngine
