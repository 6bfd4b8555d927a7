import RegEngine.Ingestion.Epcis.ReadPaths
import RegEngine.Ingestion.FdaExport.Queries
import RegEngine.Shared.Ledger.Runs

/-
  What the readers behind the exports select from one window:
  the legacy readers, the canonical readers and the EPCIS
  readers agree exactly on some stores.

  Main declarations:
    * `FdaExport.Exportable`
    * `FdaExport.SelectSame`
    * `FdaExport.selectSame_iff`
-/

--------
-- The Scope Of An Export
--------

namespace RegEngine

open CtePersistence (endBound)

namespace FdaExport

/- The primary keys of the two event tables. -/
structure PrimaryKeys (db : Db) : Prop where
  cteEvents :
    ∀ row ∈ db.cteEvents, ∀ other ∈ db.cteEvents,
      row.id = other.id → row = other
  traceabilityEvents :
    ∀ row ∈ db.traceabilityEvents,
      ∀ other ∈ db.traceabilityEvents,
        row.eventId = other.eventId → row = other

/- A legacy row of the tenant in the window. -/
def LegacyIn
    (db : Db)
    (tenantId : Uuid)
    (window : Window)
    (row : CteEventRow) : Prop :=
  row ∈ db.cteEvents ∧ row.tenantId = tenantId ∧
    window.Covers row.eventTimestamp

/- A canonical row of the tenant in the window. -/
def CanonicalIn
    (db : Db)
    (tenantId : Uuid)
    (window : Window)
    (row : TraceabilityEventRow) : Prop :=
  row ∈ db.traceabilityEvents ∧ row.tenantId = tenantId ∧
    window.Covers row.eventTimestamp

/-
  An event of the tenant in the window that is neither
  rejected nor superseded.
-/
structure Exportable
    (db : Db)
    (tenantId : Uuid)
    (window : Window)
    (id : Uuid) : Prop where
  dated :
    (∃ row, LegacyIn db tenantId window row ∧ row.id = id) ∨
      ∃ row, CanonicalIn db tenantId window row ∧
        row.eventId = id
  legacy :
    ∀ row ∈ db.cteEvents, row.tenantId = tenantId →
      row.id = id → row.validationStatus ≠ .rejected
  canonical :
    ∀ row ∈ db.traceabilityEvents, row.tenantId = tenantId →
      row.eventId = id →
        row.status ≠ .rejected ∧ row.status ≠ .superseded

/- A reader gives the events with a property. -/
def Selects
    (ids : Except ε (List Uuid))
    (wanted : Uuid → Prop) : Prop :=
  ∃ found, ids = .ok found ∧ ∀ id, id ∈ found ↔ wanted id

/- The filters of a recall export with a window only. -/
def windowOnly (window : Window) : RecallFilters :=
  ⟨none, none, none, none, window⟩

/- The filters of the reader with evaluations, likewise. -/
def v2WindowOnly (window : Window) : V2Filters :=
  ⟨none, none, window⟩

/- Every reader gives exactly the exportable events. -/
structure SelectSame
    (lower : String → String)
    (evaluations : List EvaluationRow)
    (db : Db)
    (tenantId : Uuid)
    (window : Window) : Prop where
  full :
    Selects
      ((reconstructFullExportEvents db tenantId window none
        fullExportLimit).map (fun out =>
          out.1.map (fun event => event.row.id)))
      (Exportable db tenantId window)
  recallExport :
    Selects
      ((fetchRecallEvents lower db tenantId
        (windowOnly window)).map (fun rows =>
          rows.map RecallRow.id))
      (Exportable db tenantId window)
  recallCanonical :
    Selects
      ((fetchRecallEventsCanonical lower db tenantId
        (windowOnly window)).map (fun rows =>
          rows.map RecallRow.id))
      (Exportable db tenantId window)
  v2 :
    Selects
      ((fetchV2Events db evaluations tenantId
        (v2WindowOnly window)).map (fun rows =>
          rows.map (fun found => found.row.eventId)))
      (Exportable db tenantId window)
  epcisList :
    Selects
      ((Epcis.listEventsFromDbDetailed db tenantId window none
        Epcis.exportEventLimit).map (fun page =>
          page.events.map (fun event => event.row.id)))
      (Exportable db tenantId window)
  tenantEvents :
    Selects (ε := StoreError)
      (.ok ((Epcis.queryTenantEvents db tenantId window).map
        (fun event => event.row.id)))
      (Exportable db tenantId window)

/- Every reader stays below its cap. -/
structure BelowCaps
    (lower : String → String)
    (evaluations : List EvaluationRow)
    (db : Db)
    (tenantId : Uuid)
    (window : Window) : Prop where
  full :
    ∀ bound, endBound window.stop = .ok bound →
      (db.cteEvents.filter (CtePersistence.selectsAll tenantId
        window.start bound none)).length ≤ fullExportLimit
  recallExport :
    ∀ bound, endBound window.stop = .ok bound →
      (recallRows lower db tenantId (windowOnly window)
        bound).length < recallLimit
  recallCanonical :
    ∀ bound, endBound window.stop = .ok bound →
      (recallRowsCanonical lower db tenantId
        (windowOnly window) bound).length < recallLimit
  v2 :
    ∀ bound, endBound window.stop = .ok bound →
      (v2Rows db evaluations tenantId (v2WindowOnly window)
        bound).length < recallLimit
  epcis :
    (Epcis.windowRows db tenantId window).length ≤
      Epcis.exportEventLimit

/-
  The stores on which the readers agree: the end is not the
  last date, no legacy row is rejected before the end date or
  unrejected on it, the two stores have twins in the window,
  and no event is a draft.
-/
structure SameScope
    (db : Db)
    (tenantId : Uuid)
    (window : Window) : Prop where
  endsEarlier : Date.max ∉ window.stop
  noneRejected :
    ∀ row, LegacyIn db tenantId window row →
      row.validationStatus = .rejected →
        ∃ d ∈ window.stop,
          utcDay row.eventTimestamp = (d.toDays : Int)
  noneOnEnd :
    ∀ row, LegacyIn db tenantId window row →
      row.validationStatus ≠ .rejected →
        ∀ d ∈ window.stop,
          utcDay row.eventTimestamp ≠ (d.toDays : Int)
  canonicalTwin :
    ∀ row, LegacyIn db tenantId window row →
      row.validationStatus ≠ .rejected →
        ∃ twin, CanonicalIn db tenantId window twin ∧
          twin.eventId = row.id ∧ twin.status = .active
  legacyTwin :
    ∀ row, CanonicalIn db tenantId window row →
      row.status = .active →
        ∃ twin, LegacyIn db tenantId window twin ∧
          twin.id = row.eventId ∧
          twin.validationStatus ≠ .rejected
  noDraft :
    ∀ row, CanonicalIn db tenantId window row →
      row.status = .draft →
        ∃ old ∈ db.cteEvents, old.tenantId = tenantId ∧
          old.id = row.eventId ∧
          old.validationStatus = .rejected

--------
-- The Full Export
--------

open CtePersistence

/- The events of unrejected legacy rows in the window. -/
def LegacyEvent
    (db : Db)
    (tenantId : Uuid)
    (window : Window)
    (id : Uuid) : Prop :=
  ∃ row, LegacyIn db tenantId window row ∧ row.id = id ∧
    row.validationStatus ≠ .rejected

/- Without repeats the same ids stand in a list of events. -/
theorem mem_dedupEvents
    {seen : List Uuid}
    {events : List TracedEvent}
    {id : Uuid} :
    id ∈ (dedupEvents seen events).map
          (fun event => event.row.id) ↔
      id ∉ seen ∧
        id ∈ events.map (fun event => event.row.id) := by
  induction events generalizing seen with
  | nil => simp [dedupEvents]
  | cons event rest ih =>
    unfold dedupEvents
    by_cases hSeen : event.row.id ∈ seen
    · rw [if_pos (List.contains_iff_mem.mpr hSeen), ih,
        List.map_cons, List.mem_cons]
      constructor
      · rintro ⟨hNew, hRest⟩
        exact ⟨hNew, Or.inr hRest⟩
      · rintro ⟨hNew, hSame | hRest⟩
        · rw [hSame] at hNew
          exact absurd hSeen hNew
        · exact ⟨hNew, hRest⟩
    · rw [if_neg (fun hIn =>
          hSeen (List.contains_iff_mem.mp hIn)),
        List.map_cons, List.map_cons, List.mem_cons,
        List.mem_cons, ih, List.mem_cons, not_or]
      constructor
      · rintro (hSame | ⟨⟨-, hNew⟩, hRest⟩)
        · rw [hSame]
          exact ⟨hSeen, Or.inl rfl⟩
        · exact ⟨hNew, Or.inr hRest⟩
      · rintro ⟨hNew, hSame | hRest⟩
        · exact Or.inl hSame
        · by_cases hFirst : id = event.row.id
          · exact Or.inl hFirst
          · exact Or.inr ⟨⟨hFirst, hNew⟩, hRest⟩

variable {bound : Option Int} {tenantId : Uuid}
variable {window : Window} {db : Db} {tlcs : List String}
variable {evaluations : List EvaluationRow}

/- The rows of the seed query. -/
theorem selectsAll_iff
    (hBound : endBound window.stop = .ok bound)
    {row : CteEventRow} :
    selectsAll tenantId window.start bound none row = true ↔
      row.tenantId = tenantId ∧
        window.Covers row.eventTimestamp := by
  unfold selectsAll
  rw [Bool.and_eq_true, Bool.and_eq_true, beq_iff_eq,
    covers_iff hBound]
  simp

/- The query by lots selects among the rows of the window. -/
theorem length_rowsOfTlcs_le
    (hBound : endBound window.stop = .ok bound) :
    (rowsOfTlcs db tenantId tlcs window.start bound).length ≤
      (db.cteEvents.filter (selectsAll tenantId window.start
        bound none)).length := by
  unfold rowsOfTlcs
  rw [Query.length_orderBy]
  have hAmong :
      db.cteEvents.filter
          (selectsTlc tenantId tlcs window.start bound) =
        (db.cteEvents.filter (selectsAll tenantId window.start
          bound none)).filter
            (selectsTlc tenantId tlcs window.start bound) := by
    rw [List.filter_filter]
    apply List.filter_congr
    intro row _
    rw [Bool.eq_iff_iff, Bool.and_eq_true, selectsTlc_iff hBound,
      selectsAll_iff hBound]
    constructor
    · rintro ⟨hTenant, hLot, hKept, hCovers⟩
      exact ⟨⟨hTenant, hLot, hKept, hCovers⟩, hTenant, hCovers⟩
    · exact And.left
  rw [hAmong]
  exact List.length_filter_le _ _

/- The rows of the lots of all rows in the window. -/
theorem mem_rowsOfTlcs
    (hBound : endBound window.stop = .ok bound)
    (hSeeds :
      ∀ row, LegacyIn db tenantId window row →
        row.traceabilityLotCode ∈ tlcs)
    {row : CteEventRow} :
    row ∈ rowsOfTlcs db tenantId
          (expandTlcs db tenantId tlcs defaultTraversalDepth)
          window.start bound ↔
      LegacyIn db tenantId window row ∧
        row.validationStatus ≠ .rejected := by
  unfold rowsOfTlcs
  rw [Query.mem_orderBy, List.mem_filter, selectsTlc_iff hBound]
  constructor
  · rintro ⟨hMem, hTenant, -, hKept, hCovers⟩
    exact ⟨⟨hMem, hTenant, hCovers⟩, hKept⟩
  · rintro ⟨hIn, hKept⟩
    exact ⟨hIn.1, hIn.2.1,
      mem_expandTlcs_of_seed (hSeeds row hIn), hKept, hIn.2.2⟩

/- The steps of the full export, when no cap is reached. -/
theorem reconstructFullExportEvents_eq
    {eventType : Option String}
    {limit total : Nat}
    {rows : List CteEventRow}
    {full : List TracedEvent}
    (hSeed :
      queryAllEvents db tenantId window eventType limit 0 =
        .ok (rows, total))
    (hTotal : total ≤ limit)
    (hFull :
      queryEventsByTlcs db tenantId
          (rows.map CteEventRow.traceabilityLotCode).dedup
          window (limit + 1) =
        .ok full)
    (hLength : full.length ≤ limit) :
    reconstructFullExportEvents db tenantId window eventType
        limit =
      .ok (dedupEvents [] full, total) := by
  unfold reconstructFullExportEvents
  rw [hSeed]
  change (if limit < total then _ else _) = _
  rw [if_neg (Nat.not_lt.mpr hTotal)]
  rw [hFull]
  change (if limit < full.length then _ else _) = _
  rw [if_neg (Nat.not_lt.mpr hLength)]
  rfl

variable {limit : Nat}

/- The seed query of the full export below its cap. -/
theorem queryAllEvents_eq
    (hBound : endBound window.stop = .ok bound)
    (hBelow :
      (db.cteEvents.filter (selectsAll tenantId window.start
        bound none)).length ≤ limit) :
    queryAllEvents db tenantId window none limit 0 =
      .ok (Query.orderByDesc CteEventRow.eventTimestamp
          (db.cteEvents.filter (selectsAll tenantId
            window.start bound none)),
        (db.cteEvents.filter (selectsAll tenantId window.start
          bound none)).length) := by
  unfold queryAllEvents
  rw [hBound]
  change Except.ok (((Query.orderByDesc _ _).drop 0).take _,
    _) = _
  rw [List.drop_zero, Query.limit_eq]
  rw [Query.length_orderByDesc]
  exact hBelow

/- The query by the lots of the window below its cap. -/
theorem queryEventsByTlcs_spec
    (hBound : endBound window.stop = .ok bound)
    (hBelow :
      (db.cteEvents.filter (selectsAll tenantId window.start
        bound none)).length ≤ limit)
    (hSeeds :
      ∀ row, LegacyIn db tenantId window row →
        row.traceabilityLotCode ∈ tlcs) :
    ∃ full,
      queryEventsByTlcs db tenantId tlcs window (limit + 1) =
          .ok full ∧
        full.length ≤ limit ∧
        ∀ id, id ∈ full.map (fun event => event.row.id) ↔
          LegacyEvent db tenantId window id := by
  unfold queryEventsByTlcs
  by_cases hNone : tlcs = []
  · rw [if_pos hNone]
    refine ⟨[], rfl, Nat.zero_le _, ?_⟩
    intro id
    constructor
    · intro hMem
      cases hMem
    · rintro ⟨row, hIn, -, -⟩
      have hSeed := hSeeds row hIn
      rw [hNone] at hSeed
      cases hSeed
  · rw [if_neg hNone, hBound]
    have hShort :
        (rowsOfTlcs db tenantId
            (expandTlcs db tenantId tlcs defaultTraversalDepth)
            window.start bound).length ≤ limit :=
      le_trans (length_rowsOfTlcs_le hBound) hBelow
    refine ⟨_, rfl, ?_, ?_⟩
    · rw [List.length_map]
      exact le_trans (List.length_take_le' _ _) hShort
    · intro id
      rw [Query.limit_eq (le_trans hShort (Nat.le_succ _)),
        List.map_map, List.mem_map]
      constructor
      · rintro ⟨row, hMem, hId⟩
        rw [mem_rowsOfTlcs hBound hSeeds] at hMem
        exact ⟨row, hMem.1, hId, hMem.2⟩
      · rintro ⟨row, hIn, hId, hKept⟩
        exact ⟨row,
          (mem_rowsOfTlcs hBound hSeeds).mpr ⟨hIn, hKept⟩, hId⟩

/- The full export gives the unrejected legacy events. -/
theorem selects_full
    (hBound : endBound window.stop = .ok bound)
    (hBelow :
      (db.cteEvents.filter (selectsAll tenantId window.start
        bound none)).length ≤ fullExportLimit) :
    Selects
      ((reconstructFullExportEvents db tenantId window none
        fullExportLimit).map (fun out =>
          out.1.map (fun event => event.row.id)))
      (LegacyEvent db tenantId window) := by
  have hSeed := queryAllEvents_eq hBound hBelow
  have hSeeds :
      ∀ row, LegacyIn db tenantId window row →
        row.traceabilityLotCode ∈
          ((Query.orderByDesc CteEventRow.eventTimestamp
            (db.cteEvents.filter (selectsAll tenantId
              window.start bound none))).map
                CteEventRow.traceabilityLotCode).dedup := by
    intro row hIn
    rw [List.mem_dedup]
    apply List.mem_map_of_mem
    rw [Query.mem_orderByDesc, List.mem_filter]
    exact ⟨hIn.1, (selectsAll_iff hBound).mpr hIn.2⟩
  rcases queryEventsByTlcs_spec hBound hBelow hSeeds with
    ⟨full, hFull, hLength, hIds⟩
  rw [reconstructFullExportEvents_eq hSeed hBelow hFull hLength]
  refine ⟨_, rfl, ?_⟩
  intro id
  rw [mem_dedupEvents, hIds]
  simp

--------
-- The Other Readers
--------

/- The events of active canonical rows in the window. -/
def CanonicalEvent
    (db : Db)
    (tenantId : Uuid)
    (window : Window)
    (id : Uuid) : Prop :=
  ∃ row, CanonicalIn db tenantId window row ∧
    row.eventId = id ∧ row.status = .active

/- The events of legacy rows before the end date. -/
def EarlierEvent
    (db : Db)
    (tenantId : Uuid)
    (window : Window)
    (id : Uuid) : Prop :=
  ∃ row, LegacyIn db tenantId window row ∧ row.id = id ∧
    ∀ d ∈ window.stop,
      utcDay row.eventTimestamp ≠ (d.toDays : Int)

/- The rows of the recall reader without filters. -/
theorem recallWhere_iff
    {lower : String → String}
    (hBound : endBound window.stop = .ok bound)
    {row : CteEventRow} :
    recallWhere lower tenantId (windowOnly window) bound row =
        true ↔
      row.tenantId = tenantId ∧
        row.validationStatus ≠ .rejected ∧
          window.Covers row.eventTimestamp := by
  rw [← covers_iff hBound]
  simp [recallWhere, windowOnly, passes, and_assoc]

/- The rows of the canonical reader without filters. -/
theorem recallWhereCanonical_iff
    {lower : String → String}
    (hBound : endBound window.stop = .ok bound)
    {row : TraceabilityEventRow} :
    recallWhereCanonical lower tenantId (windowOnly window)
          bound row = true ↔
      row.tenantId = tenantId ∧ row.status = .active ∧
        window.Covers row.eventTimestamp := by
  rw [← covers_iff hBound]
  simp [recallWhereCanonical, windowOnly, passes, and_assoc]

/- The rows of the reader with evaluations without filters. -/
theorem v2Where_iff
    (hBound : endBound window.stop = .ok bound)
    {row : TraceabilityEventRow} :
    v2Where tenantId (v2WindowOnly window) bound row = true ↔
      row.tenantId = tenantId ∧ row.status = .active ∧
        window.Covers row.eventTimestamp := by
  rw [← covers_iff hBound]
  simp [v2Where, v2WindowOnly, passes, and_assoc]

/- The recall reader gives the unrejected legacy events. -/
theorem selects_recall
    {lower : String → String}
    (hBound : endBound window.stop = .ok bound)
    (hBelow :
      (recallRows lower db tenantId (windowOnly window)
        bound).length < recallLimit) :
    Selects
      ((fetchRecallEvents lower db tenantId
        (windowOnly window)).map (fun rows =>
          rows.map RecallRow.id))
      (LegacyEvent db tenantId window) := by
  unfold fetchRecallEvents
  rw [show (windowOnly window).window = window from rfl, hBound]
  refine ⟨_, rfl, ?_⟩
  intro id
  rw [Query.limit_eq (le_of_lt hBelow), recallRows,
    List.mem_map]
  constructor
  · rintro ⟨read, hRead, hId⟩
    rw [Query.mem_orderBy, List.mem_map] at hRead
    rcases hRead with ⟨⟨row, entry⟩, hJoined, hRow⟩
    have hMem := Query.exists_mem_leftJoin.mp ⟨entry, hJoined⟩
    rw [List.mem_filter, recallWhere_iff hBound] at hMem
    refine ⟨row, ⟨hMem.1, hMem.2.1, hMem.2.2.2⟩, ?_,
      hMem.2.2.1⟩
    rw [← hId, ← hRow]
    rfl
  · rintro ⟨row, hIn, hId, hKept⟩
    have hMem :
        row ∈ db.cteEvents.filter (recallWhere lower tenantId
          (windowOnly window) bound) := by
      rw [List.mem_filter, recallWhere_iff hBound]
      exact ⟨hIn.1, hIn.2.1, hKept, hIn.2.2⟩
    rcases Query.exists_mem_leftJoin.mpr hMem with
      ⟨entry, hJoined⟩
    refine ⟨recallRow db tenantId row entry, ?_, hId⟩
    rw [Query.mem_orderBy, List.mem_map]
    exact ⟨(row, entry), hJoined, rfl⟩

/- The canonical reader gives the active canonical events. -/
theorem selects_recallCanonical
    {lower : String → String}
    (hBound : endBound window.stop = .ok bound)
    (hBelow :
      (recallRowsCanonical lower db tenantId
        (windowOnly window) bound).length < recallLimit) :
    Selects
      ((fetchRecallEventsCanonical lower db tenantId
        (windowOnly window)).map (fun rows =>
          rows.map RecallRow.id))
      (CanonicalEvent db tenantId window) := by
  unfold fetchRecallEventsCanonical
  rw [show (windowOnly window).window = window from rfl, hBound]
  refine ⟨_, rfl, ?_⟩
  intro id
  rw [Query.limit_eq (le_of_lt hBelow), recallRowsCanonical,
    List.mem_map]
  constructor
  · rintro ⟨read, hRead, hId⟩
    rw [Query.mem_orderBy, List.mem_map] at hRead
    rcases hRead with ⟨⟨row, entry⟩, hJoined, hRow⟩
    have hMem := Query.exists_mem_leftJoin.mp ⟨entry, hJoined⟩
    rw [List.mem_filter, recallWhereCanonical_iff hBound]
      at hMem
    refine ⟨row, ⟨hMem.1, hMem.2.1, hMem.2.2.2⟩, ?_,
      hMem.2.2.1⟩
    rw [← hId, ← hRow]
    rfl
  · rintro ⟨row, hIn, hId, hActive⟩
    have hMem :
        row ∈ db.traceabilityEvents.filter
          (recallWhereCanonical lower tenantId
            (windowOnly window) bound) := by
      rw [List.mem_filter, recallWhereCanonical_iff hBound]
      exact ⟨hIn.1, hIn.2.1, hActive, hIn.2.2⟩
    rcases Query.exists_mem_leftJoin.mpr hMem with
      ⟨entry, hJoined⟩
    refine ⟨recallRowCanonical row entry, ?_, hId⟩
    rw [Query.mem_orderBy, List.mem_map]
    exact ⟨(row, entry), hJoined, rfl⟩

/- The reader with evaluations gives them, too. -/
theorem selects_v2
    (hBound : endBound window.stop = .ok bound)
    (hBelow :
      (v2Rows db evaluations tenantId (v2WindowOnly window)
        bound).length < recallLimit) :
    Selects
      ((fetchV2Events db evaluations tenantId
        (v2WindowOnly window)).map (fun rows =>
          rows.map (fun found => found.row.eventId)))
      (CanonicalEvent db tenantId window) := by
  unfold fetchV2Events
  rw [show (v2WindowOnly window).window = window from rfl,
    hBound]
  refine ⟨_, rfl, ?_⟩
  intro id
  rw [Query.limit_eq (le_of_lt hBelow), v2Rows]
  dsimp only
  rw [List.map_map, List.mem_map]
  constructor
  · rintro ⟨row, hMem, hId⟩
    rw [Query.mem_orderBy, List.mem_filter, v2Where_iff hBound]
      at hMem
    exact ⟨row, ⟨hMem.1, hMem.2.1, hMem.2.2.2⟩, hId,
      hMem.2.2.1⟩
  · rintro ⟨row, hIn, hId, hActive⟩
    refine ⟨row, ?_, hId⟩
    rw [Query.mem_orderBy, List.mem_filter, v2Where_iff hBound]
    exact ⟨hIn.1, hIn.2.1, hActive, hIn.2.2⟩

/- The EPCIS readers give the legacy events before the end. -/
theorem mem_windowRows_ids
    {id : Uuid} :
    id ∈ ((Epcis.windowRows db tenantId window).map
          (Epcis.stored db tenantId)).map
            (fun event => event.row.id) ↔
      EarlierEvent db tenantId window id := by
  rw [List.map_map, List.mem_map]
  constructor
  · rintro ⟨row, hMem, hId⟩
    rw [Epcis.mem_windowRows] at hMem
    exact ⟨row, ⟨hMem.1, hMem.2.1, hMem.2.2.1⟩, hId,
      hMem.2.2.2⟩
  · rintro ⟨row, hIn, hId, hOther⟩
    exact ⟨row,
      Epcis.mem_windowRows.mpr
        ⟨hIn.1, hIn.2.1, hIn.2.2, hOther⟩, hId⟩

theorem selects_epcisList
    (hBelow :
      (Epcis.windowRows db tenantId window).length ≤
        Epcis.exportEventLimit) :
    Selects
      ((Epcis.listEventsFromDbDetailed db tenantId window none
        Epcis.exportEventLimit).map (fun page =>
          page.events.map (fun event => event.row.id)))
      (EarlierEvent db tenantId window) := by
  rw [Epcis.listEventsFromDbDetailed_eq hBelow]
  refine ⟨_, rfl, ?_⟩
  intro id
  exact mem_windowRows_ids

theorem selects_tenantEvents
    (hBelow :
      (Epcis.windowRows db tenantId window).length ≤
        Epcis.exportEventLimit) :
    Selects (ε := StoreError)
      (.ok ((Epcis.queryTenantEvents db tenantId window).map
        (fun event => event.row.id)))
      (EarlierEvent db tenantId window) := by
  rw [Epcis.queryTenantEvents_eq
    (le_trans hBelow (by decide))]
  refine ⟨_, rfl, ?_⟩
  intro id
  exact mem_windowRows_ids

--------
-- When They Agree
--------

/- What a reader selects, it selects with one property only. -/
theorem Selects.iff_of_selects
    {ids : Except ε (List Uuid)}
    {found wanted : Uuid → Prop}
    (hFound : Selects ids found) :
    Selects ids wanted ↔ ∀ id, found id ↔ wanted id := by
  rcases hFound with ⟨list, hList, hMem⟩
  constructor
  · rintro ⟨other, hOther, hWanted⟩
    rw [hList] at hOther
    cases hOther
    intro id
    rw [← hMem, hWanted]
  · intro hSame
    exact ⟨list, hList, fun id => (hMem id).trans (hSame id)⟩

/- The three kinds of events are the exportable ones. -/
structure OneKind
    (db : Db)
    (tenantId : Uuid)
    (window : Window) : Prop where
  legacy :
    ∀ id, LegacyEvent db tenantId window id ↔
      Exportable db tenantId window id
  canonical :
    ∀ id, CanonicalEvent db tenantId window id ↔
      Exportable db tenantId window id
  earlier :
    ∀ id, EarlierEvent db tenantId window id ↔
      Exportable db tenantId window id

/- The readers agree when the kinds of events do. -/
theorem selectSame_iff_oneKind
    {lower : String → String}
    (hEarlier : Date.max ∉ window.stop)
    (hCaps : BelowCaps lower evaluations db tenantId window) :
    SelectSame lower evaluations db tenantId window ↔
      OneKind db tenantId window := by
  have hBound := endBound_of_ne_max hEarlier
  have hFull := selects_full hBound (hCaps.full _ hBound)
  have hRecall := selects_recall hBound (hCaps.recallExport _ hBound)
  have hCanonical :=
    selects_recallCanonical hBound
      (hCaps.recallCanonical _ hBound)
  have hV2 := selects_v2 hBound (hCaps.v2 _ hBound)
  have hList := selects_epcisList hCaps.epcis
  have hTenant := selects_tenantEvents hCaps.epcis
  constructor
  · intro hSame
    exact {
      legacy := hFull.iff_of_selects.mp hSame.full
      canonical :=
        hCanonical.iff_of_selects.mp hSame.recallCanonical
      earlier := hList.iff_of_selects.mp hSame.epcisList }
  · intro hKind
    exact {
      full := hFull.iff_of_selects.mpr hKind.legacy
      recallExport := hRecall.iff_of_selects.mpr hKind.legacy
      recallCanonical :=
        hCanonical.iff_of_selects.mpr hKind.canonical
      v2 := hV2.iff_of_selects.mpr hKind.canonical
      epcisList := hList.iff_of_selects.mpr hKind.earlier
      tenantEvents :=
        hTenant.iff_of_selects.mpr hKind.earlier }

/- Kinds that agree leave the scope the same. -/
theorem OneKind.sameScope
    (hKeys : PrimaryKeys db)
    (hEarlier : Date.max ∉ window.stop)
    (hKind : OneKind db tenantId window) :
    SameScope db tenantId window := by
  have hTwins :
      ∀ id, LegacyEvent db tenantId window id ↔
        CanonicalEvent db tenantId window id := by
    intro id
    rw [hKind.legacy, hKind.canonical]
  refine ⟨hEarlier, ?_, ?_, ?_, ?_, ?_⟩
  · intro row hIn hRejected
    by_contra hNone
    push Not at hNone
    have hExport :=
      (hKind.earlier row.id).mp ⟨row, hIn, rfl, hNone⟩
    exact hExport.legacy row hIn.1 hIn.2.1 rfl hRejected
  · intro row hIn hKept
    have hExport :=
      (hKind.legacy row.id).mp ⟨row, hIn, rfl, hKept⟩
    rcases (hKind.earlier row.id).mpr hExport with
      ⟨other, hOther, hId, hDays⟩
    have hSame :=
      hKeys.cteEvents other hOther.1 row hIn.1 hId
    rw [hSame] at hDays
    exact hDays
  · intro row hIn hKept
    rcases (hTwins row.id).mp ⟨row, hIn, rfl, hKept⟩ with
      ⟨twin, hTwin, hId, hActive⟩
    exact ⟨twin, hTwin, hId, hActive⟩
  · intro row hIn hActive
    rcases (hTwins row.eventId).mpr ⟨row, hIn, rfl, hActive⟩
      with ⟨twin, hTwin, hId, hKept⟩
    exact ⟨twin, hTwin, hId, hKept⟩
  · intro row hIn hDraft
    by_contra hNone
    push Not at hNone
    have hExport : Exportable db tenantId window row.eventId := by
      refine ⟨Or.inr ⟨row, hIn, rfl⟩, ?_, ?_⟩
      · intro old hOld hTenant hId
        exact hNone old hOld hTenant hId
      · intro other hOther _ hId
        rw [hKeys.traceabilityEvents other hOther row hIn.1 hId,
          hDraft]
        exact ⟨by decide, by decide⟩
    rcases (hKind.canonical row.eventId).mpr hExport with
      ⟨other, hOther, hId, hActive⟩
    rw [hKeys.traceabilityEvents other hOther.1 row hIn.1 hId,
      hDraft] at hActive
    cases hActive

theorem SameScope.oneKind
    (hKeys : PrimaryKeys db)
    (hScope : SameScope db tenantId window) :
    OneKind db tenantId window := by
  have hExport :
      ∀ id, LegacyEvent db tenantId window id →
        Exportable db tenantId window id := by
    rintro id ⟨row, hIn, rfl, hKept⟩
    refine ⟨Or.inl ⟨row, hIn, rfl⟩, ?_, ?_⟩
    · intro other hOther _ hId
      rw [hKeys.cteEvents other hOther row hIn.1 hId]
      exact hKept
    · intro other hOther _ hId
      rcases hScope.canonicalTwin row hIn hKept with
        ⟨twin, hTwin, hTwinId, hActive⟩
      rw [hKeys.traceabilityEvents other hOther twin hTwin.1
        (hId.trans hTwinId.symm), hActive]
      exact ⟨by decide, by decide⟩
  have hLegacy :
      ∀ id, Exportable db tenantId window id →
        LegacyEvent db tenantId window id := by
    rintro id ⟨⟨row, hIn, rfl⟩ | ⟨row, hIn, rfl⟩, hOld, hNew⟩
    · exact ⟨row, hIn, rfl,
        hOld row hIn.1 hIn.2.1 rfl⟩
    · have hStatus := hNew row hIn.1 hIn.2.1 rfl
      cases hCase : row.status with
      | active =>
        rcases hScope.legacyTwin row hIn hCase with
          ⟨twin, hTwin, hId, hKept⟩
        exact ⟨twin, hTwin, hId, hKept⟩
      | superseded => exact absurd hCase hStatus.2
      | rejected => exact absurd hCase hStatus.1
      | draft =>
        rcases hScope.noDraft row hIn hCase with
          ⟨old, hMem, hTenant, hId, hRejected⟩
        exact absurd hRejected (hOld old hMem hTenant hId)
  refine ⟨?_, ?_, ?_⟩
  · intro id
    exact ⟨hExport id, hLegacy id⟩
  · intro id
    constructor
    · rintro ⟨row, hIn, rfl, hActive⟩
      rcases hScope.legacyTwin row hIn hActive with
        ⟨twin, hTwin, hId, hKept⟩
      exact hExport row.eventId ⟨twin, hTwin, hId, hKept⟩
    · intro hWanted
      rcases hLegacy id hWanted with ⟨row, hIn, rfl, hKept⟩
      rcases hScope.canonicalTwin row hIn hKept with
        ⟨twin, hTwin, hId, hActive⟩
      exact ⟨twin, hTwin, hId, hActive⟩
  · intro id
    constructor
    · rintro ⟨row, hIn, rfl, hDays⟩
      apply hExport
      refine ⟨row, hIn, rfl, ?_⟩
      intro hRejected
      rcases hScope.noneRejected row hIn hRejected with
        ⟨d, hStop, hDay⟩
      exact hDays d hStop hDay
    · intro hWanted
      rcases hLegacy id hWanted with ⟨row, hIn, rfl, hKept⟩
      exact ⟨row, hIn, rfl, hScope.noneOnEnd row hIn hKept⟩

/-
  Below their caps the readers give exactly the exportable
  events if and only if the scope is the same for them.
-/
theorem selectSame_iff
    {lower : String → String}
    {evaluations : List EvaluationRow}
    {db : Db}
    {tenantId : Uuid}
    {window : Window}
    (hKeys : PrimaryKeys db)
    (hCaps : BelowCaps lower evaluations db tenantId window) :
    SelectSame lower evaluations db tenantId window ↔
      SameScope db tenantId window := by
  by_cases hLast : Date.max ∈ window.stop
  · have hRaised :
        endBound window.stop = .error .overflowError := by
      rw [Option.mem_def.mp hLast]
      rfl
    constructor
    · intro hSame
      rcases hSame.v2 with ⟨found, hFound, -⟩
      unfold fetchV2Events at hFound
      rw [show (v2WindowOnly window).window = window from rfl,
        hRaised] at hFound
      cases hFound
    · intro hScope
      exact absurd hLast hScope.endsEarlier
  · rw [selectSame_iff_oneKind hLast hCaps]
    exact ⟨OneKind.sameScope hKeys hLast,
      SameScope.oneKind hKeys⟩

--------
-- One Harvest
--------

/- The members of a list of one row are that row. -/
theorem eq_of_length_le_one
    {rows : List α}
    (hLength : rows.length ≤ 1)
    {x y : α}
    (hX : x ∈ rows)
    (hY : y ∈ rows) :
    x = y := by
  rcases rows with _ | ⟨first, _ | ⟨second, rest⟩⟩
  · cases hX
  · rw [List.mem_singleton.mp hX, List.mem_singleton.mp hY]
  · simp at hLength

/- The store after one harvest on 1 January. -/
def harvestDb : Db :=
  Ledger.run (Runtime.ofDigests Ledger.harvestDigests) Db.empty
    Ledger.harvestRun

def harvestTenant : Uuid :=
  ⟨"00000000-0000-0000-0000-0000000000aa", isUuidText_aa⟩

/- The window up to a day of January, from its first. -/
def untilDay
    (day : Nat)
    (hDay : CalendarDate.isValid ⟨2026, 1, day⟩ = true) :
    Window :=
  ⟨some ⟨⟨2026, 1, 1⟩, by decide⟩, some ⟨⟨2026, 1, day⟩, hDay⟩⟩

/- Both tables hold the row of the harvest only. -/
theorem primaryKeys_harvestDb : PrimaryKeys harvestDb := by
  have hLegacy : harvestDb.cteEvents.length ≤ 1 := by
    decide +kernel
  have hCanonical :
      harvestDb.traceabilityEvents.length ≤ 1 := by
    decide +kernel
  constructor
  · intro row hRow other hOther _
    exact eq_of_length_le_one hLegacy hRow hOther
  · intro row hRow other hOther _
    exact eq_of_length_le_one hCanonical hRow hOther

/- The caps are checked at the bound that the window has. -/
theorem belowCaps_of_bound
    {lower : String → String}
    (hBound : endBound window.stop = .ok bound)
    (hFull :
      (db.cteEvents.filter (selectsAll tenantId window.start
        bound none)).length ≤ fullExportLimit)
    (hRecall :
      (recallRows lower db tenantId (windowOnly window)
        bound).length < recallLimit)
    (hCanonical :
      (recallRowsCanonical lower db tenantId
        (windowOnly window) bound).length < recallLimit)
    (hV2 :
      (v2Rows db evaluations tenantId (v2WindowOnly window)
        bound).length < recallLimit)
    (hEpcis :
      (Epcis.windowRows db tenantId window).length ≤
        Epcis.exportEventLimit) :
    BelowCaps lower evaluations db tenantId window := by
  have hOnly :
      ∀ other, endBound window.stop = .ok other →
        other = bound := by
    intro other hOther
    rw [hBound] at hOther
    exact (Except.ok.inj hOther).symm
  refine ⟨?_, ?_, ?_, ?_, hEpcis⟩
  · intro other hOther
    rw [hOnly other hOther]
    exact hFull
  · intro other hOther
    rw [hOnly other hOther]
    exact hRecall
  · intro other hOther
    rw [hOnly other hOther]
    exact hCanonical
  · intro other hOther
    rw [hOnly other hOther]
    exact hV2

/- The harvest is below every cap on its day and after it. -/
theorem belowCaps_harvestDb :
    BelowCaps id [] harvestDb harvestTenant
        (untilDay 1 (by decide)) ∧
      BelowCaps id [] harvestDb harvestTenant
        (untilDay 2 (by decide)) := by
  constructor
  · apply belowCaps_of_bound (endBound_of_ne_max (by decide))
    · decide +kernel
    · decide +kernel
    · decide +kernel
    · decide +kernel
    · decide +kernel
  · apply belowCaps_of_bound (endBound_of_ne_max (by decide))
    · decide +kernel
    · decide +kernel
    · decide +kernel
    · decide +kernel
    · decide +kernel

/- The readers agree on the harvest the day after. -/
theorem harvest_selectSame_iff :
    SelectSame id [] harvestDb harvestTenant
        (untilDay 2 (by decide)) ↔
      SameScope harvestDb harvestTenant
        (untilDay 2 (by decide)) :=
  selectSame_iff primaryKeys_harvestDb belowCaps_harvestDb.2

/-
  On the day of the harvest the recall reader gives it, and
  the event list does not.
-/
theorem not_selectSame_harvestDay :
    PrimaryKeys harvestDb ∧
      BelowCaps id [] harvestDb harvestTenant
        (untilDay 1 (by decide)) ∧
      ¬ SelectSame id [] harvestDb harvestTenant
        (untilDay 1 (by decide)) := by
  refine ⟨primaryKeys_harvestDb, belowCaps_harvestDb.1, ?_⟩
  intro hSame
  have hRecall :
      ((fetchRecallEvents id harvestDb harvestTenant
        (windowOnly (untilDay 1 (by decide)))).map (fun rows =>
          rows.map RecallRow.id)) =
        .ok [⟨"00000000-0000-0000-0000-000000000001",
          by decide⟩] := by
    decide +kernel
  have hList :
      ((Epcis.listEventsFromDbDetailed harvestDb harvestTenant
        (untilDay 1 (by decide)) none
        Epcis.exportEventLimit).map (fun page =>
          page.events.map (fun event => event.row.id))) =
        .ok [] := by
    decide +kernel
  rcases hSame.recallExport with ⟨found, hFound, hWanted⟩
  rcases hSame.epcisList with ⟨shown, hShown, hMem⟩
  rw [hRecall] at hFound
  rw [hList] at hShown
  cases hFound
  cases hShown
  have hNone :=
    (hMem _).mpr ((hWanted _).mp (List.mem_singleton_self _))
  cases hNone

end FdaExport

end RegEngine
