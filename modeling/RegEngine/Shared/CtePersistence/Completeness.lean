import RegEngine.Library.Worklist
import RegEngine.Shared.CtePersistence.Queries

/-
  What the query for a lot returns of the events of all the
  lots that transformations link to it.

  Main declarations:
    * `CtePersistence.TlcExpansion`
    * `CtePersistence.Complete`
    * `CtePersistence.queryEventsByTlc_complete_iff`
    * `CtePersistence.not_queryEventsByTlc_complete`
-/

--------
-- The Expansion Of A Lot
--------

namespace RegEngine

namespace CtePersistence

def tenantLinks (db : Db) (tenantId : Uuid) :
    List TransformationLinkRow :=
  db.transformationLinks.filter (fun link =>
    link.tenantId == tenantId)

/- `TlcExpansion`, for both directions. -/
structure TlcExpansion where
  tlcs : List String
  depthExhausted : Bool
  maxDepth : Nat
  deriving DecidableEq

/- `at_limit`: a walk finds some lot only at its last step. -/
def atLimit
    (links : List TransformationLinkRow)
    (direction : Direction)
    (seed : String) : Nat → Bool
| 0 => true
| depth + 1 =>
    (walk links direction (depth + 1) [seed]).any (fun tlc =>
      !(walk links direction depth [seed]).contains tlc)

/- `_expand_tlcs_detailed`, in both directions. -/
def expandTlcsDetailed
    (db : Db)
    (tenantId : Uuid)
    (seed : String)
    (depth : Nat) : TlcExpansion where
  tlcs := expandTlcs db tenantId [seed] depth
  depthExhausted :=
    atLimit (tenantLinks db tenantId) .forward seed depth ||
      atLimit (tenantLinks db tenantId) .backward seed depth
  maxDepth := depth

/-
  `_expand_tlcs_via_transformation_links`: the lots, without
  the flag.
-/
def expandTlcsViaTransformationLinks
    (db : Db)
    (tenantId : Uuid)
    (seed : String)
    (depth : Nat) : List String :=
  (expandTlcsDetailed db tenantId seed depth).tlcs

/- A transformation links two lots, seen in a direction. -/
def Linked
    (links : List TransformationLinkRow)
    (direction : Direction)
    (x y : String) : Prop :=
  ∃ link ∈ links,
    match direction with
    | .forward => link.inputTlc = x ∧ link.outputTlc = y
    | .backward => link.outputTlc = x ∧ link.inputTlc = y

/- A lot of the forward or of the backward closure. -/
def InClosure
    (db : Db)
    (tenantId : Uuid)
    (seed tlc : String) : Prop :=
  ∃ direction,
    Relation.ReflTransGen
      (Linked (tenantLinks db tenantId) direction) seed tlc

/- A lot that so many links lead to, in one direction. -/
def WithinDepth
    (db : Db)
    (tenantId : Uuid)
    (depth : Nat)
    (seed tlc : String) : Prop :=
  ∃ direction,
    Reachability.Within
      (Linked (tenantLinks db tenantId) direction) depth seed tlc

variable {direction : Direction}
variable {links : List TransformationLinkRow}
variable {tlcs : List String} {db : Db} {tenantId : Uuid}

/- The lots one step away. -/
theorem mem_stepTlcs
    {tlc : String} :
    tlc ∈ stepTlcs links direction tlcs ↔
      ∃ x ∈ tlcs, Linked links direction x tlc := by
  cases direction with
  | forward =>
    simp only [stepTlcs, List.mem_map, List.mem_filter,
      List.contains_iff_mem, Linked]
    constructor
    · rintro ⟨link, ⟨hLink, hInput⟩, hOutput⟩
      exact ⟨link.inputTlc, hInput, link, hLink, rfl, hOutput⟩
    · rintro ⟨x, hMem, link, hLink, hInput, hOutput⟩
      rw [← hInput] at hMem
      exact ⟨link, ⟨hLink, hMem⟩, hOutput⟩
  | backward =>
    simp only [stepTlcs, List.mem_map, List.mem_filter,
      List.contains_iff_mem, Linked]
    constructor
    · rintro ⟨link, ⟨hLink, hOutput⟩, hInput⟩
      exact ⟨link.outputTlc, hOutput, link, hLink, rfl, hInput⟩
    · rintro ⟨x, hMem, link, hLink, hOutput, hInput⟩
      rw [← hOutput] at hMem
      exact ⟨link, ⟨hLink, hMem⟩, hInput⟩

/- The lots of a walk are those within its depth. -/
theorem mem_walk_iff
    {depth : Nat}
    {tlc : String} :
    tlc ∈ walk links direction depth tlcs ↔
      ∃ x ∈ tlcs,
        Reachability.Within (Linked links direction) depth x
          tlc := by
  induction depth generalizing tlcs with
  | zero =>
    constructor
    · intro hMem
      exact ⟨tlc, hMem, rfl⟩
    · rintro ⟨x, hMem, hSame⟩
      rw [← show x = tlc from hSame]
      exact hMem
  | succ depth ih =>
    rw [walk, List.mem_append, ih]
    constructor
    · rintro (hMem | ⟨y, hStep, hRest⟩)
      · exact ⟨tlc, hMem, Or.inl rfl⟩
      · rcases mem_stepTlcs.mp hStep with ⟨x, hMem, hLinked⟩
        exact ⟨x, hMem, Or.inr ⟨y, hLinked, hRest⟩⟩
    · rintro ⟨x, hMem, rfl | ⟨y, hLinked, hRest⟩⟩
      · exact Or.inl hMem
      · exact Or.inr
          ⟨y, mem_stepTlcs.mpr ⟨x, hMem, hLinked⟩, hRest⟩

/- The lots of the expansion are those within its depth. -/
theorem mem_expandTlcs_iff
    {seed tlc : String}
    {depth : Nat} :
    tlc ∈ expandTlcs db tenantId [seed] depth ↔
      WithinDepth db tenantId depth seed tlc := by
  have hWalk : ∀ direction,
      tlc ∈ walk (tenantLinks db tenantId) direction depth
          [seed] ↔
        Reachability.Within
          (Linked (tenantLinks db tenantId) direction) depth
          seed tlc := by
    intro direction
    rw [mem_walk_iff]
    simp
  unfold expandTlcs
  rw [List.mem_dedup, List.mem_append]
  change tlc ∈ walk (tenantLinks db tenantId) _ _ _ ∨
    tlc ∈ walk (tenantLinks db tenantId) _ _ _ ↔ _
  rw [hWalk, hWalk]
  constructor
  · rintro (hForward | hBackward)
    · exact ⟨.forward, hForward⟩
    · exact ⟨.backward, hBackward⟩
  · rintro ⟨direction, hWithin⟩
    cases direction with
    | forward => exact Or.inl hWithin
    | backward => exact Or.inr hWithin

--------
-- The Events Of The Closure
--------

/- `query_events_by_tlc`, with the `max_depth` of the caller. -/
def queryEventsByTlcToDepth
    (db : Db)
    (tenantId : Uuid)
    (tlc : String)
    (window : Window)
    (maxDepth : Option Nat) :
    Except StoreError (List TracedEvent) := do
  let bound ← endBound window.stop
  return (rowsOfTlcs db tenantId
    (expandTlcsViaTransformationLinks db tenantId tlc
      (maxDepth.getD defaultTraversalDepth))
    window.start bound).map (traced db tenantId [tlc])

/- An event of the tenant in the window, not rejected. -/
def Reportable
    (db : Db)
    (tenantId : Uuid)
    (window : Window)
    (row : CteEventRow) : Prop :=
  row ∈ db.cteEvents ∧
    row.tenantId = tenantId ∧
    row.validationStatus ≠ .rejected ∧
    window.Covers row.eventTimestamp

/- The result holds every event of the closure of the lot. -/
def Complete
    (db : Db)
    (tenantId : Uuid)
    (tlc : String)
    (window : Window)
    (events : List TracedEvent) : Prop :=
  ∀ row,
    Reportable db tenantId window row →
    InClosure db tenantId tlc row.traceabilityLotCode →
      ∃ event ∈ events, event.row = row

/- Every lot of the closure that has an event is near. -/
def ClosureWithin
    (db : Db)
    (tenantId : Uuid)
    (tlc : String)
    (window : Window)
    (depth : Nat) : Prop :=
  ∀ row,
    Reportable db tenantId window row →
    InClosure db tenantId tlc row.traceabilityLotCode →
      WithinDepth db tenantId depth tlc row.traceabilityLotCode

/- The rows of the result are those of the near lots. -/
theorem exists_mem_queryEventsByTlcToDepth
    {tlc : String}
    {window : Window}
    {maxDepth : Option Nat}
    {events : List TracedEvent}
    (hQuery :
      queryEventsByTlcToDepth db tenantId tlc window maxDepth =
        .ok events)
    {row : CteEventRow} :
    (∃ event ∈ events, event.row = row) ↔
      Reportable db tenantId window row ∧
        WithinDepth db tenantId
          (maxDepth.getD defaultTraversalDepth) tlc
          row.traceabilityLotCode := by
  rcases Outcome.bind_eq_ok.mp hQuery with ⟨bound, hBound, hRest⟩
  rw [← Outcome.pure_eq_ok.mp hRest]
  have hRows : ∀ row',
      row' ∈ rowsOfTlcs db tenantId
          (expandTlcsViaTransformationLinks db tenantId tlc
            (maxDepth.getD defaultTraversalDepth))
          window.start bound ↔
        Reportable db tenantId window row' ∧
          WithinDepth db tenantId
            (maxDepth.getD defaultTraversalDepth) tlc
            row'.traceabilityLotCode := by
    intro row'
    rw [rowsOfTlcs, Query.mem_orderBy, List.mem_filter,
      selectsTlc_iff hBound]
    change _ ∧ _ ∧ _ ∈ expandTlcs _ _ _ _ ∧ _ ∧ _ ↔ _
    rw [mem_expandTlcs_iff]
    constructor
    · rintro ⟨hMem, hTenant, hWithin, hKept, hCovers⟩
      exact ⟨⟨hMem, hTenant, hKept, hCovers⟩, hWithin⟩
    · rintro ⟨⟨hMem, hTenant, hKept, hCovers⟩, hWithin⟩
      exact ⟨hMem, hTenant, hWithin, hKept, hCovers⟩
  rw [← hRows]
  constructor
  · rintro ⟨event, hMem, hRow⟩
    rcases List.mem_map.mp hMem with ⟨row', hRow', hTraced⟩
    rw [← hTraced] at hRow
    rw [← show row' = row from hRow]
    exact hRow'
  · intro hMem
    exact ⟨traced db tenantId [tlc] row,
      List.mem_map_of_mem hMem, rfl⟩

/-
  The result is complete exactly when the walk reaches every
  lot of the closure that has an event to report.
-/
theorem queryEventsByTlc_complete_iff
    {db : Db}
    {tenantId : Uuid}
    {tlc : String}
    {window : Window}
    {maxDepth : Option Nat}
    {events : List TracedEvent}
    (hQuery :
      queryEventsByTlcToDepth db tenantId tlc window maxDepth =
        .ok events) :
    Complete db tenantId tlc window events ↔
      ClosureWithin db tenantId tlc window
        (maxDepth.getD defaultTraversalDepth) := by
  constructor
  · intro hComplete row hReport hClosure
    have hFound := hComplete row hReport hClosure
    exact ((exists_mem_queryEventsByTlcToDepth hQuery).mp
      hFound).2
  · intro hWithin row hReport hClosure
    exact (exists_mem_queryEventsByTlcToDepth hQuery).mpr
      ⟨hReport, hWithin row hReport hClosure⟩

def chainTenant : Uuid :=
  ⟨"00000000-0000-0000-0000-0000000000aa", isUuidText_aa⟩

/- A shipping event of a lot. -/
def shippedRow (id : Uuid) (tlc : String) : CteEventRow where
  id := id
  tenantId := chainTenant
  eventType := .shipping
  traceabilityLotCode := tlc
  productDescription := "Salsa"
  quantity := ⟨"1.0", Python.isFloatRepr_one⟩
  unitOfMeasure := "cases"
  locationGln := none
  locationName := none
  eventTimestamp := 0
  eventEntryTimestamp := none
  source := "api"
  sourceEventId := none
  idempotencyKey := none
  sha256Hash := ""
  chainHash := ""
  epcisEventType := none
  epcisAction := none
  epcisBizStep := none
  validationStatus := .valid

/- The event of the first lot of the chain. -/
def firstRow : CteEventRow :=
  shippedRow
    ⟨"00000000-0000-0000-0000-000000000001", isUuidText_one⟩ "L0"

/- The event of the last lot of the chain. -/
def lastRow : CteEventRow :=
  shippedRow
    ⟨"00000000-0000-0000-0000-000000000002", isUuidText_two⟩ "L6"

/- A transformation of one lot into another. -/
def chainLink (input output : String) :
    TransformationLinkRow where
  tenantId := chainTenant
  transformationEventId :=
    ⟨"00000000-0000-0000-0000-000000000003", isUuidText_three⟩
  inputTlc := input
  inputEventId := none
  inputQuantity := none
  inputUnit := none
  outputTlc := output
  outputEventId :=
    ⟨"00000000-0000-0000-0000-000000000003", isUuidText_three⟩
  outputQuantity := ⟨"1.0", Python.isFloatRepr_one⟩
  outputUnit := "cases"
  processType := none
  confidenceScore := "1.0"
  linkSource := "explicit"

/- Six transformations in a row, with the events given. -/
def chainDb (events : List CteEventRow) : Db :=
  { Db.empty with
    cteEvents := events
    transformationLinks := [
      chainLink "L0" "L1", chainLink "L1" "L2",
      chainLink "L2" "L3", chainLink "L3" "L4",
      chainLink "L4" "L5", chainLink "L5" "L6"] }

/- The events of the first lot are found from that lot. -/
theorem queryEventsByTlc_complete_chain :
    ∃ events,
      queryEventsByTlcToDepth (chainDb [firstRow]) chainTenant
          "L0" ⟨none, none⟩ none =
        .ok events ∧
      (Complete (chainDb [firstRow]) chainTenant "L0"
          ⟨none, none⟩ events ↔
        ClosureWithin (chainDb [firstRow]) chainTenant "L0"
          ⟨none, none⟩ ((none : Option Nat).getD
            defaultTraversalDepth)) :=
  ⟨_, rfl, queryEventsByTlc_complete_iff rfl⟩

/- The last lot of the chain is in the closure of the first. -/
theorem inClosure_chainDb (events : List CteEventRow) :
    InClosure (chainDb events) chainTenant "L0" "L6" := by
  have hLink :
      ∀ {x y}, chainLink x y ∈ (chainDb []).transformationLinks →
        Linked (tenantLinks (chainDb events) chainTenant)
          .forward x y := by
    intro x y hMem
    refine ⟨chainLink x y, ?_, rfl, rfl⟩
    exact List.mem_filter.mpr ⟨hMem, beq_self_eq_true _⟩
  have hFirst : Relation.ReflTransGen
      (Linked (tenantLinks (chainDb events) chainTenant)
        .forward) "L0" "L3" :=
    ((Relation.ReflTransGen.single (hLink (by simp [chainDb]))
      ).tail (b := "L1") (hLink (by simp [chainDb]))
      ).tail (b := "L2") (hLink (by simp [chainDb]))
  have hRest : Relation.ReflTransGen
      (Linked (tenantLinks (chainDb events) chainTenant)
        .forward) "L3" "L6" :=
    ((Relation.ReflTransGen.single (hLink (by simp [chainDb]))
      ).tail (b := "L4") (hLink (by simp [chainDb]))
      ).tail (b := "L5") (hLink (by simp [chainDb]))
  exact ⟨.forward, hFirst.trans hRest⟩

/- The walk of five steps finds the first event only. -/
theorem queryEventsByTlc_chainDb
    {events : List CteEventRow}
    (hRows :
      rowsOfTlcs (chainDb events) chainTenant
          (expandTlcs (chainDb events) chainTenant ["L0"]
            defaultTraversalDepth) none none =
        [firstRow]) :
    queryEventsByTlc (chainDb events) chainTenant "L0"
        ⟨none, none⟩ =
      .ok [traced (chainDb [firstRow]) chainTenant ["L0"]
        firstRow] := by
  change Except.ok ((rowsOfTlcs _ _ _ none none).map _) = _
  rw [hRows]
  rfl

/-
  With six links in a row the last lot is missed, and the
  result is the one of a store where nothing is missed.
-/
theorem not_queryEventsByTlc_complete :
    ∃ events,
      queryEventsByTlc (chainDb [firstRow]) chainTenant "L0"
          ⟨none, none⟩ =
        .ok events ∧
      Complete (chainDb [firstRow]) chainTenant "L0"
        ⟨none, none⟩ events ∧
      queryEventsByTlc (chainDb [firstRow, lastRow]) chainTenant
          "L0" ⟨none, none⟩ =
        .ok events ∧
      ¬ Complete (chainDb [firstRow, lastRow]) chainTenant "L0"
        ⟨none, none⟩ events := by
  refine ⟨_, queryEventsByTlc_chainDb (by decide), ?_,
    queryEventsByTlc_chainDb (by decide), ?_⟩
  · intro row hReport _
    refine ⟨_, List.mem_singleton_self _, ?_⟩
    exact (List.mem_singleton.mp hReport.1).symm
  · intro hComplete
    have hReport :
        Reportable (chainDb [firstRow, lastRow]) chainTenant
          ⟨none, none⟩ lastRow := by
      refine ⟨by simp [chainDb], rfl, by decide, ?_⟩
      simp [Window.Covers]
    rcases hComplete lastRow hReport (inClosure_chainDb _) with
      ⟨event, hMem, hRow⟩
    rw [List.mem_singleton.mp hMem] at hRow
    exact absurd hRow (by decide)

end CtePersistence

end RegEngine
