import RegEngine.Shared.CtePersistence.Queries

/-
  The readers behind the exports for the regulator: the events
  of the full export, the recall readers on either store, and
  the reader of the canonical store with its evaluations.

  Main declarations:
    * `FdaExport.reconstructFullExportEvents`
    * `FdaExport.fetchRecallEvents`
    * `FdaExport.fetchV2Events`
-/

--------
-- The Full Export
--------

namespace RegEngine

open CtePersistence (TracedEvent queryAllEvents
  queryEventsByTlcs)

namespace FdaExport

/- The stage at which an export is too large. -/
inductive OverflowStage where
  | seedQuery
  | linkExpansion
  deriving DecidableEq

/- What the queries of an export raise. -/
inductive ExportError where
  | overflow (available limit : Nat) (stage : OverflowStage)
  | store (raised : StoreError)
  deriving DecidableEq

/- `FULL_EXPORT_LIMIT`. -/
def fullExportLimit : Nat :=
  10000

/- The events without those whose id came before. -/
def dedupEvents
    (seen : List Uuid) :
    List TracedEvent → List TracedEvent
| [] => []
| event :: rest =>
    if seen.contains event.row.id then
      dedupEvents seen rest
    else
      event :: dedupEvents (event.row.id :: seen) rest

/- `reconstruct_full_export_events`. -/
def reconstructFullExportEvents
    (db : Db)
    (tenantId : Uuid)
    (window : Window)
    (eventType : Option String)
    (limit : Nat) :
    Except ExportError (List TracedEvent × Nat) := do
  let seed ←
    (queryAllEvents db tenantId window eventType limit
      0).mapError ExportError.store
  if limit < seed.2 then
    throw (.overflow seed.2 limit .seedQuery)
  let tlcs :=
    (seed.1.map CteEventRow.traceabilityLotCode).dedup
  let full ←
    (queryEventsByTlcs db tenantId tlcs window
      (limit + 1)).mapError ExportError.store
  if limit < full.length then
    throw (.overflow full.length limit .linkExpansion)
  return (dedupEvents [] full, seed.2)

--------
-- The Recall Readers
--------

open CtePersistence (endBound fromStart beforeEnd kdesOf)

structure RecallFilters where
  product : Option String
  location : Option String
  tlc : Option String
  eventType : Option String
  window : Window

/- A filter that a text passes, when there is a filter. -/
def passes
    (filter : Option String)
    (test : String → Bool) : Bool :=
  match filter with
  | none => true
  | some "" => true
  | some text => test text

/- The text holds the part, on the lower case of both. -/
def containsLower
    (lower : String → String)
    (part : String)
    (text : Option String) : Bool :=
  text.any (fun text =>
    Query.like (lower ("%" ++ part ++ "%")).toList
      (lower text).toList)

/- The text holds the part. -/
def containsExact (part : String) (text : Option String) :
    Bool :=
  text.any (fun text =>
    Query.like ("%" ++ part ++ "%").toList text.toList)

/- The pattern of a lot filter. -/
def tlcPattern (tlc : String) : String :=
  if tlc.toList.contains '%' then tlc else "%" ++ tlc ++ "%"

/- A row of either recall reader. -/
structure RecallRow (K : Type) where
  id : Uuid
  eventType : CTEType
  traceabilityLotCode : String
  productDescription : String
  quantity : Python.Float
  unitOfMeasure : String
  eventTimestamp : Int
  locationGln : Option String
  locationName : Option String
  source : String
  sha256Hash : Option String
  chainHash : Option String
  kdes : K

/- `build_recall_where_clause`. -/
def recallWhere
    (lower : String → String)
    (tenantId : Uuid)
    (filters : RecallFilters)
    (bound : Option Int)
    (row : CteEventRow) : Bool :=
  row.tenantId == tenantId &&
    row.validationStatus != .rejected &&
    passes filters.product (fun product =>
      containsLower lower product
        (some row.productDescription)) &&
    passes filters.location (fun location =>
      containsLower lower location row.locationName ||
        containsExact location row.locationGln) &&
    passes filters.tlc (fun tlc =>
      Query.like (tlcPattern tlc).toList
        row.traceabilityLotCode.toList) &&
    passes filters.eventType (fun name =>
      row.eventType.value == name) &&
    (fromStart filters.window.start row.eventTimestamp &&
      beforeEnd bound row.eventTimestamp)

/- The chain rows that a row is joined with. -/
def chainJoin
    (tenantId : Uuid)
    (sha256Hash : Option String)
    (entry : HashChainRow) : Bool :=
  sha256Hash == some entry.eventHash &&
    entry.tenantId == tenantId

/- The row that a legacy row is read as. -/
def recallRow
    (db : Db)
    (tenantId : Uuid)
    (row : CteEventRow)
    (entry : Option HashChainRow) :
    RecallRow Python.Dict where
  id := row.id
  eventType := row.eventType
  traceabilityLotCode := row.traceabilityLotCode
  productDescription := row.productDescription
  quantity := row.quantity
  unitOfMeasure := row.unitOfMeasure
  eventTimestamp := row.eventTimestamp
  locationGln := row.locationGln
  locationName := row.locationName
  source := row.source
  sha256Hash := some row.sha256Hash
  chainHash := entry.map HashChainRow.chainHash
  kdes := kdesOf db tenantId row.id

/- The rows of `fetch_recall_events` before its cap. -/
def recallRows
    (lower : String → String)
    (db : Db)
    (tenantId : Uuid)
    (filters : RecallFilters)
    (bound : Option Int) : List (RecallRow Python.Dict) :=
  Query.orderBy RecallRow.eventTimestamp
    ((Query.leftJoin
        (fun row =>
          chainJoin tenantId (some row.sha256Hash))
        (db.cteEvents.filter
          (recallWhere lower tenantId filters bound))
        db.hashChain).map (fun joined =>
      recallRow db tenantId joined.1 joined.2))

/- The cap of the recall readers. -/
def recallLimit : Nat :=
  10001

/- `fetch_recall_events`. -/
def fetchRecallEvents
    (lower : String → String)
    (db : Db)
    (tenantId : Uuid)
    (filters : RecallFilters) :
    Except StoreError (List (RecallRow Python.Dict)) := do
  let bound ← endBound filters.window.stop
  return (recallRows lower db tenantId filters bound).take
    recallLimit

--------
-- The Recall Reader Of The Canonical Store
--------

open CtePersistence (endBound fromStart beforeEnd)

/- `COALESCE(from_facility_reference, to_facility_reference)`. -/
def facility (row : TraceabilityEventRow) : Option String :=
  row.fromFacilityReference.or row.toFacilityReference

/- `build_recall_where_clause_canonical`. -/
def recallWhereCanonical
    (lower : String → String)
    (tenantId : Uuid)
    (filters : RecallFilters)
    (bound : Option Int)
    (row : TraceabilityEventRow) : Bool :=
  row.tenantId == tenantId &&
    row.status == .active &&
    passes filters.product (fun product =>
      containsLower lower product
        (some (row.productReference.getD ""))) &&
    passes filters.location (fun location =>
      containsLower lower location (facility row) ||
        containsExact location (facility row)) &&
    passes filters.tlc (fun tlc =>
      Query.like (tlcPattern tlc).toList
        row.traceabilityLotCode.toList) &&
    passes filters.eventType (fun name =>
      row.eventType.value == name) &&
    (fromStart filters.window.start row.eventTimestamp &&
      beforeEnd bound row.eventTimestamp)

/- An entry of a JSON object that is not null. -/
def notNull (entry : String × Json) : Bool :=
  match entry.2 with
  | .scalar .null => false
  | _ => true

/- The KDEs without those that are null. -/
def strippedKdes (kdes : Json) : Json :=
  match kdes with
  | .obj entries => .obj (entries.filter notNull)
  | other => other

def recallRowCanonical
    (row : TraceabilityEventRow)
    (entry : Option HashChainRow) : RecallRow Json where
  id := row.eventId
  eventType := row.eventType
  traceabilityLotCode := row.traceabilityLotCode
  productDescription := row.productReference.getD ""
  quantity := row.quantity
  unitOfMeasure := row.unitOfMeasure
  eventTimestamp := row.eventTimestamp
  locationGln := facility row
  locationName := facility row
  source := row.sourceSystem
  sha256Hash := row.sha256Hash
  chainHash := entry.map HashChainRow.chainHash
  kdes := strippedKdes row.kdes

/- The rows of the canonical reader before its cap. -/
def recallRowsCanonical
    (lower : String → String)
    (db : Db)
    (tenantId : Uuid)
    (filters : RecallFilters)
    (bound : Option Int) : List (RecallRow Json) :=
  Query.orderBy RecallRow.eventTimestamp
    ((Query.leftJoin
        (fun row : TraceabilityEventRow =>
          chainJoin tenantId row.sha256Hash)
        (db.traceabilityEvents.filter
          (recallWhereCanonical lower tenantId filters bound))
        db.hashChain).map (fun joined =>
      recallRowCanonical joined.1 joined.2))

/- `fetch_recall_events_canonical`. -/
def fetchRecallEventsCanonical
    (lower : String → String)
    (db : Db)
    (tenantId : Uuid)
    (filters : RecallFilters) :
    Except StoreError (List (RecallRow Json)) := do
  let bound ← endBound filters.window.stop
  return (recallRowsCanonical lower db tenantId filters
    bound).take recallLimit

--------
-- The Reader With Evaluations
--------

/- A row of `fsma.rule_evaluations` with its rule's title. -/
structure EvaluationRow where
  tenantId : Uuid
  eventId : Uuid
  title : Option String
  result : String
  whyFailed : Option String
  deriving DecidableEq

/- An entry of `rule_results`. -/
structure RuleResult where
  ruleName : Option String
  result : String
  passed : Bool
  whyFailed : Option String
  deriving DecidableEq

/- The filters of the export with evaluations. -/
structure V2Filters where
  tlc : Option String
  eventType : Option String
  window : Window

structure V2Row where
  row : TraceabilityEventRow
  ruleResults : List RuleResult

/- `build_v2_where_clause`. -/
def v2Where
    (tenantId : Uuid)
    (filters : V2Filters)
    (bound : Option Int)
    (row : TraceabilityEventRow) : Bool :=
  row.tenantId == tenantId &&
    row.status == .active &&
    passes filters.tlc (fun tlc =>
      if tlc.toList.contains '%' then
        Query.like tlc.toList row.traceabilityLotCode.toList
      else
        row.traceabilityLotCode == tlc) &&
    passes filters.eventType (fun name =>
      row.eventType.value == name) &&
    (fromStart filters.window.start row.eventTimestamp &&
      beforeEnd bound row.eventTimestamp)

/- An evaluation that neither failed nor broke off passed. -/
def ruleResult (row : EvaluationRow) : RuleResult where
  ruleName := row.title
  result := row.result
  passed := row.result != "fail" && row.result != "error"
  whyFailed := row.whyFailed

/- The rows of `fetch_v2_events` before its cap. -/
def v2Rows
    (db : Db)
    (evaluations : List EvaluationRow)
    (tenantId : Uuid)
    (filters : V2Filters)
    (bound : Option Int) : List V2Row :=
  (Query.orderBy TraceabilityEventRow.eventTimestamp
    (db.traceabilityEvents.filter
      (v2Where tenantId filters bound))).map (fun row =>
        { row := row
          ruleResults :=
            (evaluations.filter (fun found =>
              found.eventId == row.eventId &&
                found.tenantId == tenantId)).map
                  ruleResult })

/- `fetch_v2_events`. -/
def fetchV2Events
    (db : Db)
    (evaluations : List EvaluationRow)
    (tenantId : Uuid)
    (filters : V2Filters) :
    Except StoreError (List V2Row) := do
  let bound ← endBound filters.window.stop
  return (v2Rows db evaluations tenantId filters bound).take
    recallLimit

end FdaExport

end RegEngine
