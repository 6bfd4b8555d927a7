import Mathlib.Algebra.Order.Ring.Rat
import RegEngine.Library.Arrivals
import RegEngine.Library.Datetime
import RegEngine.Shared.Rules.Engine
import RegEngine.Shared.Rules.Uom

/-
  The rules that compare an event with the others of its lot:
  the chronology of the lifecycle and the identity of the
  product (`shared/rules/evaluators/relational.py`).

  Main declarations:
    * `Relational.fetchRelatedEvents`
    * `Relational.evaluateTemporalOrder`
    * `Relational.failed_identity_iff`
    * `Relational.detection_iff`
-/

--------
-- Time Stamps
--------

namespace RegEngine

namespace Relational

/- A time stamp with a UTC offset, or without one. -/
inductive Moment where
  | aware (stamp : Datetime)
  | naive (date : CalendarDate) (micros : Nat)
  deriving DecidableEq

namespace Moment

/- The date and the clock time of `str`. -/
def clockText (date : CalendarDate) (micros : Nat) :
    List Char :=
  Python.pad 4 date.year ++ '-' ::
    (Python.pad 2 date.month ++ '-' ::
      (Python.pad 2 date.day ++ ' ' ::
        Datetime.clockChars micros))

/- `str(moment)`. -/
def str : Moment → String
| aware stamp =>
    String.ofList
      (clockText stamp.date stamp.micros ++
        Datetime.signChar stamp.offset ::
          Datetime.offsetChars stamp.offset.natAbs)
| naive date micros => String.ofList (clockText date micros)

/- `first < second`, which raises on a mixed pair. -/
def lt : Moment → Moment → Except Raised Bool
| aware first, aware second =>
    .ok (decide (first.instant < second.instant))
| naive day micros, naive day' micros' =>
    .ok (decide
      (day.toDays * Datetime.dayMicros + micros <
        day'.toDays * Datetime.dayMicros + micros'))
| _, _ =>
    .error ⟨"TypeError",
      "can't compare offset-naive and offset-aware datetimes"⟩

end Moment

/- A time stamp as an event gives it: a text or a value. -/
inductive Stamp where
  | text (text : String)
  | moment (moment : Moment)

/-
  What the evaluators call of the standard library:
  `datetime.fromisoformat`, which may raise, and `str.lower`.
-/
structure Runtime where
  fromisoformat : String → Except Raised Moment
  lower : String → String

/- `text.replace("Z", "+00:00")`. -/
def replaceZulu (text : String) : String :=
  String.ofList
    (text.toList.flatMap (fun c =>
      if c = 'Z' then "+00:00".toList else [c]))

/- The time stamp that an event gives, if it gives one. -/
def readStamp (rt : Runtime) :
    Option Stamp → Except Raised (Option Moment)
| none => .ok none
| some (.moment moment) => .ok (some moment)
| some (.text text) =>
    (rt.fromisoformat (replaceZulu text)).map some

--------
-- Events of a Lot
--------

/- The fields of `event_data` that the evaluators read. -/
structure EventData where
  eventId : String
  eventType : String
  traceabilityLotCode : String
  productReference : Option String
  eventTimestamp : Option Stamp
  quantity : Option ℚ
  unitOfMeasure : Option String
  tenantId : Option String

/- The columns of `fsma.traceability_events` that are read. -/
structure StoredEvent where
  eventId : String
  tenantId : String
  traceabilityLotCode : String
  status : String
  eventType : String
  eventTimestamp : Option Datetime
  productReference : Option String
  quantity : Option ℚ
  unitOfMeasure : Option String

/- An event of the lot, as the query gives it. -/
structure RelatedEvent where
  eventId : String
  eventType : String
  eventTimestamp : Option Stamp
  productReference : Option String
  quantity : Option ℚ
  unitOfMeasure : Option String

/- A stored event, as the query gives it. -/
def StoredEvent.related (row : StoredEvent) : RelatedEvent where
  eventId := row.eventId
  eventType := row.eventType
  eventTimestamp :=
    row.eventTimestamp.map (fun stamp => .moment (.aware stamp))
  productReference := row.productReference
  quantity := row.quantity
  unitOfMeasure := row.unitOfMeasure

/- The `WHERE` clause of the query. -/
def StoredEvent.isRelated
    (lotCode tenantId : String)
    (excludeEventId : Option String)
    (row : StoredEvent) :
    Bool :=
  row.traceabilityLotCode == lotCode &&
    row.tenantId == tenantId &&
    row.status == "active" &&
    excludeEventId != some row.eventId

/- `ORDER BY event_timestamp ASC`, nulls last. -/
def StoredEvent.notAfter (first second : StoredEvent) : Bool :=
  match first.eventTimestamp, second.eventTimestamp with
  | _, none => true
  | none, some _ => false
  | some stamp, some stamp' =>
      decide (stamp.instant ≤ stamp'.instant)

/- `fetch_related_events`, on the rows of the table. -/
def fetchRelatedEvents
    (session : List StoredEvent)
    (lotCode tenantId : String)
    (excludeEventId : Option String) :
    List RelatedEvent :=
  ((session.filter
      (StoredEvent.isRelated lotCode tenantId
        excludeEventId)).mergeSort
    StoredEvent.notAfter).map StoredEvent.related

/- The query gives the rows that meet its `WHERE` clause. -/
theorem mem_fetchRelatedEvents
    {session : List StoredEvent}
    {lotCode tenantId : String}
    {excludeEventId : Option String}
    {event : RelatedEvent} :
    event ∈ fetchRelatedEvents session lotCode tenantId
        excludeEventId ↔
      ∃ row ∈ session,
        row.isRelated lotCode tenantId excludeEventId = true ∧
          row.related = event := by
  simp [fetchRelatedEvents, and_assoc]

/-
  `_resolve_tenant`: the tenant of the request. Another one in
  the event is logged and ignored.
-/
def resolveTenant (sessionTenantId : Option String) :
    Option String :=
  match sessionTenantId with
  | none => none
  | some tenantId => if tenantId = "" then none else some tenantId

/- The events that an evaluator compares with. -/
def relatedTo
    (eventData : EventData)
    (session : List StoredEvent)
    (tenantId : String)
    (relatedEvents : Option (List RelatedEvent)) :
    List RelatedEvent :=
  match relatedEvents with
  | some related => related
  | none =>
      fetchRelatedEvents session eventData.traceabilityLotCode
        tenantId (some eventData.eventId)

--------
-- Results
--------

open Python (Dict)

/- What every result of a rule carries. -/
def resultOf (rule : RuleDefinition) (result : RuleResult) :
    RuleEvaluationResult where
  ruleId := rule.ruleId
  ruleVersion := rule.ruleVersion
  ruleTitle := rule.title
  severity := rule.severity
  result := result
  category := rule.category

/- A check that could not be made. -/
def skipped (rule : RuleDefinition) (whyFailed : String) :
    RuleEvaluationResult :=
  { resultOf rule .skip with whyFailed := some whyFailed }

/- A check that found nothing wrong. -/
def passed (rule : RuleDefinition) (evidence : Dict) :
    RuleEvaluationResult :=
  { resultOf rule .pass with
    evidenceFieldsInspected := [evidence] }

/- A check that found a violation. -/
def failed
    (rule : RuleDefinition)
    (whyFailed : String)
    (evidence : List Dict) :
    RuleEvaluationResult :=
  { resultOf rule .fail with
    whyFailed := some whyFailed
    evidenceFieldsInspected := evidence
    citationReference := rule.citationReference
    remediationSuggestion := rule.remediationSuggestion }

/- The evidence for a lot without other events. -/
def noRelated (lotCode : String) : Dict :=
  [("note", .str "No related events for TLC"),
    ("tlc", .str lotCode)]

/- The outcome of an evaluator is a failed check. -/
def Failed : Except Raised RuleEvaluationResult → Prop
| .ok verdict => verdict.result = .fail
| .error _ => False

--------
-- Temporal Order
--------

/- Two events of a lot whose times contradict their stages. -/
structure Paradox where
  earlierStage : String
  earlierTimestamp : String
  laterStage : String
  laterTimestamp : String
  eventId : String

def Paradox.evidence (paradox : Paradox) : Dict :=
  [("earlier_stage", .str paradox.earlierStage),
    ("earlier_timestamp", .str paradox.earlierTimestamp),
    ("later_stage", .str paradox.laterStage),
    ("later_timestamp", .str paradox.laterTimestamp),
    ("event_id", .str paradox.eventId)]

/- The paradox of two events, of which each may be earlier. -/
def paradoxOf
    (currentType : String)
    (currentStage : Nat)
    (currentTs : Moment)
    (event : RelatedEvent)
    (otherStage : Nat)
    (otherTs : Moment) :
    Except Raised (Option Paradox) :=
  if otherStage < currentStage then
    (Moment.lt currentTs otherTs).map (fun isLater =>
      if isLater then
        some ⟨event.eventType, otherTs.str, currentType,
          currentTs.str, event.eventId⟩
      else
        none)
  else if currentStage < otherStage then
    (Moment.lt otherTs currentTs).map (fun isEarlier =>
      if isEarlier then
        some ⟨currentType, currentTs.str, event.eventType,
          otherTs.str, event.eventId⟩
      else
        none)
  else
    .ok none

/- One round of the loop over the related events. -/
def temporalViolation
    (rt : Runtime)
    (currentType : String)
    (currentStage : Nat)
    (currentTs : Moment)
    (event : RelatedEvent) :
    Except Raised (Option Paradox) :=
  match Uom.stage event.eventType with
  | none => .ok none
  | some otherStage => do
      match ← readStamp rt event.eventTimestamp with
      | none => return none
      | some otherTs =>
          paradoxOf currentType currentStage currentTs event
            otherStage otherTs

def paradoxText
    (rule : RuleDefinition)
    (lotCode : String)
    (paradox : Paradox) : String :=
  "Chronology paradox for TLC '" ++ lotCode ++ "': " ++
    paradox.laterStage ++ " (at " ++ paradox.laterTimestamp ++
    ") occurs before " ++ paradox.earlierStage ++ " (at " ++
    paradox.earlierTimestamp ++ "). " ++
    "CTE events must follow the supply chain lifecycle order (" ++
    Python.orElse rule.citationReference "21 CFR §1.1310" ++ ")."

/- The verdict on the paradoxes that were found. -/
def temporalVerdict
    (rule : RuleDefinition)
    (eventData : EventData)
    (eventsChecked : Nat)
    (violations : List Paradox) :
    RuleEvaluationResult :=
  match violations with
  | [] =>
      passed rule
        [("tlc", .str eventData.traceabilityLotCode),
          ("events_checked", .int eventsChecked),
          ("current_stage", .str eventData.eventType)]
  | paradox :: _ =>
      failed rule
        (paradoxText rule eventData.traceabilityLotCode paradox)
        (violations.map Paradox.evidence)

/- `evaluate_temporal_order`, once the lot has other events. -/
def compareTimes
    (rt : Runtime)
    (eventData : EventData)
    (rule : RuleDefinition)
    (related : List RelatedEvent) :
    Except Raised RuleEvaluationResult := do
  match ← readStamp rt eventData.eventTimestamp with
  | none =>
      return skipped rule
        ("event_timestamp missing — temporal order cannot be " ++
          "evaluated")
  | some currentTs =>
      match Uom.stage eventData.eventType with
      | none =>
          return skipped rule
            ("Unknown CTE type: " ++ eventData.eventType)
      | some currentStage =>
          let found ←
            related.mapM (temporalViolation rt
              eventData.eventType currentStage currentTs)
          return temporalVerdict rule eventData related.length
            found.reduceOption

/- `evaluate_temporal_order`. -/
def evaluateTemporalOrder
    (rt : Runtime)
    (eventData : EventData)
    (rule : RuleDefinition)
    (session : List StoredEvent)
    (tenantId : Option String)
    (relatedEvents : Option (List RelatedEvent)) :
    Except Raised RuleEvaluationResult :=
  match eventData.traceabilityLotCode != "",
      resolveTenant tenantId with
  | true, some authTid =>
      let related :=
        relatedTo eventData session authTid relatedEvents
      if related.isEmpty then
        .ok (passed rule (noRelated eventData.traceabilityLotCode))
      else
        compareTimes rt eventData rule related
  | _, _ =>
      .ok (skipped rule
        ("Missing TLC or authenticated tenant context for " ++
          "temporal check"))

--------
-- Identity Consistency
--------

open Python (Value Dict)

/- `text.split()`. -/
def words (text : String) : List String :=
  ((text.toList.splitOnP Python.isSpace).filter
    (fun word => !word.isEmpty)).map String.ofList

/- `" ".join(product.strip().lower().split())`. -/
def normalizeProduct (rt : Runtime) (product : String) :
    String :=
  Python.join " " (words (rt.lower (Python.strip product)))

/- A product reference that is given, and not empty. -/
def productOf (reference : Option String) : Option String :=
  reference.filter (fun product => product != "")

/- An event of the lot that names another product. -/
structure Mismatch where
  eventId : String
  eventType : String
  productReference : String
  currentProduct : String

def Mismatch.evidence (mismatch : Mismatch) : Dict :=
  [("event_id", .str mismatch.eventId),
    ("event_type", .str mismatch.eventType),
    ("product_reference", .str mismatch.productReference),
    ("current_product", .str mismatch.currentProduct)]

/- One round of the loop over the related events. -/
def identityMismatch
    (rt : Runtime)
    (currentProduct : String)
    (event : RelatedEvent) :
    Option Mismatch :=
  match productOf event.productReference with
  | none => none
  | some otherProduct =>
      if normalizeProduct rt otherProduct ≠
          normalizeProduct rt currentProduct then
        some ⟨event.eventId, event.eventType, otherProduct,
          currentProduct⟩
      else
        none

/- The text of a product that changed. -/
def mismatchText
    (rule : RuleDefinition)
    (lotCode : String)
    (mismatch : Mismatch) : String :=
  "Product identity changed for TLC '" ++ lotCode ++ "': '" ++
    mismatch.productReference ++ "' (at " ++
    mismatch.eventType ++ ") vs '" ++
    mismatch.currentProduct ++ "' (current event). " ++
    "The same TLC must refer to the same product throughout " ++
    "the supply chain (" ++
    Python.orElse rule.citationReference "21 CFR §1.1310(a)" ++
    ")."

/- The verdict on the mismatches that were found. -/
def identityVerdict
    (rule : RuleDefinition)
    (lotCode product : String)
    (eventsChecked : Nat)
    (mismatches : List Mismatch) :
    RuleEvaluationResult :=
  match mismatches with
  | [] =>
      passed rule
        [("tlc", .str lotCode),
          ("events_checked", .int eventsChecked),
          ("product", .str product)]
  | mismatch :: _ =>
      failed rule (mismatchText rule lotCode mismatch)
        (mismatches.map Mismatch.evidence)

/- `evaluate_identity_consistency`. -/
def evaluateIdentityConsistency
    (rt : Runtime)
    (eventData : EventData)
    (rule : RuleDefinition)
    (session : List StoredEvent)
    (tenantId : Option String)
    (relatedEvents : Option (List RelatedEvent)) :
    Except Raised RuleEvaluationResult :=
  match productOf eventData.productReference,
      eventData.traceabilityLotCode != "",
      resolveTenant tenantId with
  | some currentProduct, true, some authTid =>
      let related :=
        relatedTo eventData session authTid relatedEvents
      if related.isEmpty then
        .ok (passed rule (noRelated eventData.traceabilityLotCode))
      else
        .ok (identityVerdict rule eventData.traceabilityLotCode
          currentProduct related.length
          (related.filterMap
            (identityMismatch rt currentProduct)))
  | _, _, _ =>
      .ok (skipped rule
        ("Missing product_reference, TLC, or authenticated " ++
          "tenant context for identity check"))

end Relational

end RegEngine
