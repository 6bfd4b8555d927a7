import RegEngine.Shared.CtePersistence.Hashing
import RegEngine.Shared.Schema

/-
  Validation, alert rows and KDE texts that the single and
  the batch writer of the legacy store share
  (`shared/cte_persistence/core.py`).

  Main declarations:
    * `CtePersistence.deriveValidationStatus`
    * `CtePersistence.parseTimestamp`
    * `CtePersistence.StoreResult`
-/

--------
-- Validation Status
--------

namespace RegEngine

namespace CtePersistence

/-
  An alert or validator result: a dictionary whose keys may be
  absent or `None`, and its `str` text.
-/
structure ValidationItem where
  severity : Option (Option String)
  alertType : Option (Option String)
  message : Option (Option String)
  reason : Option (Option String)
  text : String
  deriving DecidableEq

/- `_REJECT_SEVERITIES`. -/
def rejectSeverities : List String :=
  ["reject", "error", "critical"]

/- `str(item.get("severity", ""))`. -/
def ValidationItem.severityText (item : ValidationItem) : String :=
  match item.severity with
  | none => ""
  | some none => "None"
  | some (some text) => text

/- `_is_rejecting_validation_item`. -/
def isRejectingValidationItem (item : ValidationItem) : Bool :=
  rejectSeverities.contains
      (Python.lower (Python.strip item.severityText)) ||
    item.alertType == some (some "missing_required_kde")

/- `_derive_validation_status`. -/
def deriveValidationStatus
    (alerts validatorResults : List ValidationItem) :
    ValidationStatus :=
  if (alerts ++ validatorResults).any
      isRejectingValidationItem then
    .rejected
  else if alerts.isEmpty && validatorResults.isEmpty then
    .valid
  else
    .warning

/- `item.get("reason") or item.get("message") or str(item)`. -/
def rejectionReason (item : ValidationItem) : String :=
  Python.orElse (item.reason.getD none)
    (Python.orElse (item.message.getD none) item.text)

/- The reasons of the rejecting items. -/
def rejectionReasons
    (validatorResults alerts : List ValidationItem) :
    List String :=
  ((validatorResults ++ alerts).filter
    isRejectingValidationItem).map rejectionReason

--------
-- Alert Rows
--------

/- `_VALID_ALERT_TYPES`. -/
def validAlertTypes : List String :=
  ["missing_kde", "temperature_excursion",
    "deadline_approaching", "supplier_non_compliant",
    "chain_break", "export_failure"]

/- `_normalize_alert_type`. -/
def normalizeAlertType (rawType : Option String) : String :=
  match rawType with
  | some text =>
      if validAlertTypes.contains text then text
      else "missing_kde"
  | none => "missing_kde"

/- `_alert_insert_params`. -/
def alertInsertParams
    (tenantId eventId : Uuid)
    (alert : ValidationItem) :
    ComplianceAlertRow where
  tenantId := tenantId
  orgId := tenantId
  cteEventId := eventId
  eventId := eventId
  severity := alert.severity.getD (some "warning")
  alertType :=
    normalizeAlertType (alert.alertType.getD (some "missing_kde"))
  title := alert.alertType.getD (some "Compliance Alert")
  message := alert.message.getD (some "")

--------
-- Timestamps, Event Types And KDE Texts
--------

open Python (Value Dict)

/-
  A time stamp argument: `None`, a text, a `datetime` (without
  or with an offset), or a value of another type.
-/
inductive TimestampArg where
  | none
  | text (value : String)
  | naive
  | datetime (value : Datetime)
  | other

/- `text.replace("Z", "+00:00")`. -/
def replaceZulu (text : String) : String :=
  String.ofList (text.toList.flatMap (fun c =>
    if c = 'Z' then "+00:00".toList else [c]))

/- Five minutes. -/
def futureSkewTolerance : Int :=
  300000000

/- `_parse_timestamp` before the conversion to UTC. -/
def readTimestamp
    (rt : Runtime)
    (field : String)
    (value : TimestampArg) :
    Except StoreError Datetime :=
  match value with
  | .none =>
      .error (.valueError
        (field ++ " is required and must be an ISO-8601 timestamp"))
  | .text text =>
      if Python.strip text = "" then
        .error (.valueError
          (field ++
            " is required and must be an ISO-8601 timestamp"))
      else
        match rt.fromisoformat
            (replaceZulu (Python.strip text)) with
        | none =>
            .error (.valueError
              (field ++ " is not a valid ISO-8601 timestamp"))
        | some none =>
            .error (.valueError
              (field ++ " must be timezone-aware"))
        | some (some parsed) => .ok parsed
  | .naive =>
      .error (.valueError (field ++ " must be timezone-aware"))
  | .datetime parsed => .ok parsed
  | .other =>
      .error (.valueError
        (field ++ " must be a string or datetime"))

/-
  `_parse_timestamp`: the instant in UTC, refused when it lies
  beyond the clock and its tolerance.
-/
def parseTimestamp
    (rt : Runtime)
    (now : Datetime)
    (field : String)
    (value : TimestampArg) :
    Except StoreError Datetime := do
  let parsed ← readTimestamp rt field value
  let utc ← Outcome.ofOption .overflowError parsed.utc
  if now.instant + futureSkewTolerance < utc.instant then
    .error (.valueError
      (field ++
        " is in the future beyond the allowed skew tolerance"))
  else
    .ok utc

/- `_validate_event_type`. -/
def validateEventType (value : Value) :
    Except StoreError CTEType :=
  match value with
  | .str text =>
      if text = "" then
        .error (.valueError
          "event_type is required and must be a non-empty string")
      else
        match CTEType.ofValue text with
        | none =>
            .error (.valueError
              "event_type is not a recognized FSMA 204 CTE type")
        | some eventType => .ok eventType
  | _ =>
      .error (.valueError
        "event_type is required and must be a non-empty string")

/- `_jsonify_kde`. -/
def jsonifyKde (value : Value) : String :=
  value.toJson.dumps

/- The text `str` gives to a quantity; containers have none. -/
def quantityText : Value → Option String
| .none => some "None"
| .bool true => some "True"
| .bool false => some "False"
| .int value => some (toString value)
| .float value => some value.repr
| .str value => some value
| .object value => some value.text
| .list _ => none
| .dict _ => none

--------
-- Payloads And Results
--------

/-
  The arguments of `store_event` and the dictionaries of
  `store_events_batch`. A text that the batch reads with a
  default is absent when it is `none`.
-/
structure CtePayload where
  eventType : Value
  traceabilityLotCode : String
  productDescription : Option String
  quantity : Value
  unitOfMeasure : Option String
  eventTimestamp : TimestampArg
  locationGln : Option String
  locationName : Option String
  kdes : Dict
  alerts : List ValidationItem
  epcisEventType : Option String
  epcisAction : Option String
  epcisBizStep : Option String
  sourceEventId : Option String
  eventEntryTimestamp : TimestampArg
  validatorResults : List ValidationItem
  canonicalEvent : Option TraceabilityEvent

/- `StoreResult`; its `kde_completeness` is always `1.0`. -/
structure StoreResult where
  success : Bool
  eventId : Uuid
  sha256Hash : String
  chainHash : String
  idempotent : Bool
  errors : List String
  alerts : List ValidationItem
  deriving DecidableEq

/- What an idempotent call reports of the stored row. -/
structure Stored where
  eventId : Uuid
  sha256Hash : String
  chainHash : String
  deriving DecidableEq

/- The result of an event that is stored already. -/
def Stored.result (stored : Stored) : StoreResult where
  success := true
  eventId := stored.eventId
  sha256Hash := stored.sha256Hash
  chainHash := stored.chainHash
  idempotent := true
  errors := []
  alerts := []

/- What an idempotent call reads of a row. -/
def storedOf (row : CteEventRow) : Stored :=
  ⟨row.id, row.sha256Hash, row.chainHash⟩

/-
  `_assert_not_exists`: no row of the tenant has the digest.
-/
def assertNotExists
    (db : Db)
    (tenantId : Uuid)
    (sha256Hash : String) :
    Except StoreError Unit :=
  match db.cteEvents.find? (fun row =>
      row.sha256Hash == sha256Hash &&
        row.tenantId == tenantId) with
  | some row => .error (.duplicateEvent row.id sha256Hash)
  | none => .ok ()

/-
  The event hash of a payload: that of its canonical
  projection when it carries one.
-/
def payloadHash
    (rt : Runtime)
    (tenantId eventId : Uuid)
    (payload : CtePayload)
    (eventType : CTEType)
    (quantity : String)
    (timestamp : String) :
    Except StoreError String := do
  let legacyHash ←
    computeEventHash rt.sha256Hex eventId eventType
      payload.traceabilityLotCode quantity
      (payload.unitOfMeasure.getD "") payload.locationGln
      timestamp payload.kdes
  match payload.canonicalEvent with
  | none => .ok legacyHash
  | some event =>
      computeCanonicalEventHash rt.sha256Hex eventId tenantId
        event

/- The rows written for the KDEs that are not `None`. -/
def kdeRows
    (tenantId eventId : Uuid)
    (kdes : Dict) :
    List CteKdeRow :=
  (kdes.filter (fun entry => Ftl.isSome entry.2)).map
    (fun entry =>
      { tenantId := tenantId
        cteEventId := eventId
        kdeKey := entry.1
        kdeValue := jsonifyKde entry.2
        isRequired := false })

/-
  A chain row inserted under the guard that its event row
  exists in `fsma.cte_events`.
-/
def insertGuardedChainEntry
    (db : Db)
    (row : HashChainRow) :
    Except StoreError Db :=
  if db.cteEvents.any (fun event =>
      event.id == row.cteEventId &&
        event.tenantId == row.tenantId) then
    db.insertChainEntry row
  else
    .ok db

end CtePersistence

end RegEngine
