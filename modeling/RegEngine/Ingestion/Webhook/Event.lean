import RegEngine.Shared.CtePersistence.Core

/-
  The events that the webhook takes, the checks and alerts of
  its router, and their canonical form (`webhook_models.py`,
  `webhook_router_v2/validation.py` and `security.py`, and
  `normalize_webhook_event` of `shared/canonical_event.py`).

  Main declarations:
    * `Webhook.IngestEvent`
    * `Webhook.generateAlerts`
    * `Webhook.batchDict`
-/

--------
-- Events
--------

namespace RegEngine

open Python (Value Dict)

namespace Webhook

/- `WebhookCTEType`, which has one type more than the rule. -/
inductive WebhookCTEType where
  | growing
  | harvesting
  | cooling
  | initialPacking
  | firstLandBasedReceiving
  | shipping
  | receiving
  | transformation
  deriving DecidableEq

def WebhookCTEType.value : WebhookCTEType → String
| .growing => "growing"
| .harvesting => "harvesting"
| .cooling => "cooling"
| .initialPacking => "initial_packing"
| .firstLandBasedReceiving => "first_land_based_receiving"
| .shipping => "shipping"
| .receiving => "receiving"
| .transformation => "transformation"

/-
  `IngestEvent`. Lot codes have three characters or more and
  quantities are above zero, as the model's field constraints
  say.
-/
structure IngestEvent where
  cteType : WebhookCTEType
  traceabilityLotCode : String
  productDescription : String
  quantity : Python.Float
  unitOfMeasure : String
  locationGln : Option String
  locationName : Option String
  timestamp : String
  kdes : Dict
  inputTraceabilityLotCodes : Option (List String)
  lotCode_length : 3 ≤ traceabilityLotCode.toList.length
  quantity_pos :
    quantity.nonneg = true ∧ quantity.nonpos = false

/-
  What the environment decides: the two limits of the replay
  window, and what a text without an offset denotes in UTC.
-/
structure Settings where
  maxEventAgeDays : Int
  maxEventFutureHours : Int
  naiveAsUtc : String → Option Datetime

/- A text read with `fromisoformat`, in UTC without an offset. -/
def readAware
    (rt : Runtime)
    (settings : Settings)
    (text : String) :
    Option Datetime :=
  match rt.fromisoformat
      (CtePersistence.replaceZulu text) with
  | none => none
  | some none => settings.naiveAsUtc text
  | some (some parsed) => some parsed

--------
-- Checks And Alerts
--------

open CtePersistence (ValidationItem)

/- `_validate_event_timestamp_window`. -/
def validateEventTimestampWindow
    (rt : Runtime)
    (settings : Settings)
    (now : Datetime)
    (timestamp : String) :
    Option String :=
  match readAware rt settings timestamp with
  | none =>
      some ("event.timestamp is not parseable ISO-8601: " ++
        timestamp)
  | some parsed =>
      if parsed.instant <
          now.instant -
            settings.maxEventAgeDays * Datetime.dayMicros then
        some ("event.timestamp " ++ timestamp ++
          " is older than WEBHOOK_MAX_EVENT_AGE_DAYS=" ++
          toString settings.maxEventAgeDays ++
          " — replay window exceeded")
      else if now.instant +
          settings.maxEventFutureHours * 3600000000 <
            parsed.instant then
        some ("event.timestamp " ++ timestamp ++
          " is more than WEBHOOK_MAX_EVENT_FUTURE_HOURS=" ++
          toString settings.maxEventFutureHours ++
          " in the future")
      else
        none

/- The alert of a shipment whose route is not told. -/
def incompleteRoute : ValidationItem where
  severity := some (some "warning")
  alertType := some (some "incomplete_route")
  message :=
    some (some
      "Shipping/receiving event missing source or destination identifiers")
  reason := none
  text :=
    "\x7b'severity': 'warning', 'alert_type': 'incomplete_route', 'message': 'Shipping/receiving event missing source or destination identifiers'\x7d"

/- `_generate_alerts`. -/
def generateAlerts (event : IngestEvent) :
    List ValidationItem :=
  let hasSource :=
    (Dict.get event.kdes "ship_from_location").truthy ||
      (Dict.get event.kdes "ship_from_gln").truthy
  let hasDest :=
    (Dict.get event.kdes "ship_to_location").truthy ||
      (Dict.get event.kdes "ship_to_gln").truthy ||
      (Dict.get event.kdes "receiving_location").truthy
  if (event.cteType = .shipping ∨
      event.cteType = .receiving) ∧
        (!hasSource || !hasDest) = true then
    [incompleteRoute]
  else
    []

/- No alert of the webhook rejects an event. -/
theorem generateAlerts_not_rejecting
    (event : IngestEvent) :
    CtePersistence.deriveValidationStatus
      (generateAlerts event) [] ≠ .rejected := by
  unfold generateAlerts
  simp only
  split <;> decide

/-
  The key that tells the events of one payload apart. The time
  stamp is the caller's text.
-/
def batchKey (event : IngestEvent) : String :=
  event.cteType.value ++ "|" ++ event.traceabilityLotCode ++
    "|" ++ event.timestamp ++ "|" ++
    Python.orElse event.locationGln
      (Python.orElse event.locationName "")

--------
-- The Canonical Form
--------

/- What `uuid4()` and the clock give to a canonical event. -/
structure Minted where
  eventId : Uuid
  ingestionTimestamp : String

/- An optional text field of the canonical model. -/
def textField (value : Value) :
    Except StoreError (Option String) :=
  match value with
  | .none => .ok none
  | .str text => .ok (some text)
  | _ =>
      .error (.valueError "Input should be a valid string")

def rawPayload (event : IngestEvent) (source : String) : Dict :=
  [("cte_type", .str event.cteType.value),
    ("source", .str source),
    ("traceability_lot_code", .str event.traceabilityLotCode),
    ("product_description", .str event.productDescription),
    ("quantity", .float event.quantity),
    ("unit_of_measure", .str event.unitOfMeasure),
    ("location_gln", .ofOption event.locationGln),
    ("location_name", .ofOption event.locationName),
    ("timestamp", .str event.timestamp),
    ("kdes", .dict event.kdes)] ++
    match event.inputTraceabilityLotCodes with
    | none => []
    | some codes =>
        if codes.isEmpty then []
        else
          [("input_traceability_lot_codes",
            .list (codes.map .str))]

/-
  The KDEs of the canonical event: those of the caller, the
  source, and the input lots under the key that the links are
  read from.
-/
def canonicalKdes (event : IngestEvent) (source : String) :
    Dict :=
  let kdes :=
    Dict.setdefault event.kdes "ingest_source" (.str source)
  match event.inputTraceabilityLotCodes with
  | none => kdes
  | some codes =>
      if codes.isEmpty then kdes
      else
        Dict.setdefault kdes "input_lot_codes"
          (.list (codes.map .str))

/- The facility that an event starts from. -/
def fromFacility (event : IngestEvent) (kdes : Dict) : Value :=
  (Value.ofOption event.locationGln).orElse
    ((Dict.get kdes "ship_from_gln").orElse
      ((Dict.get kdes "ship_from_location").orElse
        (.ofOption event.locationName)))

/- The facility that an event ends at. -/
def toFacility (event : IngestEvent) (kdes : Dict) : Value :=
  let named :=
    (Dict.get kdes "ship_to_gln").orElse
      ((Dict.get kdes "ship_to_location").orElse
        (Dict.get kdes "receiving_location"))
  if event.cteType = .receiving then
    named.orElse
      ((Value.ofOption event.locationName).orElse
        (.ofOption event.locationGln))
  else
    named

/-
  The canonical event before its preparation. `CTEType` has no
  `growing`, so such an event is refused here. A shipment that
  names no facility falls back on its location a second time,
  which `fromFacility` covers.
-/
def canonicalEvent
    (rt : Runtime)
    (settings : Settings)
    (minted : Minted)
    (event : IngestEvent)
    (tenantId : Uuid)
    (source : String) :
    Except StoreError TraceabilityEvent := do
  let kdes := canonicalKdes event source
  let eventType ←
    Outcome.ofOption
      (.valueError "not a valid CTEType")
      (CTEType.ofValue event.cteType.value)
  let eventTimestamp ←
    Outcome.ofOption (.valueError "Cannot parse timestamp")
      (readAware rt settings event.timestamp)
  let fromFacilityReference ← textField (fromFacility event kdes)
  let toFacilityReference ← textField (toFacility event kdes)
  let fromEntityReference ←
    textField
      ((Dict.get kdes "ship_from_entity").orElse
        (Dict.get kdes "harvester_business_name"))
  let toEntityReference ←
    textField
      ((Dict.get kdes "ship_to_entity").orElse
        (Dict.get kdes "immediate_previous_source"))
  let transportReference ←
    textField
      ((Dict.get kdes "carrier").orElse
        (Dict.get kdes "transport_reference"))
  return {
    eventId := minted.eventId
    tenantId := tenantId
    schemaVersion := 1
    sourceSystem := .webhookApi
    sourceRecordId := none
    sourceFileId := none
    ingestionRunId := none
    eventType := eventType
    eventTimestamp := eventTimestamp
    eventTimezone := "UTC"
    productReference := some event.productDescription
    lotReference := some event.traceabilityLotCode
    traceabilityLotCode := event.traceabilityLotCode
    quantity := event.quantity
    unitOfMeasure := event.unitOfMeasure
    fromEntityReference := fromEntityReference
    toEntityReference := toEntityReference
    fromFacilityReference := fromFacilityReference
    toFacilityReference := toFacilityReference
    transportReference := transportReference
    kdes := kdes
    rawPayload := rawPayload event source
    normalizedPayload := []
    provenanceMetadata :=
      { sourceFileHash := none
        sourceFileName := none
        ingestionTimestamp := minted.ingestionTimestamp
        mapperName := "webhook_v2_normalizer"
        mapperVersion := "1.0.0"
        normalizationRulesApplied :=
          ["webhook_kde_extraction",
            "facility_reference_mapping"]
        originalFormat := "json"
        extractionConfidence := ⟨"1.0", Python.isFloatRepr_one⟩ }
    confidenceScore := ⟨"1.0", Python.isFloatRepr_one⟩
    status := .active
    supersedesEventId := none
    sha256Hash := none
    chainHash := none
    idempotencyKey := none
    epcisEventType := none
    epcisAction := none
    epcisBizStep := none
    lotCode_length := event.lotCode_length
    quantity_nonneg := event.quantity_pos.1 }

/- `prepare_for_persistence` under the runtime's limit. -/
def prepare
    (rt : Runtime)
    (event : TraceabilityEvent) :
    Except StoreError TraceabilityEvent :=
  event.prepareForPersistence rt.sha256Hex
    (rawPayloadMaxBytes rt.rawPayloadMaxBytes)

/- `normalize_webhook_event`. -/
def normalizeWebhookEvent
    (rt : Runtime)
    (settings : Settings)
    (minted : Minted)
    (event : IngestEvent)
    (tenantId : Uuid)
    (source : String) :
    Except StoreError TraceabilityEvent := do
  let canonical ←
    canonicalEvent rt settings minted event tenantId source
  prepare rt canonical

/- The arguments that the legacy store gets for an event. -/
def batchDict
    (event : IngestEvent)
    (canonical : TraceabilityEvent) :
    CtePersistence.CtePayload where
  eventType := .str event.cteType.value
  traceabilityLotCode := event.traceabilityLotCode
  productDescription := some event.productDescription
  quantity := .float event.quantity
  unitOfMeasure := some event.unitOfMeasure
  eventTimestamp := .text event.timestamp
  locationGln := event.locationGln
  locationName := event.locationName
  kdes := event.kdes
  alerts := generateAlerts event
  epcisEventType := none
  epcisAction := none
  epcisBizStep := none
  sourceEventId := none
  eventEntryTimestamp := .none
  validatorResults := []
  canonicalEvent := some canonical

end Webhook

end RegEngine
