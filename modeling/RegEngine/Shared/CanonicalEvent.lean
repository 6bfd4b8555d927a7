import RegEngine.Library.Datetime
import RegEngine.Shared.Rules.Ftl

/-
  The canonical traceability event: its fields, its content
  digest, its idempotency key, and the preparation for
  storage (`shared/canonical_event.py`).

  SHA-256 enters as the parameter `sha256Hex`, from a text to
  the hexadecimal digest of its UTF-8 bytes.

  Main declarations:
    * `TraceabilityEvent`
    * `TraceabilityEvent.computeSha256Hash`
    * `TraceabilityEvent.computeIdempotencyKey`
-/

--------
-- Identifiers And Enumerations
--------

namespace RegEngine

/- The texts `str` gives to a UUID. -/
def isUuidText (text : String) : Bool :=
  text.toList.length == 36 &&
    text.toList.all (fun c =>
      Text.hexDigits.contains c || c == '-')

/- A UUID, known by its text. -/
structure Uuid where
  text : String
  wf : isUuidText text = true
  deriving DecidableEq

/- The text of a UUID has 36 characters. -/
theorem Uuid.length_toList
    (u : Uuid) :
    u.text.toList.length = 36 := by
  have hWf := u.wf
  simp only [isUuidText, Bool.and_eq_true, beq_iff_eq] at hWf
  exact hWf.1

/- Four texts of UUIDs, and a lot code. -/
theorem isUuidText_one :
    isUuidText "00000000-0000-0000-0000-000000000001" = true := by
  decide

theorem isUuidText_two :
    isUuidText "00000000-0000-0000-0000-000000000002" = true := by
  decide

theorem isUuidText_three :
    isUuidText "00000000-0000-0000-0000-000000000003" = true := by
  decide

theorem isUuidText_aa :
    isUuidText "00000000-0000-0000-0000-0000000000aa" = true := by
  decide

theorem length_lot_one : 3 ≤ "LOT-1".toList.length := by
  decide

/- The critical tracking events of the rule. -/
inductive CTEType where
  | harvesting
  | cooling
  | initialPacking
  | firstLandBasedReceiving
  | shipping
  | receiving
  | transformation
  deriving DecidableEq

namespace CTEType

def value : CTEType → String
| .harvesting => "harvesting"
| .cooling => "cooling"
| .initialPacking => "initial_packing"
| .firstLandBasedReceiving => "first_land_based_receiving"
| .shipping => "shipping"
| .receiving => "receiving"
| .transformation => "transformation"

/- The types in the order of the enumeration. -/
def all : List CTEType :=
  [.harvesting, .cooling, .initialPacking,
    .firstLandBasedReceiving, .shipping, .receiving,
    .transformation]

/- `CTEType(value)`, which fails outside the enumeration. -/
def ofValue (text : String) : Option CTEType :=
  all.find? (fun t => t.value == text)

/- A type is told by its text. -/
theorem value_inj
    {s t : CTEType}
    (hEq : s.value = t.value) :
    s = t := by
  cases s <;> cases t <;>
    first | rfl | exact absurd hEq (by decide)

/- No type text holds the delimiter of the digest. -/
theorem delim_notMem_value
    (t : CTEType) :
    '|' ∉ t.value.toList := by
  cases t <;> decide

end CTEType

/- The lifecycle of a canonical event. -/
inductive EventStatus where
  | active
  | superseded
  | rejected
  | draft
  deriving DecidableEq

def EventStatus.value : EventStatus → String
| .active => "active"
| .superseded => "superseded"
| .rejected => "rejected"
| .draft => "draft"

/- The systems that events come from. -/
inductive IngestionSource where
  | webhookApi
  | csvUpload
  | xlsxUpload
  | epcisApi
  | epcisXml
  | edi
  | manual
  | mobileCapture
  | supplierPortal
  | legacyV002
  deriving DecidableEq

namespace IngestionSource

def value : IngestionSource → String
| .webhookApi => "webhook_api"
| .csvUpload => "csv_upload"
| .xlsxUpload => "xlsx_upload"
| .epcisApi => "epcis_api"
| .epcisXml => "epcis_xml"
| .edi => "edi"
| .manual => "manual"
| .mobileCapture => "mobile_capture"
| .supplierPortal => "supplier_portal"
| .legacyV002 => "legacy_v002"

end IngestionSource

--------
-- Errors
--------

/- The exceptions that leave a call of the stores. -/
inductive StoreError where
  | valueError (message : String)
  | typeError (message : String)
  | rawPayloadTooLarge (sizeBytes maxBytes : Nat)
  | duplicateEvent (eventId : Uuid) (sha256Hash : String)
  | overflowError
  | integrityError (constraint : String)
  deriving DecidableEq

/- `RAW_PAYLOAD_DEFAULT_MAX_BYTES`. -/
def rawPayloadDefaultMaxBytes : Nat :=
  256 * 1024

/- `RAW_PAYLOAD_HARD_CEILING_BYTES`. -/
def rawPayloadHardCeilingBytes : Nat :=
  1024 * 1024

/-
  `_raw_payload_max_bytes`, on the environment variable: not
  set, set to something that is no integer, or an integer.
-/
def rawPayloadMaxBytes (env : Option (Option Int)) : Nat :=
  match env with
  | none => rawPayloadDefaultMaxBytes
  | some none => rawPayloadDefaultMaxBytes
  | some (some value) =>
      if value ≤ 0 then
        rawPayloadDefaultMaxBytes
      else if (rawPayloadHardCeilingBytes : Int) < value then
        rawPayloadHardCeilingBytes
      else
        value.toNat

--------
-- The Event
--------

open Python (Value Dict)

/- Where a record came from and how it was normalized. -/
structure ProvenanceMetadata where
  sourceFileHash : Option String
  sourceFileName : Option String
  ingestionTimestamp : String
  mapperName : String
  mapperVersion : String
  normalizationRulesApplied : List String
  originalFormat : String
  extractionConfidence : Python.Float

/- `to_dict`: the fields that are not `None`. -/
def ProvenanceMetadata.toDict (p : ProvenanceMetadata) : Dict :=
  (p.sourceFileHash.map (fun text =>
      ("source_file_hash", Value.str text))).toList ++
    (p.sourceFileName.map (fun text =>
      ("source_file_name", Value.str text))).toList ++
    [("ingestion_timestamp", .str p.ingestionTimestamp),
      ("mapper_name", .str p.mapperName),
      ("mapper_version", .str p.mapperVersion),
      ("normalization_rules_applied",
        .list (p.normalizationRulesApplied.map .str)),
      ("original_format", .str p.originalFormat),
      ("extraction_confidence",
        .float p.extractionConfidence)]

/-
  The canonical event. Lot codes have three characters or
  more and quantities are not negative, as the model's field
  constraints say.
-/
structure TraceabilityEvent where
  eventId : Uuid
  tenantId : Uuid
  schemaVersion : Int
  sourceSystem : IngestionSource
  sourceRecordId : Option String
  sourceFileId : Option Uuid
  ingestionRunId : Option Uuid
  eventType : CTEType
  eventTimestamp : Datetime
  eventTimezone : String
  productReference : Option String
  lotReference : Option String
  traceabilityLotCode : String
  quantity : Python.Float
  unitOfMeasure : String
  fromEntityReference : Option String
  toEntityReference : Option String
  fromFacilityReference : Option String
  toFacilityReference : Option String
  transportReference : Option String
  kdes : Dict
  rawPayload : Dict
  normalizedPayload : Dict
  provenanceMetadata : ProvenanceMetadata
  confidenceScore : Python.Float
  status : EventStatus
  supersedesEventId : Option Uuid
  sha256Hash : Option String
  chainHash : Option String
  idempotencyKey : Option String
  epcisEventType : Option String
  epcisAction : Option String
  epcisBizStep : Option String
  lotCode_length : 3 ≤ traceabilityLotCode.toList.length
  quantity_nonneg : quantity.nonneg = true

/- A harvest of one case, with the fields that are required. -/
instance : Inhabited TraceabilityEvent where
  default :=
    { eventId :=
        ⟨"00000000-0000-0000-0000-000000000001", isUuidText_one⟩
      tenantId :=
        ⟨"00000000-0000-0000-0000-0000000000aa", isUuidText_aa⟩
      schemaVersion := 1
      sourceSystem := .webhookApi
      sourceRecordId := none
      sourceFileId := none
      ingestionRunId := none
      eventType := .harvesting
      eventTimestamp := ⟨⟨2026, 1, 1⟩, 0, 0, Datetime.isValid_first⟩
      eventTimezone := "UTC"
      productReference := none
      lotReference := none
      traceabilityLotCode := "LOT-1"
      quantity := ⟨"1.0", Python.isFloatRepr_one⟩
      unitOfMeasure := "cases"
      fromEntityReference := none
      toEntityReference := none
      fromFacilityReference := none
      toFacilityReference := none
      transportReference := none
      kdes := []
      rawPayload := []
      normalizedPayload := []
      provenanceMetadata :=
        { sourceFileHash := none
          sourceFileName := none
          ingestionTimestamp := ""
          mapperName := ""
          mapperVersion := "1.0.0"
          normalizationRulesApplied := []
          originalFormat := "json"
          extractionConfidence := ⟨"1.0", Python.isFloatRepr_one⟩ }
      confidenceScore := ⟨"1.0", Python.isFloatRepr_one⟩
      status := .active
      supersedesEventId := none
      sha256Hash := none
      chainHash := none
      idempotencyKey := none
      epcisEventType := none
      epcisAction := none
      epcisBizStep := none
      lotCode_length := length_lot_one
      quantity_nonneg := by decide }

namespace TraceabilityEvent

/- The text that `compute_sha256_hash` hashes. -/
def contentText (e : TraceabilityEvent) : String :=
  Python.join "|"
    [e.eventId.text,
      e.eventType.value,
      e.traceabilityLotCode,
      Python.orElse e.productReference "",
      e.quantity.repr,
      e.unitOfMeasure,
      Python.orElse e.fromFacilityReference "",
      Python.orElse e.toFacilityReference "",
      e.eventTimestamp.isoformat,
      Json.dumps (Value.toJson (.dict e.kdes))]

/- `compute_sha256_hash`. -/
def computeSha256Hash
    (sha256Hex : String → String)
    (e : TraceabilityEvent) :
    String :=
  sha256Hex e.contentText

/- The document that `compute_idempotency_key` hashes. -/
def keyDocument (e : TraceabilityEvent) : Value :=
  .dict
    [("event_type", .str e.eventType.value),
      ("tlc", .str e.traceabilityLotCode),
      ("timestamp", .str e.eventTimestamp.isoformat),
      ("source", .str e.sourceSystem.value),
      ("from_facility",
        .str (Python.orElse e.fromFacilityReference "")),
      ("to_facility",
        .str (Python.orElse e.toFacilityReference "")),
      ("kdes", .dict e.kdes)]

/- `compute_idempotency_key`. -/
def computeIdempotencyKey
    (sha256Hex : String → String)
    (e : TraceabilityEvent) :
    String :=
  sha256Hex (Json.dumpsCompact e.keyDocument.toJson)

/- `build_normalized_payload`. -/
def buildNormalizedPayload (e : TraceabilityEvent) : Dict :=
  [("event_id", .str e.eventId.text),
    ("event_type", .str e.eventType.value),
    ("traceability_lot_code", .str e.traceabilityLotCode),
    ("product_reference", .ofOption e.productReference),
    ("lot_reference", .ofOption e.lotReference),
    ("quantity", .float e.quantity),
    ("unit_of_measure", .str e.unitOfMeasure),
    ("event_timestamp", .str e.eventTimestamp.isoformat),
    ("event_timezone", .str e.eventTimezone),
    ("from_entity_reference", .ofOption e.fromEntityReference),
    ("to_entity_reference", .ofOption e.toEntityReference),
    ("from_facility_reference",
      .ofOption e.fromFacilityReference),
    ("to_facility_reference", .ofOption e.toFacilityReference),
    ("transport_reference", .ofOption e.transportReference),
    ("kdes", .dict e.kdes),
    ("schema_version", .int e.schemaVersion)]

/-
  The bytes of `json.dumps(raw_payload, default=str)`; the
  text is ASCII, so they are its characters.
-/
def rawPayloadSize (e : TraceabilityEvent) : Nat :=
  (Json.dumpsUnsorted (Value.toJson (.dict e.rawPayload))).length

/- `_enforce_raw_payload_size`. -/
def enforceRawPayloadSize
    (maxBytes : Nat)
    (e : TraceabilityEvent) :
    Except StoreError Unit :=
  if e.rawPayload.isEmpty then
    .ok ()
  else if maxBytes < e.rawPayloadSize then
    .error (.rawPayloadTooLarge e.rawPayloadSize maxBytes)
  else
    .ok ()

/-
  `_apply_ftl_hint`: unless the KDEs carry a signal, the
  category read from the product text is added to them.
-/
def applyFtlHint (e : TraceabilityEvent) : TraceabilityEvent :=
  if Ftl.eventHasFtlHint (.dict [("kdes", .dict e.kdes)]) then
    e
  else
    let text :=
      if Python.orElse e.productReference "" = "" then
        Dict.get e.kdes "product_description"
      else
        .ofOption e.productReference
    match Ftl.inferFtlCategoryFromText text with
    | none => e
    | some category =>
        { e with
          kdes :=
            Dict.set (Dict.set e.kdes "ftl_category"
              (.str category)) "ftl_covered" (.bool true) }

/- The hashes and the payload computed for storage. -/
def withHashes
    (sha256Hex : String → String)
    (e : TraceabilityEvent) :
    TraceabilityEvent :=
  { e with
    sha256Hash := some (e.computeSha256Hash sha256Hex)
    idempotencyKey := some (e.computeIdempotencyKey sha256Hex)
    normalizedPayload := e.buildNormalizedPayload }

/- `prepare_for_persistence`. -/
def prepareForPersistence
    (sha256Hex : String → String)
    (maxBytes : Nat)
    (e : TraceabilityEvent) :
    Except StoreError TraceabilityEvent :=
  match e.enforceRawPayloadSize maxBytes with
  | .error raised => .error raised
  | .ok () => .ok (e.applyFtlHint.withHashes sha256Hex)

end TraceabilityEvent

end RegEngine
