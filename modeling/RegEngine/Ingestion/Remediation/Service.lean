import RegEngine.Ingestion.Remediation.Corrections
import RegEngine.Ingestion.Remediation.Tokens
import RegEngine.Shared.CanonicalPersistence.Writer

/-
  Intake, revalidation and release of manifest records
  (`app/remediation/service.py`), on the rows of one tenant.

  Main declarations:
    * `Remediation.ManifestRecord`
    * `Remediation.ingestManifest`
    * `Remediation.releaseRecord`
-/

--------
-- Rows
--------

namespace RegEngine

open Python (Value Dict)

namespace Remediation

/- The verdict of the last validation. -/
inductive RecordStatus where
  | passed
  | failed
  deriving DecidableEq

/- How far a record is on its way to the canonical store. -/
inductive ReleaseStatus where
  | staged
  | released
  | rejected
  deriving DecidableEq

/- A row of `fsma.manifest_records`. -/
structure ManifestRecord where
  ingestionRunId : Uuid
  rowNumber : Nat
  rawRow : RawRow
  normalizedPayload : ManifestEvent
  fieldProvenance : Dict
  rowFingerprint : String
  validationStatus : RecordStatus
  releaseStatus : ReleaseStatus
  releasedEventId : Option Uuid
  remediationCaseId : Option Nat
  ruleFailures : List Failure

/- A row of `fsma.remediation_cases`. -/
structure RemediationCase where
  manifestRecordId : Nat
  supplierOrg : String
  validationIssueIds : List String
  allowedFields : List AllowedField
  status : CaseStatus
  deriving DecidableEq

/- The rows of a tenant that remediation works on. -/
structure Manifests where
  records : Keyed Nat ManifestRecord
  cases : Keyed Nat RemediationCase
  patches : List CorrectionPatch
  aliases : List (String × String)
  canonical : Db

inductive ServiceError where
  | http (statusCode : Nat) (detail : String)
  | store (raised : StoreError)
  deriving DecidableEq

/- Whether a released record has a fingerprint. -/
def releasedBut
    (records : Keyed Nat ManifestRecord)
    (fingerprint : String)
    (others : Nat → Bool) :
    Bool :=
  records.rows.any (fun entry =>
    entry.2.releaseStatus == .released &&
      entry.2.rowFingerprint == fingerprint && others entry.1)

/- `_released_fingerprint_exists`. -/
def releasedFingerprintExists
    (records : Keyed Nat ManifestRecord)
    (fingerprint : String) :
    Bool :=
  releasedBut records fingerprint (fun _ => true)

--------
-- Intake
--------

/- A row that repeats one of its manifest. -/
def duplicateRow (rowNumber first : Nat) : Failure :=
  serviceFailure "duplicate_row" "row" none
    ("Row " ++ toString rowNumber ++
      " is byte-identical to row " ++ toString first ++
      " in this manifest.")
    "Remove the duplicate row or correct it to a distinct shipment line."

/- A row that was released before. -/
def duplicateEvent (why : String) : Failure :=
  serviceFailure "duplicate_event" "row" none why
    "Do not resubmit already-released records."

/- A row that intake finds released. -/
def matchesReleased (rowNumber : Nat) : Failure :=
  duplicateEvent
    ("Row " ++ toString rowNumber ++ " matches " ++
      "a record already released in a previous manifest.")

/- A row that revalidation finds released. -/
def thisRowMatchesReleased : Failure :=
  duplicateEvent
    ("This row matches " ++
      "a record already released in a previous manifest.")

/-
  The duplicates that the intake of a row finds: the release
  of an equal row counts for the first row of a manifest only.
-/
def duplicatesAtIntake
    (firstSeen : Option Nat)
    (released : Bool)
    (rowNumber : Nat) :
    List Failure :=
  match firstSeen with
  | some first => [duplicateRow rowNumber first]
  | none => if released then [matchesReleased rowNumber] else []

/- The duplicates that a revalidation finds. -/
def duplicatesAgain
    (earlier : Option Nat)
    (released : Bool)
    (rowNumber : Nat) :
    List Failure :=
  (earlier.map (duplicateRow rowNumber)).toList ++
    if released then [thisRowMatchesReleased] else []

/- The note of an approved alias in the provenance. -/
def noteAlias (provenance : Dict) (applied : Option Dict) :
    Dict :=
  match applied with
  | none => provenance
  | some note =>
      let entry :=
        ((provenance.get "kdes.product_code").entries?).getD []
      provenance.set "kdes.product_code"
        (.dict (note.foldl (fun d item =>
          Dict.set d item.1 item.2) entry))

/- The record that the intake of a row stages. -/
def stagedRecord
    (vd : Validator)
    (sha256Hex : String → String)
    (db : Manifests)
    (runId : Uuid)
    (firstSeen : Option Nat)
    (rowNumber : Nat)
    (row : RawRow) :
    ManifestRecord :=
  let fingerprint := rowFingerprint sha256Hex row
  let intake := buildEventFromRow vd.toReader row
  let approved := checkProductAlias db.aliases intake.event
  let snapshot :=
    snapshotFailures vd intake.event
      (intake.failures ++
        duplicatesAtIntake firstSeen
          (releasedFingerprintExists db.records fingerprint)
          rowNumber ++
        approved.1)
  { ingestionRunId := runId
    rowNumber := rowNumber
    rawRow := row
    normalizedPayload := intake.event
    fieldProvenance := noteAlias intake.provenance approved.2
    rowFingerprint := fingerprint
    validationStatus :=
      if snapshot.blocking then .failed else .passed
    releaseStatus := .staged
    releasedEventId := none
    remediationCaseId := none
    ruleFailures := snapshot.failures }

/-
  The case of a blocked record, after the transitions that
  the intake itself makes.
-/
def openCase
    (recordId : Nat)
    (supplierOrg : String)
    (failures : List Failure) :
    RemediationCase where
  manifestRecordId := recordId
  supplierOrg := supplierOrg
  validationIssueIds := failures.map Failure.issueId
  allowedFields := correctableFields failures
  status := .supplierActionRequired

/- The fresh identifiers of a row. -/
structure RowIds where
  recordId : Nat
  caseId : Nat
  deriving DecidableEq

/- The record of a row is inserted, with its case. -/
def stageRecord
    (db : Manifests)
    (ids : RowIds)
    (supplierOrg : String)
    (record : ManifestRecord) :
    Except ServiceError Manifests :=
  if ids.recordId ∈ db.records.keys ∨
      ids.caseId ∈ db.cases.keys then
    .error (.store (.integrityError "pkey"))
  else if record.validationStatus = .failed then
    .ok
      { db with
        records := db.records.add ids.recordId
          { record with remediationCaseId := some ids.caseId }
        cases := db.cases.add ids.caseId
          (openCase ids.recordId supplierOrg
            record.ruleFailures) }
  else
    .ok
      { db with
        records := db.records.add ids.recordId record }

/- `seen_fingerprints` after a row. -/
def noteSeen
    (seen : List (String × Nat))
    (fingerprint : String)
    (rowNumber : Nat) :
    List (String × Nat) :=
  match seen.lookup fingerprint with
  | some _ => seen
  | none => (fingerprint, rowNumber) :: seen

/- The loop of `ingest_manifest`. -/
def stageRows
    (vd : Validator)
    (sha256Hex : String → String)
    (runId : Uuid)
    (supplierOrg : String) :
    Nat → List (String × Nat) → List (RawRow × RowIds) →
      Manifests → Except ServiceError Manifests
| _, _, [], db => .ok db
| rowNumber, seen, (row, ids) :: rest, db => do
    let fingerprint := rowFingerprint sha256Hex row
    let record :=
      stagedRecord vd sha256Hex db runId
        (seen.lookup fingerprint) rowNumber row
    let staged ← stageRecord db ids supplierOrg record
    stageRows vd sha256Hex runId supplierOrg (rowNumber + 1)
      (noteSeen seen fingerprint rowNumber) rest staged

/- `MAX_MANIFEST_ROWS`. -/
def maxManifestRows : Nat :=
  500

/- `ingest_manifest`, on the rows that the CSV reader gives. -/
def ingestManifest
    (vd : Validator)
    (sha256Hex : String → String)
    (tenantId runId : Uuid)
    (supplierOrg : String)
    (rows : List (RawRow × RowIds))
    (db : Manifests) :
    Except ServiceError Manifests :=
  if rows.isEmpty then
    .error (.http 400 "Manifest contains no data rows")
  else if maxManifestRows < rows.length then
    .error (.http 413 "Manifest exceeds the 500-row limit")
  else if db.canonical.ingestionRuns.any (fun run =>
      run.1 == runId) then
    .error (.store (.integrityError "ingestion_runs_pkey"))
  else
    stageRows vd sha256Hex runId supplierOrg 1 [] rows
      { db with
        canonical :=
          { db.canonical with
            ingestionRuns :=
              db.canonical.ingestionRuns ++
                [(runId, tenantId)] } }

--------
-- Coercions
--------

open CsvTemplates (Reader)

/- The coercion of the quantity, and the checks on it. -/
def coerceQuantity (rd : Reader) (quantity : Value) : Coercion :=
  match quantity with
  | .str text =>
      match finiteFloat rd text with
      | some x =>
          ⟨.float x, some "quantity_cast",
            quantityFailures none (.float x)⟩
      | none => ⟨quantity, none, [invalidQuantity none text]⟩
  | _ => ⟨quantity, none, quantityFailures none quantity⟩

/- The coercion of the unit of measure. -/
def coerceUom (rd : Reader) (uom : Value) : Coercion :=
  match uom with
  | .str text =>
      let normalized := CsvTemplates.normalizeUom rd text
      if text ≠ "" ∧ normalized ≠ text then
        ⟨.str normalized, some "uom_alias", []⟩
      else
        ⟨uom, none, []⟩
  | _ => ⟨uom, none, []⟩

def coerceDate
    (rd : Reader)
    (fieldPath : String)
    (value : Value) :
    Coercion :=
  match value with
  | .str text =>
      if Python.strip text = "" then
        ⟨value, none, []⟩
      else
        match CsvTemplates.parseDateFlexible rd text with
        | .error warning =>
            ⟨value, none,
              [invalidDate none fieldPath text warning]⟩
        | .ok iso =>
            if iso = text then ⟨value, none, []⟩
            else ⟨.str iso, some "date_format", []⟩
  | _ => ⟨value, none, []⟩

/- `key.endswith("date")`. -/
def endsWithDate (key : String) : Bool :=
  "date".toList.isSuffixOf key.toList

/- The coercion of a KDE, a date by its name or not. -/
def coerceKde (rd : Reader) (entry : String × Value) :
    Coercion :=
  if endsWithDate entry.1 then
    coerceDate rd ("kdes." ++ entry.1) entry.2
  else
    ⟨entry.2, none, []⟩

/- A value put back where a rule changed it. -/
def putCoerced (d : Dict) (key : String) (coerced : Coercion) :
    Dict :=
  match coerced.rule with
  | some _ => d.set key coerced.value
  | none => d

/- The three coercions of the fields of the event itself. -/
def coerceFields (rd : Reader) (fields : Dict) : Dict :=
  putCoerced
    (putCoerced
      (putCoerced fields "quantity"
        (coerceQuantity rd (fields.get "quantity")))
      "unit_of_measure"
      (coerceUom rd (fields.get "unit_of_measure")))
    "timestamp"
    (coerceDate rd "timestamp" (fields.get "timestamp"))

/- The coercion of every KDE. -/
def coerceKdes (rd : Reader) (kdes : Dict) : Dict :=
  kdes.map (fun entry => (entry.1, (coerceKde rd entry).value))

/- The event after the coercions of `revalidate_record`. -/
def coerceEvent (rd : Reader) (event : ManifestEvent) :
    ManifestEvent where
  fields := coerceFields rd event.fields
  kdes := coerceKdes rd event.kdes

def coercionFailures (rd : Reader) (event : ManifestEvent) :
    List Failure :=
  (coerceQuantity rd (event.fields.get "quantity")).failures ++
    (coerceDate rd "timestamp"
      (event.fields.get "timestamp")).failures ++
    event.kdes.flatMap (fun entry =>
      (coerceKde rd entry).failures)

/- `_coerced`, for a coercion that changed a value. -/
def noteCoerced
    (provenance : Dict)
    (fieldPath : String)
    (coerced : Coercion) :
    Dict :=
  match coerced.rule with
  | none => provenance
  | some rule =>
      let entry :=
        ((provenance.get fieldPath).entries?).getD
          [("source", .str "auto_normalization")]
      provenance.set fieldPath
        (.dict
          (Dict.set (Dict.set entry "value" coerced.value)
            "rule" (.str rule)))

def coerceProvenance
    (rd : Reader)
    (event : ManifestEvent)
    (provenance : Dict) :
    Dict :=
  let quantity :=
    noteCoerced provenance "quantity"
      (coerceQuantity rd (event.fields.get "quantity"))
  let uom :=
    noteCoerced quantity "unit_of_measure"
      (coerceUom rd (event.fields.get "unit_of_measure"))
  let timestamp :=
    noteCoerced uom "timestamp"
      (coerceDate rd "timestamp" (event.fields.get "timestamp"))
  event.kdes.foldl (fun d entry =>
    noteCoerced d ("kdes." ++ entry.1) (coerceKde rd entry))
    timestamp

--------
-- Revalidation
--------

/- The first row of a run before a row with a fingerprint. -/
def earlierTwin
    (records : Keyed Nat ManifestRecord)
    (runId : Uuid)
    (fingerprint : String)
    (rowNumber : Nat) :
    Option Nat :=
  ((records.rows.filter (fun entry =>
      entry.2.ingestionRunId == runId &&
        entry.2.rowFingerprint == fingerprint &&
        entry.2.rowNumber < rowNumber)).map (fun entry =>
      entry.2.rowNumber)).min?

/- What a revalidation finds for an event. -/
def revalidationSnapshot
    (vd : Validator)
    (db : Manifests)
    (recordId : Nat)
    (record : ManifestRecord) :
    Snapshot :=
  let event := coerceEvent vd.toReader record.normalizedPayload
  snapshotFailures vd event
    (coercionFailures vd.toReader record.normalizedPayload ++
      tlcFailures (event.fields.get "traceability_lot_code") ++
      duplicatesAgain
        (earlierTwin db.records record.ingestionRunId
          record.rowFingerprint record.rowNumber)
        (releasedBut db.records record.rowFingerprint
          (fun other => other != recordId))
        record.rowNumber ++
      (checkProductAlias db.aliases event).1)

/- `revalidate_record`: the record as it is written back. -/
def revalidateRecord
    (vd : Validator)
    (db : Manifests)
    (recordId : Nat)
    (record : ManifestRecord) :
    ManifestRecord :=
  let snapshot := revalidationSnapshot vd db recordId record
  { record with
    normalizedPayload :=
      coerceEvent vd.toReader record.normalizedPayload
    fieldProvenance :=
      coerceProvenance vd.toReader record.normalizedPayload
        record.fieldProvenance
    ruleFailures := snapshot.failures
    validationStatus :=
      if snapshot.blocking then .failed else .passed }

--------
-- Release
--------

/-
  What the service calls outside this repository: the checks
  on events, SHA-256 and what the stores call, the strict
  parser of `dateutil`, and the model's reading of a number.
-/
structure Environment extends Validator where
  runtime : Runtime
  dateutilStrict : String → Option Datetime
  floatField : Value → Option Python.Float
  floatField_float : ∀ x, floatField (.float x) = some x

/- The source file of a run. -/
structure SourceMeta where
  sha256 : String
  filename : String

/- What `uuid4()` and the clock give to a canonical event. -/
structure Minted where
  eventId : Uuid
  ingestionTimestamp : String

/- `_CTE_DATE_KDE`. -/
def cteDateKde : List (String × String) :=
  [("receiving", "receive_date"), ("shipping", "ship_date"),
    ("harvesting", "harvest_date"), ("cooling", "cooling_date"),
    ("initial_packing", "packing_date"),
    ("first_land_based_receiving", "landing_date"),
    ("transformation", "transformation_date")]

/- `event.get(key, "")`. -/
def fieldOrEmpty (fields : Dict) (key : String) : Value :=
  if fields.has key then fields.get key else .str ""

/- The time of an event: its time stamp, or its CTE's date. -/
def eventTimestamp (event : ManifestEvent) : Value :=
  let named :=
    match fieldOrEmpty event.fields "cte_type" with
    | .str cteType => (cteDateKde.lookup cteType).getD ""
    | _ => ""
  (event.fields.get "timestamp").orElse (event.kdes.get named)

/- The rules that the provenance of a record names. -/
def normalizationRules (provenance : Dict) : List String :=
  ((provenance.filterMap (fun entry =>
      match entry.2 with
      | .dict note =>
          (Dict.get note "rule").str?.filter (fun rule =>
            rule != "")
      | _ => none)).dedup).mergeSort (fun x y => x ≤ y)

/- `TraceabilityEvent.parse_timestamp` of a text. -/
def parseTimestamp (env : Environment) (value : Value) :
    Option Datetime :=
  match value with
  | .str text =>
      match env.fromisoformat (CtePersistence.replaceZulu text)
        with
      | some d => some d
      | none =>
          env.dateutilStrict (CtePersistence.replaceZulu text)
  | _ => none

/- An optional text of the canonical model. -/
def textField (value : Value) : Option (Option String) :=
  match value with
  | .none => some none
  | .str text => some (some text)
  | _ => none

/- The facility that an event starts from. -/
def fromFacility (event : ManifestEvent) : Value :=
  (event.fields.get "location_gln").orElse
    ((event.kdes.get "ship_from_location").orElse
      (event.fields.get "location_name"))

/- The facility that an event ends at. -/
def toFacility (event : ManifestEvent) : Value :=
  (event.kdes.get "ship_to_location").orElse
    (event.kdes.get "receiving_location")

/-
  `_build_traceability_event`; nothing when the model refuses
  a field.
-/
def buildTraceabilityEvent
    (env : Environment)
    (tenantId : Uuid)
    (minted : Minted)
    (source : SourceMeta)
    (record : ManifestRecord) :
    Option TraceabilityEvent := do
  let event := record.normalizedPayload
  let eventType ←
    (fieldOrEmpty event.fields "cte_type").str?.bind
      CTEType.ofValue
  let timestamp ← parseTimestamp env (eventTimestamp event)
  let tlc ←
    (fieldOrEmpty event.fields "traceability_lot_code").str?
  let product ←
    textField (event.fields.get "product_description")
  let quantity ← env.floatField (event.fields.get "quantity")
  let unit ←
    (fieldOrEmpty event.fields "unit_of_measure").str?
  let fromEntity ←
    textField (event.kdes.get "immediate_previous_source")
  let start ← textField (fromFacility event)
  let stop ← textField (toFacility event)
  if hFields :
      3 ≤ tlc.toList.length ∧ quantity.nonneg = true then
    return {
      eventId := minted.eventId
      tenantId := tenantId
      schemaVersion := 1
      sourceSystem := .csvUpload
      sourceRecordId := some (toString record.rowNumber)
      sourceFileId := none
      ingestionRunId := some record.ingestionRunId
      eventType := eventType
      eventTimestamp := timestamp
      eventTimezone := "UTC"
      productReference := product
      lotReference := none
      traceabilityLotCode := tlc
      quantity := quantity
      unitOfMeasure := unit
      fromEntityReference := fromEntity
      toEntityReference := none
      fromFacilityReference := start
      toFacilityReference := stop
      transportReference := none
      kdes := event.kdes
      rawPayload := record.rawRow.toDict
      normalizedPayload := []
      provenanceMetadata :=
        { sourceFileHash := some source.sha256
          sourceFileName := some source.filename
          ingestionTimestamp := minted.ingestionTimestamp
          mapperName := "supplier_remediation_csv"
          mapperVersion := "1.0.0"
          normalizationRulesApplied :=
            normalizationRules record.fieldProvenance
          originalFormat := "csv"
          extractionConfidence := ⟨"1.0", Python.isFloatRepr_one⟩ }
      confidenceScore := ⟨"1.0", Python.isFloatRepr_one⟩
      status := .active
      supersedesEventId := none
      sha256Hash := none
      chainHash := none
      idempotencyKey := none
      epcisEventType := none
      epcisAction := none
      epcisBizStep := none
      lotCode_length := hFields.1
      quantity_nonneg := hFields.2 }
  else
    none

/- What the release of a record is given from outside. -/
structure ReleaseCall where
  minted : Minted
  source : SourceMeta
  now : Datetime

/- The canonical event of a record, or why there is none. -/
def releasedEvent
    (env : Environment)
    (tenantId : Uuid)
    (call : ReleaseCall)
    (record : ManifestRecord) :
    Except ServiceError TraceabilityEvent :=
  if !(eventTimestamp record.normalizedPayload).truthy then
    .error (.http 409
      "Record has no event timestamp; cannot release")
  else
    match buildTraceabilityEvent env tenantId call.minted
        call.source record with
    | some event => .ok event
    | none =>
        .error (.http 409
          "Record failed canonical validation and stays blocked")

/- A record marked as released. -/
def markReleased (eventId : Uuid) (record : ManifestRecord) :
    ManifestRecord :=
  { record with
    releaseStatus := .released
    releasedEventId := some eventId }

/- `release_record`. -/
def releaseRecord
    (env : Environment)
    (tenantId : Uuid)
    (call : ReleaseCall)
    (recordId : Nat)
    (record : ManifestRecord)
    (db : Manifests) :
    Except ServiceError Manifests := do
  let event ← releasedEvent env tenantId call record
  let persisted ←
    (CanonicalEventStore.persistEvent {} env.runtime call.now
      event db.canonical).mapError ServiceError.store
  return {
    db with
    canonical := persisted.2
    records :=
      db.records.set recordId
        (markReleased persisted.1.eventId) }

end Remediation

end RegEngine
