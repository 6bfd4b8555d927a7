import RegEngine.Library.HashChain
import RegEngine.Library.Outcome
import RegEngine.Library.Table
import RegEngine.Shared.CanonicalEvent

/-
  The tables that the stores write, with the keys, checks and
  references that the migrations put on them
  (`alembic/sql`, `alembic/versions`).

  Columns that the database fills with its own clock or key
  (`id`, `created_at`, `updated_at`, `ingested_at`) are left
  out. Time stamps are stored as instants and documents as
  JSON.

  Main declarations:
    * `Db`
    * `Db.insertCteEvent`
    * `Db.insertChainEntry`
    * `Db.chainHead`
-/

--------
-- Library Functions
--------

namespace RegEngine

open Python (Value)

/-
  What the stores call outside this repository: SHA-256, the
  environment, `float` on a value, `datetime.fromisoformat`,
  which fails, gives a time without an offset, or a time
  stamp, and `json.loads`.
-/
structure Runtime where
  sha256Hex : String → String
  rawPayloadMaxBytes : Option (Option Int)
  floatOf : Value → Option Python.Float
  fromisoformat : String → Option (Option Datetime)
  jsonLoads : String → Option Json
  floatOf_float : ∀ x, floatOf (.float x) = some x
  floatOf_list : ∀ items, floatOf (.list items) = none
  floatOf_dict : ∀ entries, floatOf (.dict entries) = none

/- A runtime with the digests of a table, for concrete runs. -/
def Runtime.ofDigests (digests : List (String × String)) :
    Runtime where
  sha256Hex text := (digests.lookup text).getD ""
  rawPayloadMaxBytes := none
  floatOf
  | .float x => some x
  | _ => none
  fromisoformat _ := none
  jsonLoads _ := none
  floatOf_float _ := rfl
  floatOf_list _ := rfl
  floatOf_dict _ := rfl

/- A digest that such a runtime gives stands in its table. -/
theorem Runtime.mem_of_ofDigests
    {digests : List (String × String)}
    {text digest : String}
    (hDigest : (ofDigests digests).sha256Hex text = digest)
    (hSome : digest ≠ "") :
    (text, digest) ∈ digests := by
  change (digests.lookup text).getD "" = digest at hDigest
  cases hLookup : digests.lookup text with
  | none =>
      rw [hLookup] at hDigest
      exact absurd hDigest.symm hSome
  | some found =>
      rw [hLookup, Option.getD_some] at hDigest
      rw [← hDigest]
      rcases List.lookup_eq_some_iff.mp hLookup with
        ⟨front, back, hSplit, -⟩
      rw [hSplit]
      simp

--------
-- Rows
--------

/- A row of `fsma.traceability_events`. -/
structure TraceabilityEventRow where
  eventId : Uuid
  tenantId : Uuid
  sourceSystem : String
  sourceRecordId : Option String
  sourceFileId : Option Uuid
  ingestionRunId : Option Uuid
  eventType : CTEType
  eventTimestamp : Int
  eventTimezone : String
  productReference : Option String
  lotReference : Option String
  traceabilityLotCode : String
  quantity : Python.Float
  unitOfMeasure : String
  fromEntityReference : Option String
  toEntityReference : Option String
  fromFacilityReference : Option String
  toFacilityReference : Option String
  transportReference : Option String
  kdes : Json
  rawPayload : Json
  normalizedPayload : Json
  provenanceMetadata : Json
  confidenceScore : Python.Float
  status : EventStatus
  supersedesEventId : Option Uuid
  schemaVersion : String
  sha256Hash : Option String
  chainHash : Option String
  idempotencyKey : Option String
  epcisEventType : Option String
  epcisAction : Option String
  epcisBizStep : Option String
  amendedAt : Option Int

/- The domain of `fsma.cte_events.validation_status`. -/
inductive ValidationStatus where
  | valid
  | warning
  | rejected
  deriving DecidableEq

/- A row of `fsma.cte_events`. -/
structure CteEventRow where
  id : Uuid
  tenantId : Uuid
  eventType : CTEType
  traceabilityLotCode : String
  productDescription : String
  quantity : Python.Float
  unitOfMeasure : String
  locationGln : Option String
  locationName : Option String
  eventTimestamp : Int
  eventEntryTimestamp : Option Int
  source : String
  sourceEventId : Option String
  idempotencyKey : Option String
  sha256Hash : String
  chainHash : String
  epcisEventType : Option String
  epcisAction : Option String
  epcisBizStep : Option String
  validationStatus : ValidationStatus
  deriving DecidableEq

/- A row of `fsma.cte_kdes`; the value is its JSON text. -/
structure CteKdeRow where
  tenantId : Uuid
  cteEventId : Uuid
  kdeKey : String
  kdeValue : String
  isRequired : Bool
  deriving DecidableEq

/- A row of `fsma.hash_chain`. -/
structure HashChainRow where
  tenantId : Uuid
  cteEventId : Uuid
  sequenceNum : Int
  eventHash : String
  previousChainHash : Option String
  chainHash : String
  deriving DecidableEq

/- A row of `fsma.compliance_alerts`. -/
structure ComplianceAlertRow where
  tenantId : Uuid
  orgId : Uuid
  cteEventId : Uuid
  eventId : Uuid
  severity : Option String
  alertType : String
  title : Option String
  message : Option String
  deriving DecidableEq

/- A row of `fsma.transformation_links`. -/
structure TransformationLinkRow where
  tenantId : Uuid
  transformationEventId : Uuid
  inputTlc : String
  inputEventId : Option Uuid
  inputQuantity : Option Python.Float
  inputUnit : Option String
  outputTlc : String
  outputEventId : Uuid
  outputQuantity : Python.Float
  outputUnit : String
  processType : Option String
  confidenceScore : String
  linkSource : String
  deriving DecidableEq

/- A row of `billing.tenant_usage_event_ledger`. -/
structure UsageLedgerRow where
  tenantId : Uuid
  eventId : Uuid
  billingPeriodStart : CalendarDate
  deriving DecidableEq

/- A row of `billing.tenant_usage_counters`. -/
structure UsageCounterRow where
  tenantId : Uuid
  billingPeriodStart : CalendarDate
  billingPeriodEnd : CalendarDate
  unitCount : Nat
  deriving DecidableEq

/- The tables, each in the order of insertion. -/
structure Db where
  ingestionRuns : List (Uuid × Uuid)
  traceabilityEvents : List TraceabilityEventRow
  cteEvents : List CteEventRow
  cteKdes : List CteKdeRow
  hashChain : List HashChainRow
  complianceAlerts : List ComplianceAlertRow
  transformationLinks : List TransformationLinkRow
  usageEventLedger : List UsageLedgerRow
  usageCounters : List UsageCounterRow

/- A database without rows. -/
def Db.empty : Db where
  ingestionRuns := []
  traceabilityEvents := []
  cteEvents := []
  cteKdes := []
  hashChain := []
  complianceAlerts := []
  transformationLinks := []
  usageEventLedger := []
  usageCounters := []

--------
-- Constraints
--------

/- The error of a broken constraint. -/
def broken (constraint : String) : StoreError :=
  .integrityError constraint

/- Two keys of a unique index clash; `NULL` never does. -/
def sameKey (x y : Option String) : Bool :=
  match x, y with
  | some a, some b => a == b
  | _, _ => false

/- Different keys do not clash. -/
theorem sameKey_eq_false
    {x y : Option String}
    (hNe : x ≠ y) :
    sameKey x y = false := by
  cases x <;> cases y <;> simp_all [sameKey]

namespace TraceabilityEventRow

def constraints :
    Table.Constraints TraceabilityEventRow StoreError where
  check row :=
    if row.quantity.nonpos then
      some (broken "traceability_events_quantity_check")
    else
      none
  conflicts row other :=
    row.tenantId == other.tenantId &&
      sameKey row.idempotencyKey other.idempotencyKey
  violates row other :=
    if row.eventId = other.eventId then
      some (broken "traceability_events_pkey")
    else
      none

end TraceabilityEventRow

namespace CteEventRow

def constraints : Table.Constraints CteEventRow StoreError where
  check row :=
    if row.quantity.nonpos then
      some (broken "cte_events_quantity_check")
    else
      none
  conflicts row other :=
    row.tenantId == other.tenantId &&
      sameKey row.idempotencyKey other.idempotencyKey
  violates row other :=
    if row.id = other.id then
      some (broken "cte_events_pkey")
    else
      none

end CteEventRow

def CteKdeRow.constraints :
    Table.Constraints CteKdeRow StoreError where
  check _ := none
  conflicts row other :=
    row.cteEventId == other.cteEventId &&
      row.kdeKey == other.kdeKey
  violates _ _ := none

def HashChainRow.constraints :
    Table.Constraints HashChainRow StoreError where
  check _ := none
  conflicts _ _ := false
  violates row other :=
    if row.tenantId = other.tenantId ∧
        row.sequenceNum = other.sequenceNum then
      some (broken "hash_chain_tenant_id_sequence_num_key")
    else
      none

def ComplianceAlertRow.constraints :
    Table.Constraints ComplianceAlertRow StoreError where
  check row :=
    match row.severity, row.message with
    | some severity, some _ =>
        if severity ∈ ["critical", "warning", "info"] then
          none
        else
          some (broken "compliance_alerts_severity_check")
    | _, _ => some (broken "compliance_alerts_not_null")
  conflicts _ _ := false
  violates _ _ := none

def TransformationLinkRow.constraints :
    Table.Constraints TransformationLinkRow StoreError where
  check _ := none
  conflicts row other :=
    row.tenantId == other.tenantId &&
      row.transformationEventId ==
        other.transformationEventId &&
      row.inputTlc == other.inputTlc &&
      row.outputTlc == other.outputTlc
  violates _ _ := none

def UsageLedgerRow.constraints :
    Table.Constraints UsageLedgerRow StoreError where
  check _ := none
  conflicts row other :=
    row.tenantId == other.tenantId &&
      row.eventId == other.eventId
  violates _ _ := none

end RegEngine

--------
-- Statements
--------

namespace RegEngine

namespace Db

/- The references of a canonical row, checked at the end. -/
def checkReferences
    (db : Db)
    (row : TraceabilityEventRow) :
    Except StoreError Unit :=
  if row.ingestionRunId.any (fun run =>
      !db.ingestionRuns.contains (run, row.tenantId)) then
    .error (broken "fk_traceability_events_run_tenant")
  else if row.supersedesEventId.any (fun target =>
      !db.traceabilityEvents.any (fun other =>
        other.eventId == target)) then
    .error (broken "traceability_events_supersedes_event_id_fkey")
  else
    .ok ()

/-
  One `INSERT INTO fsma.traceability_events … ON CONFLICT
  (tenant_id, idempotency_key) DO NOTHING RETURNING`
  statement: the rows that landed are returned, and their
  references are checked when all rows are in.
-/
def insertTraceabilityEvents
    (db : Db)
    (rows : List TraceabilityEventRow) :
    Except StoreError (Db × List TraceabilityEventRow) := do
  let out ←
    Table.insertRows TraceabilityEventRow.constraints
      db.traceabilityEvents rows
  let inserted := { db with traceabilityEvents := out.1 }
  out.2.forM inserted.checkReferences
  return (inserted, out.2)

/-
  `INSERT INTO fsma.cte_events … ON CONFLICT (tenant_id,
  idempotency_key) DO NOTHING`; the flag tells whether the
  row landed.
-/
def insertCteEvent
    (db : Db)
    (row : CteEventRow) :
    Except StoreError (Db × Bool) := do
  let out ←
    Table.insertRow CteEventRow.constraints db.cteEvents row
  return ({ db with cteEvents := out.1 }, out.2)

/- `INSERT INTO fsma.cte_kdes … ON CONFLICT DO NOTHING`. -/
def insertCteKde
    (db : Db)
    (row : CteKdeRow) :
    Except StoreError Db :=
  if db.cteEvents.any (fun event =>
      event.id == row.cteEventId) then do
    let out ←
      Table.insertRow CteKdeRow.constraints db.cteKdes row
    return { db with cteKdes := out.1 }
  else
    .error (broken "cte_kdes_cte_event_id_fkey")

/- `INSERT INTO fsma.hash_chain`. -/
def insertChainEntry
    (db : Db)
    (row : HashChainRow) :
    Except StoreError Db := do
  let out ←
    Table.insertRow HashChainRow.constraints db.hashChain row
  return { db with hashChain := out.1 }

/-
  `INSERT INTO fsma.compliance_alerts` in a savepoint of its
  own: a row that is refused leaves the database as it was.
-/
def insertComplianceAlert
    (db : Db)
    (row : ComplianceAlertRow) :
    Db :=
  if db.cteEvents.any (fun event =>
      event.id == row.cteEventId) then
    match Table.insertRow ComplianceAlertRow.constraints
        db.complianceAlerts row with
    | .ok (table, _) => { db with complianceAlerts := table }
    | .error _ => db
  else
    db

/-
  `INSERT INTO fsma.transformation_links … ON CONFLICT DO
  NOTHING`.
-/
def insertTransformationLink
    (db : Db)
    (row : TransformationLinkRow) :
    Db :=
  match Table.insertRow TransformationLinkRow.constraints
      db.transformationLinks row with
  | .ok (table, _) => { db with transformationLinks := table }
  | .error _ => db

/- A tenant's chain rows. -/
def chainRows (db : Db) (tenantId : Uuid) : List HashChainRow :=
  db.hashChain.filter (fun row => row.tenantId == tenantId)

/- `ORDER BY sequence_num DESC LIMIT 1`. -/
def chainHead (db : Db) (tenantId : Uuid) :
    Option HashChainRow :=
  Table.maxBy HashChainRow.sequenceNum (db.chainRows tenantId)

/- The canonical row of a tenant under a key. -/
def findByKey (db : Db) (tenantId : Uuid) (key : String) :
    Option TraceabilityEventRow :=
  db.traceabilityEvents.find? (fun row =>
    row.tenantId == tenantId && row.idempotencyKey == some key)

/- The legacy row of a tenant under a key. -/
def findCteByKey (db : Db) (tenantId : Uuid) (key : String) :
    Option CteEventRow :=
  db.cteEvents.find? (fun row =>
    row.tenantId == tenantId && row.idempotencyKey == some key)

end Db

end RegEngine
