import Mathlib.Logic.Function.Basic
import RegEngine.Library.Json
import RegEngine.Library.Keyed

/-
  The compliance snapshots of one tenant
  (`compliance/app/snapshots.py`): how a row is frozen, sealed,
  attested and superseded, by any requests whose reads and
  writes come between those of the others.

  Main declarations:
    * `Snapshots.sealVersion`
    * `Snapshots.attestSnapshot`
    * `Snapshots.Store.step`
-/

--------
-- Rows And Seals
--------

namespace RegEngine

namespace Snapshots

/- The values of `snapshot_state`. -/
inductive SnapshotState where
  | valid
  | stale
  | invalid
  | superseded
  deriving DecidableEq

/-
  A row of `compliance_evidence_snapshots`; times are in
  microseconds.
-/
structure SnapshotRow where
  tenantId : String
  snapshotName : String
  snapshotReason : Option String
  createdBy : String
  triggerAlertId : Option String
  isAutoCreated : Bool
  deadline : Option Int
  regulatoryCitation : Option String
  isAttested : Bool
  attestedBy : Option String
  attestedAt : Option Int
  attestationTitle : Option String
  complianceStatus : String
  activeAlertCount : Int
  criticalAlertCount : Int
  contentHash : String
  snapshotState : SnapshotState
  degradationReason : Option String
  capturedAt : Int
  deriving DecidableEq

/- The values of `_V2_SEALED_FIELDS`. -/
structure Sealed where
  tenantId : String
  snapshotName : String
  snapshotReason : Option String
  createdBy : String
  capturedAt : String
  complianceStatus : String
  activeAlertCount : Int
  criticalAlertCount : Int
  triggerAlertId : Option String
  isAutoCreated : Bool
  deadline : Option String
  regulatoryCitation : Option String
  isAttested : Bool
  attestedBy : Option String
  attestedAt : Option String
  attestationTitle : Option String
  deriving DecidableEq

/-
  The tenant, the text of a time (`_iso`), and the hash of the
  compact JSON text of a payload.
-/
structure Env where
  tenantId : String
  iso : Int → String
  digest : Json → String

/- `_HASH_VERSION`. -/
def hashVersion : Nat :=
  2

/- An entry that is left out when it has no value. -/
def textEntry (key : String) (value : Option String) :
    List (String × Json) :=
  (value.map (fun text => (key, Json.str text))).toList

/- An entry of a whole number. -/
def intEntry (key : String) (value : Int) : String × Json :=
  (key, .scalar (.int value))

/- An entry of a truth value. -/
def boolEntry (key : String) (value : Bool) : String × Json :=
  (key, .scalar (.bool value))

/- The payload of `_content_hash_v2`. -/
def Sealed.payload (values : Sealed) : Json :=
  .obj
    ([intEntry "hash_version" hashVersion,
        ("tenant_id", .str values.tenantId),
        ("snapshot_name", .str values.snapshotName)] ++
      textEntry "snapshot_reason" values.snapshotReason ++
      [("created_by", .str values.createdBy),
        ("captured_at", .str values.capturedAt),
        ("compliance_status", .str values.complianceStatus),
        intEntry "active_alert_count" values.activeAlertCount,
        intEntry "critical_alert_count"
          values.criticalAlertCount] ++
      textEntry "trigger_alert_id" values.triggerAlertId ++
      [boolEntry "is_auto_created" values.isAutoCreated] ++
      textEntry "deadline" values.deadline ++
      textEntry "regulatory_citation"
        values.regulatoryCitation ++
      [boolEntry "is_attested" values.isAttested] ++
      textEntry "attested_by" values.attestedBy ++
      textEntry "attested_at" values.attestedAt ++
      textEntry "attestation_title" values.attestationTitle)

/- `_content_hash_v2`. -/
def contentHashV2 (env : Env) (values : Sealed) : String :=
  env.digest values.payload

/- `_content_hash_v1`. -/
def contentHashV1 (env : Env) (row : SnapshotRow) : String :=
  env.digest
    (.obj
      ([("tenant_id", .str row.tenantId),
          ("snapshot_name", .str row.snapshotName)] ++
        textEntry "snapshot_reason" row.snapshotReason ++
        [("created_by", .str row.createdBy),
          ("captured_at", .str (env.iso row.capturedAt))]))

/- `_sealed_values`. -/
def sealedValues (env : Env) (row : SnapshotRow) : Sealed where
  tenantId := row.tenantId
  snapshotName := row.snapshotName
  snapshotReason := row.snapshotReason
  createdBy := row.createdBy
  capturedAt := env.iso row.capturedAt
  complianceStatus := row.complianceStatus
  activeAlertCount := row.activeAlertCount
  criticalAlertCount := row.criticalAlertCount
  triggerAlertId := row.triggerAlertId
  isAutoCreated := row.isAutoCreated
  deadline := row.deadline.map env.iso
  regulatoryCitation := row.regulatoryCitation
  isAttested := row.isAttested
  attestedBy := row.attestedBy
  attestedAt := row.attestedAt.map env.iso
  attestationTitle := row.attestationTitle

/- `_seal_version`. -/
def sealVersion (env : Env) (row : SnapshotRow) : Option Nat :=
  if contentHashV2 env (sealedValues env row) =
      row.contentHash then
    some hashVersion
  else if contentHashV1 env row = row.contentHash then
    some 1
  else
    none

--------
-- What Requests Write
--------

/- The posture of the tenant, as it is frozen. -/
structure Posture where
  complianceStatus : String
  activeAlertCount : Int
  criticalAlertCount : Int
  degradationReason : Option String
  deriving DecidableEq

/- `_derive_status`. -/
def deriveStatus (activeCount criticalCount : Int) : String :=
  if 0 < criticalCount then "NON_COMPLIANT"
  else if 0 < activeCount then "AT_RISK"
  else "COMPLIANT"

/- `_STATUS_UNKNOWN`. -/
def statusUnknown : String :=
  "UNKNOWN"

/- `_COUNT_NOT_CAPTURED`. -/
def countNotCaptured : Int :=
  -1

/- `_POSTURE_UNREADABLE_REASON`. -/
def postureUnreadableReason : String :=
  "#2931: compliance posture could not be read at capture — " ++
    "recorded as NOT CAPTURED rather than assumed compliant"

/- `_LEGACY_POSTURE_REASON`. -/
def legacyPostureReason : String :=
  "#2931/#2966: frozen under the v1 seal, which never captured " ++
    "a compliance posture — the posture columns held DDL " ++
    "defaults and are recorded as NOT CAPTURED"

/-
  `_capture_posture`, from the counts of open and of critical
  alerts, if they can be read.
-/
def capturePosture : Option (Int × Int) → Posture
| none =>
    { complianceStatus := statusUnknown
      activeAlertCount := countNotCaptured
      criticalAlertCount := countNotCaptured
      degradationReason := some postureUnreadableReason }
| some (active, critical) =>
    { complianceStatus := deriveStatus active critical
      activeAlertCount := active
      criticalAlertCount := critical
      degradationReason := none }

/- The row of `_insert_snapshot` before it is sealed. -/
def unsealedRow
    (env : Env)
    (snapshotName : String)
    (snapshotReason : Option String)
    (createdBy : String)
    (capturedAt : Int)
    (posture : Posture) : SnapshotRow where
  tenantId := env.tenantId
  snapshotName := snapshotName
  snapshotReason := snapshotReason
  createdBy := createdBy
  triggerAlertId := none
  isAutoCreated := false
  deadline := none
  regulatoryCitation := none
  isAttested := false
  attestedBy := none
  attestedAt := none
  attestationTitle := none
  complianceStatus := posture.complianceStatus
  activeAlertCount := posture.activeAlertCount
  criticalAlertCount := posture.criticalAlertCount
  contentHash := ""
  snapshotState := .valid
  degradationReason := posture.degradationReason
  capturedAt := capturedAt

/- `_insert_snapshot`. -/
def insertedRow
    (env : Env)
    (snapshotName : String)
    (snapshotReason : Option String)
    (createdBy : String)
    (capturedAt : Int)
    (posture : Posture) : SnapshotRow :=
  let row := unsealedRow env snapshotName snapshotReason
    createdBy capturedAt posture
  { row with
    contentHash := contentHashV2 env (sealedValues env row) }

/- `SnapshotCreateRequest`. -/
structure SnapshotCreateRequest where
  snapshotName : String
  snapshotReason : Option String
  createdBy : String
  deriving DecidableEq

/- `SnapshotAttestRequest`. -/
structure SnapshotAttestRequest where
  attestedBy : String
  attestationTitle : String
  deriving DecidableEq

/- A refused request. -/
structure Refusal where
  status : Nat
  detail : String
  deriving DecidableEq

/- The columns that `attest_snapshot` updates. -/
structure Attestation where
  attestedBy : String
  attestationTitle : String
  attestedAt : Int
  complianceStatus : String
  activeAlertCount : Int
  criticalAlertCount : Int
  degradationReason : Option String
  contentHash : String
  deriving DecidableEq

/- The update of `attest_snapshot`; it asks for the id only. -/
def Attestation.write
    (attestation : Attestation)
    (stored : SnapshotRow) : SnapshotRow :=
  { stored with
    isAttested := true
    attestedBy := some attestation.attestedBy
    attestationTitle := some attestation.attestationTitle
    attestedAt := some attestation.attestedAt
    complianceStatus := attestation.complianceStatus
    activeAlertCount := attestation.activeAlertCount
    criticalAlertCount := attestation.criticalAlertCount
    degradationReason := attestation.degradationReason
    contentHash := attestation.contentHash }

/- `attest_snapshot`, from the row that it has read. -/
def attestSnapshot
    (env : Env)
    (row : SnapshotRow)
    (payload : SnapshotAttestRequest)
    (now : Int) : Except Refusal Attestation :=
  if row.snapshotState = .superseded then
    .error
      ⟨409, "Snapshot has been superseded; attest its successor " ++
        "instead"⟩
  else
    match sealVersion env row with
    | none =>
        .error
          ⟨409, "Snapshot failed integrity verification; " ++
            "refusing to attest"⟩
    | some version =>
        let values : Sealed :=
          { sealedValues env row with
            isAttested := true
            attestedBy := some payload.attestedBy
            attestedAt := some (env.iso now)
            attestationTitle := some payload.attestationTitle }
        -- the posture of a legacy row was never measured
        let values : Sealed :=
          if version = hashVersion then
            values
          else
            { values with
              complianceStatus := statusUnknown
              activeAlertCount := countNotCaptured
              criticalAlertCount := countNotCaptured }
        .ok
          { attestedBy := payload.attestedBy
            attestationTitle := payload.attestationTitle
            attestedAt := now
            complianceStatus := values.complianceStatus
            activeAlertCount := values.activeAlertCount
            criticalAlertCount := values.criticalAlertCount
            degradationReason :=
              if version = hashVersion then
                row.degradationReason
              else
                some legacyPostureReason
            contentHash := contentHashV2 env values }

/- The writes of `refreeze_snapshot`. -/
structure Refreeze where
  successor : SnapshotRow
  pointer : String
  deriving DecidableEq

/- The update of the row that is superseded, by its id only. -/
def Refreeze.write
    (refreeze : Refreeze)
    (stored : SnapshotRow) : SnapshotRow :=
  { stored with
    snapshotState := .superseded
    degradationReason := some refreeze.pointer }

/- `refreeze_snapshot`, from the row that it has read. -/
def refreezeSnapshot
    (env : Env)
    (row : SnapshotRow)
    (createdBy : Option String)
    (newId : String)
    (now : Int)
    (alerts : Option (Int × Int)) : Except Refusal Refreeze :=
  match sealVersion env row with
  | none =>
      .error
        ⟨409, "Snapshot failed integrity verification; refusing " ++
          "to refreeze"⟩
  | some _ =>
      if row.snapshotState = .superseded then
        .error
          ⟨409, "Snapshot has already been superseded; re-freeze " ++
            "its successor instead"⟩
      else
        .ok
          { successor :=
              insertedRow env row.snapshotName
                row.snapshotReason
                ((createdBy.filter (· ≠ "")).getD row.createdBy)
                now (capturePosture alerts)
            pointer :=
              "Superseded by snapshot " ++ newId ++
                " re-captured at " ++ env.iso now }

--------
-- Requests Under Way
--------

inductive Write where
  | attested (id : String)
  | superseded (id : String) (newId : String)
  deriving DecidableEq

/-
  The table, the row that each request under way has read, and
  the writes that were committed, oldest first.
-/
structure Store (ω : Type) where
  rows : Keyed String SnapshotRow
  read : ω → Option (String × SnapshotRow)
  history : List Write

/-
  The read of an attest or refreeze request, and the commit of
  its writes; a create request reads no row.
-/
inductive Action (ω : Type) where
  | create
      (newId : String)
      (now : Int)
      (payload : SnapshotCreateRequest)
      (alerts : Option (Int × Int))
  | fetch (request : ω) (id : String)
  | attest
      (request : ω)
      (now : Int)
      (payload : SnapshotAttestRequest)
  | refreeze
      (request : ω)
      (now : Int)
      (createdBy : Option String)
      (newId : String)
      (alerts : Option (Int × Int))
  deriving DecidableEq

variable {ω : Type} [DecidableEq ω]

/- A request has read a row, or has ended. -/
def Store.withRead
    (s : Store ω)
    (request : ω)
    (found : Option (String × SnapshotRow)) : Store ω :=
  { s with read := Function.update s.read request found }

/- The commit of an attestation. -/
def Store.attest
    (s : Store ω)
    (id : String)
    (attestation : Attestation) : Store ω :=
  { s with
    rows := s.rows.set id attestation.write
    history := s.history ++ [.attested id] }

/-
  The commit of a refreeze; an id that is taken fails the
  insert, and the transaction with it.
-/
def Store.refreeze
    (s : Store ω)
    (id newId : String)
    (refreeze : Refreeze) : Store ω :=
  match s.rows.find newId with
  | some _ => s
  | none =>
      { s with
        rows := (s.rows.add newId refreeze.successor).set id
          refreeze.write
        history := s.history ++ [.superseded id newId] }

def Store.step (env : Env) (s : Store ω) : Action ω → Store ω
| .create newId now payload alerts =>
    { s with
      rows := s.rows.add newId
        (insertedRow env payload.snapshotName
          payload.snapshotReason payload.createdBy now
          (capturePosture alerts)) }
| .fetch request id =>
    match s.rows.find id with
    | some row => s.withRead request (some (id, row))
    | none => s
| .attest request now payload =>
    match s.read request with
    | none => s
    | some (id, row) =>
        match attestSnapshot env row payload now with
        | .error _ => s.withRead request none
        | .ok attestation =>
            (s.attest id attestation).withRead request none
| .refreeze request now createdBy newId alerts =>
    match s.read request with
    | none => s
    | some (id, row) =>
        match refreezeSnapshot env row createdBy newId now
            alerts with
        | .error _ => s.withRead request none
        | .ok refreeze =>
            (s.refreeze id newId refreeze).withRead request none

def Store.run
    (env : Env)
    (s : Store ω)
    (actions : List (Action ω)) : Store ω :=
  actions.foldl (Store.step env) s

end Snapshots

end RegEngine
