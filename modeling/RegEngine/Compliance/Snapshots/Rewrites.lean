import RegEngine.Compliance.Snapshots.Seals

/-
  What the seals of the snapshots cover, over whole runs of
  requests and of direct rewrites of the table: a row that was
  sealed verifies, if at all, with the evidence that was
  sealed, and what `_serialize` shows as a captured posture was
  measured.

  Main declarations:
    * `Snapshots.serialize`
    * `Snapshots.Sealing.Covers`
    * `Snapshots.covers_run`
-/

--------
-- What Readers See
--------

namespace RegEngine

namespace Snapshots

section

/- `_STATE_EMOJI`. -/
def stateEmoji : SnapshotState → String
| .valid => "🟢"
| .stale => "🟠"
| .invalid => "🔴"
| .superseded => "⚪"

/- `_STATUS_EMOJI.get(status, "❓")`. -/
def statusEmoji (status : String) : String :=
  if status = "COMPLIANT" then "✅"
  else if status = "AT_RISK" then "⚠️"
  else if status = "NON_COMPLIANT" then "🚨"
  else "❓"

/- `_STATUS_NOT_CAPTURED`. -/
def statusNotCaptured : String :=
  "NOT_CAPTURED"

/- `_SEAL_COVERAGE.get(version)`. -/
def sealCoverage : Option Nat → Option String
| some 2 =>
    some "identity, captured compliance posture and attestation"
| some 1 =>
    some ("identity fields only; compliance posture and " ++
      "attestation are NOT sealed (legacy v1 seal)")
| _ => none

/-
  The answer of `_serialize`, but for what it measures from the
  clock (the countdown and the age).
-/
structure Serialized where
  id : String
  tenantId : String
  snapshotName : String
  snapshotReason : Option String
  createdBy : String
  triggerAlertId : Option String
  isAutoCreated : Bool
  deadline : Option String
  regulatoryCitation : Option String
  isAttested : Bool
  attestedBy : Option String
  attestedAt : Option String
  attestationTitle : Option String
  attestationPrecedesCapture : Bool
  complianceStatus : String
  complianceStatusEmoji : String
  activeAlertCount : Option Int
  criticalAlertCount : Option Int
  postureCaptured : Bool
  contentHash : String
  integrityVerified : Bool
  hashVersion : Option Nat
  integrityCoverage : Option String
  snapshotState : SnapshotState
  stateEmoji : String
  degradationReason : Option String
  capturedAt : String
  deriving DecidableEq

/- `_serialize`. -/
def serialize
    (env : Env)
    (id : String)
    (row : SnapshotRow) : Serialized :=
  let version := sealVersion env row
  let postureCaptured : Bool :=
    version = some hashVersion ∧
      row.complianceStatus ≠ statusUnknown ∧
      0 ≤ row.activeAlertCount ∧ 0 ≤ row.criticalAlertCount
  let status :=
    if postureCaptured then row.complianceStatus
    else statusNotCaptured
  { id := id
    tenantId := row.tenantId
    snapshotName := row.snapshotName
    snapshotReason := row.snapshotReason
    createdBy := row.createdBy
    triggerAlertId := row.triggerAlertId
    isAutoCreated := row.isAutoCreated
    deadline := row.deadline.map env.iso
    regulatoryCitation := row.regulatoryCitation
    isAttested := row.isAttested
    attestedBy := row.attestedBy
    attestedAt := row.attestedAt.map env.iso
    attestationTitle := row.attestationTitle
    attestationPrecedesCapture :=
      row.attestedAt.any (· < row.capturedAt)
    complianceStatus := status
    complianceStatusEmoji := statusEmoji status
    activeAlertCount :=
      if postureCaptured then some row.activeAlertCount
      else none
    criticalAlertCount :=
      if postureCaptured then some row.criticalAlertCount
      else none
    postureCaptured := postureCaptured
    contentHash := row.contentHash
    integrityVerified := version.isSome
    hashVersion := version
    integrityCoverage := sealCoverage version
    snapshotState := row.snapshotState
    stateEmoji := stateEmoji row.snapshotState
    degradationReason := row.degradationReason
    capturedAt := env.iso row.capturedAt }

/- A posture is shown as captured under a v2 seal only. -/
theorem of_postureCaptured
    {env : Env}
    {id : String}
    {row : SnapshotRow}
    (hCaptured : (serialize env id row).postureCaptured = true) :
    sealVersion env row = some hashVersion ∧
      row.complianceStatus ≠ statusUnknown := by
  have hParts := of_decide_eq_true hCaptured
  exact ⟨hParts.1, hParts.2.1⟩

--------
-- Requests And Rewrites
--------

/- The counts of alerts that were read at some time. -/
structure Capture where
  capturedAt : Int
  counts : Int × Int
  deriving DecidableEq

/-
  The table with its requests, beside it the evidence that was
  last sealed under each id and the counts that were read.
-/
structure Sealing (ω : Type) where
  store : Store ω
  sealed : String → Option SnapshotRow
  captures : List Capture

/-
  A step of some request, or a direct rewrite: the row under an
  id gets other columns, its hash apart, and maybe another id.
-/
inductive Event (ω : Type) where
  | request (action : Action ω)
  | rewrite (id newId : String) (columns : SnapshotRow)

variable {ω : Type} [DecidableEq ω]

/- The evidence that a step seals, and the id it stands under. -/
def Store.seals
    (env : Env)
    (s : Store ω) :
    Action ω → Option (String × SnapshotRow)
| .create newId now payload alerts =>
    match s.rows.find newId with
    | some _ => none
    | none =>
        some (newId,
          (insertedRow env payload.snapshotName
            payload.snapshotReason payload.createdBy now
            (capturePosture alerts)).evidence)
| .fetch _ _ => none
| .attest request now payload =>
    match s.read request with
    | none => none
    | some (id, row) =>
        match attestSnapshot env row payload now with
        | .error _ => none
        | .ok attestation =>
            some (id, (attestation.write row).evidence)
| .refreeze request now createdBy newId alerts =>
    match s.read request with
    | none => none
    | some (_, row) =>
        match refreezeSnapshot env row createdBy newId now
            alerts with
        | .error _ => none
        | .ok refreeze =>
            match s.rows.find newId with
            | some _ => none
            | none => some (newId, refreeze.successor.evidence)

/- The counts that a step reads. -/
def Store.capture
    (env : Env)
    (s : Store ω) : Action ω → Option Capture
| .create _ now _ alerts => alerts.map (Capture.mk now)
| .fetch _ _ => none
| .attest _ _ _ => none
| .refreeze request now createdBy newId alerts =>
    match s.read request with
    | none => none
    | some (_, row) =>
        match refreezeSnapshot env row createdBy newId now
            alerts with
        | .error _ => none
        | .ok _ => alerts.map (Capture.mk now)

/- A row with other columns under the hash that it has. -/
def SnapshotRow.rewritten
    (columns stored : SnapshotRow) : SnapshotRow :=
  { columns with contentHash := stored.contentHash }

/- The columns of the row under an id are rewritten. -/
def Store.rewrite
    (s : Store ω)
    (id : String)
    (columns : SnapshotRow) : Store ω :=
  { s with rows := s.rows.set id columns.rewritten }

/- The row under an id gets another id. -/
def Store.rekey
    (s : Store ω)
    (id newId : String) : Store ω :=
  { s with rows := s.rows.rekey id newId }

/-
  One step. A rewrite with an id that another row has fails as
  a whole.
-/
def Sealing.step (env : Env) (t : Sealing ω) :
    Event ω → Sealing ω
| .request action =>
    { store := t.store.step env action
      sealed :=
        match t.store.seals env action with
        | none => t.sealed
        | some (id, evidence) =>
            Function.update t.sealed id (some evidence)
      captures :=
        t.captures ++ (t.store.capture env action).toList }
| .rewrite id newId columns =>
    if newId = id then
      { t with store := t.store.rewrite id columns }
    else
      match t.store.rows.find newId with
      | some _ => t
      | none =>
          { t with
            store :=
              (t.store.rewrite id columns).rekey id newId
            sealed :=
              Function.update t.sealed newId (t.sealed id) }

/- A run of requests and rewrites. -/
def Sealing.run
    (env : Env)
    (t : Sealing ω)
    (events : List (Event ω)) : Sealing ω :=
  events.foldl (Sealing.step env) t

/- Before the first request: the rows that are there. -/
def Sealing.start (rows : Keyed String SnapshotRow) :
    Sealing ω where
  store :=
    { rows := rows, read := fun _ => none, history := [] }
  sealed := fun _ => none
  captures := []

/- The counts of a row are those of a capture. -/
def SnapshotRow.ShowsCapture
    (row : SnapshotRow)
    (capture : Capture) : Prop :=
  row.capturedAt = capture.capturedAt ∧
    row.complianceStatus =
      (capturePosture (some capture.counts)).complianceStatus ∧
    row.activeAlertCount = capture.counts.1 ∧
    row.criticalAlertCount = capture.counts.2

/-
  What the seals cover: the evidence last sealed under the id
  of a row, and the postures that readers are shown.
-/
structure Sealing.Covers
    (env : Env)
    (t : Sealing ω) : Prop where
  sealed :
    ∀ id row, t.store.rows.find id = some row →
      ∀ evidence, t.sealed id = some evidence →
        ∀ version, sealVersion env row = some version →
          version = hashVersion ∧ row.evidence = evidence
  measured :
    ∀ id row, t.store.rows.find id = some row →
      (serialize env id row).postureCaptured = true →
        ∃ capture ∈ t.captures, row.ShowsCapture capture

end

--------
-- Where A Hash Comes From
--------

section

def SnapshotRow.Measured
    (row : SnapshotRow)
    (captures : List Capture) : Prop :=
  row.complianceStatus = statusUnknown ∨
    ∃ capture ∈ captures, row.ShowsCapture capture

/-
  A hash is the v2 digest of the evidence that was sealed, its
  posture measured; or no evidence was sealed, and it is the v1
  digest of some row.
-/
def Origin
    (env : Env)
    (captures : List Capture)
    (hash : String) : Option SnapshotRow → Prop
| some evidence =>
    hash = contentHashV2 env (sealedValues env evidence) ∧
      evidence.evidence = evidence ∧
      evidence.Measured captures
| none => ∃ was, hash = contentHashV1 env was

variable {captures : List Capture} {env : Env} {now : Int}
variable {sealed : Option SnapshotRow}
variable {payload : SnapshotAttestRequest}

/- Later captures leave the origin of a hash. -/
theorem Origin.append
    {hash : String}
    (hOrigin : Origin env captures hash sealed)
    (later : List Capture) :
    Origin env (captures ++ later) hash sealed := by
  cases sealed with
  | none => exact hOrigin
  | some evidence =>
    rcases hOrigin with ⟨hHash, hEvidence, hMeasured⟩
    refine ⟨hHash, hEvidence, ?_⟩
    rcases hMeasured with hUnknown | ⟨capture, hMem, hShows⟩
    · exact Or.inl hUnknown
    · exact Or.inr
        ⟨capture, List.mem_append_left later hMem, hShows⟩

/- Rows with one evidence show one posture. -/
theorem SnapshotRow.Measured.of_evidence_eq
    {row row' : SnapshotRow}
    (hMeasured : row'.Measured captures)
    (hEq : row.evidence = row'.evidence) :
    row.Measured captures := by
  change row.evidence.Measured captures
  rw [hEq]
  exact hMeasured

variable {tenantId : String} {sha256 : String → String}

/- A row that verifies as v2 has a posture that was measured. -/
theorem Origin.measured
    (hHash : Function.Injective sha256)
    {row : SnapshotRow}
    (hOrigin :
      Origin (serviceEnv tenantId sha256) captures
        row.contentHash sealed)
    (hVersion :
      sealVersion (serviceEnv tenantId sha256) row =
        some hashVersion) :
    row.Measured captures := by
  cases sealed with
  | none =>
    rcases hOrigin with ⟨was, hStored⟩
    exact absurd hVersion (sealVersion_legacy hHash hStored)
  | some evidence =>
    rcases hOrigin with ⟨hStored, -, hMeasured⟩
    exact hMeasured.of_evidence_eq
      (evidence_of_sealVersion hHash hStored hVersion).2

/- An inserted row is sealed over what was just measured. -/
theorem origin_insertedRow
    (env : Env)
    (captures : List Capture)
    (snapshotName : String)
    (snapshotReason : Option String)
    (createdBy : String)
    (now : Int)
    (alerts : Option (Int × Int)) :
    Origin env
      (captures ++ (alerts.map (Capture.mk now)).toList)
      (insertedRow env snapshotName snapshotReason createdBy
        now (capturePosture alerts)).contentHash
      (some
        (insertedRow env snapshotName snapshotReason createdBy
          now (capturePosture alerts)).evidence) := by
  refine ⟨rfl, rfl, ?_⟩
  cases alerts with
  | none => exact Or.inl rfl
  | some counts =>
    refine Or.inr ⟨⟨now, counts⟩, ?_, rfl, rfl, rfl, rfl⟩
    exact List.mem_append_right _ (List.mem_singleton.mpr rfl)

/- The hash of an attestation is that of the row it is about. -/
theorem contentHash_attestation
    {row : SnapshotRow}
    {attestation : Attestation}
    (hAttest :
      attestSnapshot env row payload now = .ok attestation) :
    attestation.contentHash =
      contentHashV2 env
        (sealedValues env (attestation.write row)) := by
  unfold attestSnapshot at hAttest
  split at hAttest
  · cases hAttest
  · split at hAttest
    · cases hAttest
    · rename_i version hVersion
      by_cases hNow : version = hashVersion
      · simp only [if_pos hNow] at hAttest
        rw [← Except.ok.inj hAttest]
        rfl
      · simp only [if_neg hNow] at hAttest
        rw [← Except.ok.inj hAttest]
        rfl

/-
  An attestation keeps the posture of a v2 row, and says of a
  legacy row that its posture is unknown.
-/
theorem posture_attestation
    {row : SnapshotRow}
    {attestation : Attestation}
    (hAttest :
      attestSnapshot env row payload now = .ok attestation) :
    (attestation.write row).complianceStatus =
        statusUnknown ∨
      sealVersion env row = some hashVersion ∧
        ∀ captures, row.Measured captures →
          (attestation.write row).Measured captures := by
  unfold attestSnapshot at hAttest
  split at hAttest
  · cases hAttest
  · split at hAttest
    · cases hAttest
    · rename_i version hVersion
      by_cases hNow : version = hashVersion
      · simp only [if_pos hNow] at hAttest
        rw [← Except.ok.inj hAttest]
        right
        rw [hVersion, hNow]
        exact ⟨rfl, fun captures hMeasured => hMeasured⟩
      · simp only [if_neg hNow] at hAttest
        rw [← Except.ok.inj hAttest]
        exact Or.inl rfl

/- An attested row is sealed over a posture that is known. -/
theorem Origin.attestation
    (hHash : Function.Injective sha256)
    {captures : List Capture}
    {row : SnapshotRow}
    {now : Int}
    {attestation : Attestation}
    (hOrigin :
      Origin (serviceEnv tenantId sha256) captures
        row.contentHash sealed)
    (hAttest :
      attestSnapshot (serviceEnv tenantId sha256) row payload
        now = .ok attestation) :
    Origin (serviceEnv tenantId sha256) captures
      attestation.contentHash
      (some (attestation.write row).evidence) := by
  have hSealed := contentHash_attestation hAttest
  refine ⟨hSealed, rfl, ?_⟩
  rcases posture_attestation hAttest with
    hUnknown | ⟨hVersion, hKept⟩
  · exact Or.inl hUnknown
  · exact hKept captures (hOrigin.measured hHash hVersion)

/- The successor of a row is one that was just inserted. -/
theorem origin_successor
    {row : SnapshotRow}
    {createdBy : Option String}
    {newId : String}
    {alerts : Option (Int × Int)}
    {refreeze : Refreeze}
    (hRefreeze :
      refreezeSnapshot env row createdBy newId now alerts =
        .ok refreeze)
    (captures : List Capture) :
    Origin env
      (captures ++ (alerts.map (Capture.mk now)).toList)
      refreeze.successor.contentHash
      (some refreeze.successor.evidence) := by
  unfold refreezeSnapshot at hRefreeze
  split at hRefreeze
  · cases hRefreeze
  · split at hRefreeze
    · cases hRefreeze
    · rw [← Except.ok.inj hRefreeze]
      exact origin_insertedRow env captures _ _ _ now alerts

end

--------
-- Steps
--------

section

variable {ω : Type}

/- Every hash that is stored or was read has an origin. -/
structure Sealing.Inv
    (env : Env)
    (t : Sealing ω) : Prop where
  rows :
    ∀ id row, t.store.rows.find id = some row →
      Origin env t.captures row.contentHash (t.sealed id)
  read :
    ∀ request id row, t.store.read request = some (id, row) →
      ∃ sealed, Origin env t.captures row.contentHash sealed

variable {env : Env}

/- Later captures keep the invariant. -/
theorem Sealing.Inv.append
    {t : Sealing ω}
    (hInv : t.Inv env)
    (later : List Capture) :
    Sealing.Inv env
      { t with captures := t.captures ++ later } := by
  refine ⟨?_, ?_⟩
  · intro id row hFind
    exact (hInv.rows id row hFind).append later
  · intro request id row hRead
    rcases hInv.read request id row hRead with
      ⟨sealed, hOrigin⟩
    exact ⟨sealed, hOrigin.append later⟩

/- The history of the writes has no part in it. -/
theorem Sealing.Inv.withHistory
    {t : Sealing ω}
    (hInv : t.Inv env)
    (history : List Write) :
    Sealing.Inv env
      { t with
        store := { t.store with history := history } } :=
  ⟨hInv.rows, hInv.read⟩

variable {newId : String} {t : Sealing ω}

/- A row is inserted under a free id and sealed. -/
theorem Sealing.Inv.add
    {t : Sealing ω}
    (hInv : t.Inv env)
    (hFree : t.store.rows.find newId = none)
    {row evidence : SnapshotRow}
    (hOrigin :
      Origin env t.captures row.contentHash (some evidence)) :
    Sealing.Inv env
      { t with
        store :=
          { t.store with rows := t.store.rows.add newId row }
        sealed :=
          Function.update t.sealed newId (some evidence) } := by
  refine ⟨?_, hInv.read⟩
  intro id found hFind
  rcases (Keyed.find_add_eq_some hFree).mp hFind with
    ⟨rfl, rfl⟩ | hOld
  · dsimp only
    rw [Function.update_self]
    exact hOrigin
  · have hNe : id ≠ newId := by
      rintro rfl
      rw [hFree] at hOld
      cases hOld
    dsimp only
    rw [Function.update_of_ne hNe]
    exact hInv.rows id found hOld

/- A row is updated, its hash is kept. -/
theorem Sealing.Inv.set
    {t : Sealing ω}
    (hInv : t.Inv env)
    (id : String)
    (write : SnapshotRow → SnapshotRow)
    (hHash : ∀ row, (write row).contentHash = row.contentHash) :
    Sealing.Inv env
      { t with
        store :=
          { t.store with rows := t.store.rows.set id write } } := by
  refine ⟨?_, hInv.read⟩
  intro other row hFind
  rcases Keyed.find_set_eq_some.mp hFind with
    ⟨before, hBefore, rfl⟩
  have hOrigin := hInv.rows other before hBefore
  split
  · rw [hHash]
    exact hOrigin
  · exact hOrigin

/- A row is updated and sealed. -/
theorem Sealing.Inv.seal
    {t : Sealing ω}
    (hInv : t.Inv env)
    (id : String)
    (write : SnapshotRow → SnapshotRow)
    {evidence : SnapshotRow}
    (hOrigin : ∀ row,
      Origin env t.captures (write row).contentHash
        (some evidence)) :
    Sealing.Inv env
      { t with
        store :=
          { t.store with rows := t.store.rows.set id write }
        sealed :=
          Function.update t.sealed id (some evidence) } := by
  refine ⟨?_, hInv.read⟩
  intro other row hFind
  rcases Keyed.find_set_eq_some.mp hFind with
    ⟨before, hBefore, rfl⟩
  by_cases hSame : other = id
  · dsimp only
    rw [if_pos hSame, hSame, Function.update_self]
    exact hOrigin before
  · dsimp only
    rw [if_neg hSame, Function.update_of_ne hSame]
    exact hInv.rows other before hBefore

/- A row gets another id, and what was sealed goes with it. -/
theorem Sealing.Inv.rekey
    {t : Sealing ω}
    (hInv : t.Inv env)
    (id : String)
    (hFree : t.store.rows.find newId = none) :
    Sealing.Inv env
      { t with
        store := t.store.rekey id newId
        sealed :=
          Function.update t.sealed newId (t.sealed id) } := by
  refine ⟨?_, hInv.read⟩
  intro other row hFind
  rcases Keyed.find_rekey_eq_some hFree hFind with
    ⟨rfl, hMoved⟩ | ⟨-, hOld⟩
  · dsimp only
    rw [Function.update_self]
    exact hInv.rows id row hMoved
  · have hNe : other ≠ newId := by
      rintro rfl
      rw [hFree] at hOld
      cases hOld
    dsimp only
    rw [Function.update_of_ne hNe]
    exact hInv.rows other row hOld

variable [DecidableEq ω]

/- A request ends, or reads a row. -/
theorem Sealing.Inv.withRead
    {t : Sealing ω}
    (hInv : t.Inv env)
    (request : ω)
    {found : Option (String × SnapshotRow)}
    (hFound : ∀ id row, found = some (id, row) →
      ∃ sealed, Origin env t.captures row.contentHash sealed) :
    Sealing.Inv env
      { t with store := t.store.withRead request found } := by
  refine ⟨hInv.rows, ?_⟩
  intro other id row hRead
  change Function.update _ _ _ _ = _ at hRead
  by_cases hSame : other = request
  · rw [hSame, Function.update_self] at hRead
    exact hFound id row hRead
  · rw [Function.update_of_ne hSame] at hRead
    exact hInv.read other id row hRead

theorem Sealing.Inv.endRead
    {t : Sealing ω}
    (hInv : t.Inv env)
    (request : ω) :
    Sealing.Inv env
      { t with store := t.store.withRead request none } :=
  hInv.withRead request (by simp)

variable {tenantId : String} {sha256 : String → String}

/- The step of a request keeps the invariant. -/
theorem Sealing.Inv.request
    (hHash : Function.Injective sha256)
    (hInv : t.Inv (serviceEnv tenantId sha256))
    (action : Action ω) :
    (t.step (serviceEnv tenantId sha256)
      (.request action)).Inv (serviceEnv tenantId sha256) := by
  cases action with
  | create newId now payload alerts =>
    have hLater := hInv.append
      (alerts.map (Capture.mk now)).toList
    simp only [Sealing.step, Store.step, Store.seals,
      Store.capture]
    cases hTaken : t.store.rows.find newId with
    | some taken =>
      rw [Keyed.add_eq_self hTaken]
      exact hLater
    | none =>
      exact hLater.add hTaken
        (origin_insertedRow _ t.captures _ _ _ now alerts)
  | fetch request id =>
    simp only [Sealing.step, Store.step, Store.seals,
      Store.capture]
    cases hFind : t.store.rows.find id with
    | none => exact hInv.append []
    | some row =>
      refine (hInv.append []).withRead request ?_
      intro id' row' hFound
      rw [Option.some.injEq, Prod.mk.injEq] at hFound
      rcases hFound with ⟨rfl, rfl⟩
      exact ⟨_, (hInv.rows id row hFind).append []⟩
  | attest request now payload =>
    simp only [Sealing.step, Store.step, Store.seals,
      Store.capture]
    cases hRead : t.store.read request with
    | none => exact hInv.append []
    | some found =>
      rcases found with ⟨id, row⟩
      rcases hInv.read request id row hRead with
        ⟨sealed, hOrigin⟩
      dsimp only
      cases hAttest :
          attestSnapshot (serviceEnv tenantId sha256) row
            payload now with
      | error refusal => exact (hInv.append []).endRead request
      | ok attestation =>
        have hSealed := (hOrigin.append []).attestation hHash
          hAttest
        have hNext := (hInv.append []).seal id
          attestation.write (fun _ => hSealed)
        exact (hNext.withHistory _).endRead request
  | refreeze request now createdBy newId alerts =>
    simp only [Sealing.step, Store.step, Store.seals,
      Store.capture]
    cases hRead : t.store.read request with
    | none => exact hInv.append []
    | some found =>
      rcases found with ⟨id, row⟩
      dsimp only
      cases hRefreeze :
          refreezeSnapshot (serviceEnv tenantId sha256) row
            createdBy newId now alerts with
      | error refusal => exact (hInv.append []).endRead request
      | ok refreeze =>
        have hLater := hInv.append
          (alerts.map (Capture.mk now)).toList
        cases hTaken : t.store.rows.find newId with
        | some taken =>
          simp only [Store.refreeze, hTaken]
          exact hLater.endRead request
        | none =>
          simp only [Store.refreeze, hTaken]
          have hAdded := hLater.add hTaken
            (origin_successor hRefreeze t.captures)
          have hNext := hAdded.set id refreeze.write
            (fun _ => rfl)
          exact (hNext.withHistory _).endRead request

/- Every step keeps the invariant. -/
theorem Sealing.Inv.step
    (hHash : Function.Injective sha256)
    (hInv : t.Inv (serviceEnv tenantId sha256))
    (event : Event ω) :
    (t.step (serviceEnv tenantId sha256) event).Inv
      (serviceEnv tenantId sha256) := by
  cases event with
  | request action => exact hInv.request hHash action
  | rewrite id newId columns =>
    have hRewritten := hInv.set id columns.rewritten
      (fun _ => rfl)
    simp only [Sealing.step]
    split
    · exact hRewritten
    · split
      · exact hInv
      · rename_i hFree
        refine hRewritten.rekey id ?_
        have hFind := Keyed.find_set t.store.rows id newId
          columns.rewritten
        rw [hFree, Option.map_none, ite_self] at hFind
        exact hFind

end

--------
-- Runs
--------

variable {tenantId : String} {sha256 : String → String}

/- What the origins of the hashes say of the rows. -/
theorem Sealing.Inv.covers
    {ω : Type}
    (hHash : Function.Injective sha256)
    {t : Sealing ω}
    (hInv : t.Inv (serviceEnv tenantId sha256)) :
    t.Covers (serviceEnv tenantId sha256) := by
  refine ⟨?_, ?_⟩
  · intro id row hFind evidence hSealed version hVersion
    have hOrigin := hInv.rows id row hFind
    rw [hSealed] at hOrigin
    rcases hOrigin with ⟨hStored, hEvidence, -⟩
    rcases evidence_of_sealVersion hHash hStored hVersion with
      ⟨hNow, hSame⟩
    exact ⟨hNow, hSame.trans hEvidence⟩
  · intro id row hFind hCaptured
    rcases of_postureCaptured hCaptured with
      ⟨hVersion, hKnown⟩
    have hOrigin := hInv.rows id row hFind
    rcases hOrigin.measured hHash hVersion with
      hUnknown | hShown
    · exact absurd hUnknown hKnown
    · exact hShown

/-
  From the rows of the v1 seal on, whatever is requested and
  rewritten: a row that was sealed verifies as v2 over the
  evidence that was sealed, or not at all, and a posture that
  is shown as captured was measured.
-/
theorem covers_run
    {ω : Type}
    [DecidableEq ω]
    (hHash : Function.Injective sha256)
    {rows : Keyed String SnapshotRow}
    (hLegacy : ∀ id row, rows.find id = some row →
      ∃ was, row.contentHash =
        contentHashV1 (serviceEnv tenantId sha256) was)
    (events : List (Event ω)) :
    ((Sealing.start rows).run (serviceEnv tenantId sha256)
      events).Covers (serviceEnv tenantId sha256) := by
  have hStart : (Sealing.start (ω := ω) rows).Inv
      (serviceEnv tenantId sha256) := by
    refine ⟨hLegacy, ?_⟩
    intro request id row hRead
    cases hRead
  apply Sealing.Inv.covers hHash
  exact Machine.foldl_keeps
    (fun t event hInv => hInv.step hHash event) events hStart

/- A row of the v1 seal, without its hash. -/
def legacyRow : SnapshotRow where
  tenantId := "tenant"
  snapshotName := "Audit"
  snapshotReason := none
  createdBy := "ops"
  triggerAlertId := none
  isAutoCreated := false
  deadline := none
  regulatoryCitation := none
  isAttested := false
  attestedBy := none
  attestedAt := none
  attestationTitle := none
  complianceStatus := "COMPLIANT"
  activeAlertCount := 0
  criticalAlertCount := 0
  contentHash := ""
  snapshotState := .valid
  degradationReason := none
  capturedAt := 63929649600000000

/- The texts that are hashed when it is attested. -/
def legacyText : String :=
  "\x7b\"tenant_id\":\"tenant\",\"snapshot_name\":\"A" ++
    "udit\",\"created_by\":\"ops\",\"captured_at\":\"20" ++
    "26-01-05T12:00:00+00:00\"\x7d"

def attestedText : String :=
  "\x7b\"hash_version\":2,\"tenant_id\":\"tenant\",\"" ++
    "snapshot_name\":\"Audit\",\"created_by\":\"ops\"," ++
    "\"captured_at\":\"2026-01-05T12:00:00+00:00\",\"co" ++
    "mpliance_status\":\"UNKNOWN\",\"active_alert_count" ++
    "\":-1,\"critical_alert_count\":-1,\"is_auto_create" ++
    "d\":false,\"is_attested\":true,\"attested_by\":\"q" ++
    "a\",\"attested_at\":\"2026-01-05T12:00:01+00:00\"," ++
    "\"attestation_title\":\"QA Lead\"\x7d"

/-
  A hash without collisions that gives these texts the digests
  that SHA-256 gives them.
-/
def sampleSha256 (text : String) : String :=
  if text = legacyText then
    "9c2b317664ebcf3403c215c121289cb1" ++
      "95e729577c061915e10a51318b7bb528"
  else if text = attestedText then
    "a231fe8d3cf69da828f130d5bd23da9c" ++
      "077457dd960390d1a5fa937c922d17cc"
  else "#" ++ text

theorem sampleSha256_injective :
    Function.Injective sampleSha256 := by
  have hTagged : ∀ (text digest : String),
      digest.toList.head? ≠ some '#' →
        digest ≠ "#" ++ text := by
    intro text digest hHead hEq
    rw [hEq, String.toList_append] at hHead
    exact hHead rfl
  intro x y hEq
  unfold sampleSha256 at hEq
  split at hEq
  · rename_i hX
    split at hEq
    · rename_i hY
      rw [hX, hY]
    split at hEq
    · exact absurd hEq (by decide)
    · exact absurd hEq (hTagged y _ (by decide))
  · split at hEq
    · rename_i hX
      split at hEq
      · exact absurd hEq (by decide)
      split at hEq
      · rename_i hY
        rw [hX, hY]
      · exact absurd hEq (hTagged y _ (by decide))
    · split at hEq
      · exact absurd hEq.symm (hTagged x _ (by decide))
      split at hEq
      · exact absurd hEq.symm (hTagged x _ (by decide))
      · exact String.append_right_inj "#" |>.mp hEq

/- A table with that row, sealed as v1. -/
def legacyRows : Keyed String SnapshotRow :=
  Keyed.empty.add "a"
    { legacyRow with
      contentHash :=
        contentHashV1 (serviceEnv "tenant" sampleSha256)
          legacyRow }

/- The row is attested; then its posture is rewritten. -/
def forgedPosture : List (Event Bool) :=
  [.request (.fetch true "a"),
    .request (.attest true 63929649601000000 ⟨"qa", "QA Lead"⟩),
    .rewrite "a" "a" legacyRow]

/- The rewritten row does not pass for the attested one. -/
theorem covers_run_forgedPosture :
    ((Sealing.start legacyRows).run
      (serviceEnv "tenant" sampleSha256) forgedPosture).Covers
        (serviceEnv "tenant" sampleSha256) := by
  apply covers_run sampleSha256_injective
  intro id row hFind
  rcases (Keyed.find_add_eq_some rfl).mp hFind with
    ⟨-, rfl⟩ | hNone
  · exact ⟨legacyRow, rfl⟩
  · cases hNone

end Snapshots

end RegEngine
