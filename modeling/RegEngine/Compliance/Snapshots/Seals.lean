import RegEngine.Compliance.Snapshots.Lineage
import RegEngine.Library.Datetime
import RegEngine.Library.Json.Literal

/-
  What a seal says about the row that it was computed for. The
  payload of a v2 seal gives all sealed values back, none of
  the payloads of a v1 seal is one of v2, and under a hash
  without collisions a row that verifies as v2 has the evidence
  that its hash was computed from.

  Main declarations:
    * `Snapshots.serviceEnv`
    * `Snapshots.SnapshotRow.evidence`
    * `Snapshots.Sealed.ofPayload_payload`
-/

--------
-- Texts Of The Service
--------

namespace RegEngine

namespace Snapshots

/-
  `_iso`, of an instant in microseconds from 1 March of year 0.
  An instant beyond the years 1 to 9999 has no `datetime`; no
  row with one can be read.
-/
def isoText (instant : Int) : String :=
  match Datetime.ofInstant instant 0 with
  | some stamp => stamp.isoformat
  | none => toString instant

/- A tenant of the service, with the hash that it uses. -/
def serviceEnv
    (tenantId : String)
    (sha256 : String → String) : Env where
  tenantId := tenantId
  iso := isoText
  digest := fun payload => sha256 payload.dumpsLiteral

/- Instants with one text are equal. -/
theorem isoText_injective :
    Function.Injective isoText := by
  -- only the text of a time stamp has a `T`
  have hNe : ∀ (stamp : Datetime) (n : Int),
      stamp.isoformat ≠ toString n := by
    intro stamp n hEq
    have hT : 'T' ∈ stamp.isoformat.toList := by
      rw [Datetime.isoformat, String.toList_ofList]
      simp [Datetime.isoChars]
    rw [hEq] at hT
    rcases Python.mem_toString_int hT with hSign | hDigit
    · exact absurd hSign (by decide)
    · exact absurd hDigit (by decide)
  intro x y hEq
  unfold isoText at hEq
  cases hX : Datetime.ofInstant x 0 with
  | none =>
    cases hY : Datetime.ofInstant y 0 with
    | none =>
      rw [hX, hY] at hEq
      exact Python.toString_int_inj hEq
    | some stamp =>
      rw [hX, hY] at hEq
      exact absurd hEq.symm (hNe stamp x)
  | some stamp =>
    cases hY : Datetime.ofInstant y 0 with
    | none =>
      rw [hX, hY] at hEq
      exact absurd hEq (hNe stamp y)
    | some stamp' =>
      rw [hX, hY] at hEq
      rw [← Datetime.instant_ofInstant hX,
        ← Datetime.instant_ofInstant hY,
        Datetime.isoformat_inj hEq]

--------
-- Payloads
--------

/- The value of a payload under a key. -/
def entryAt (payload : Json) (key : String) : Option Json :=
  match payload with
  | .obj entries => entries.lookup key
  | _ => none

/- The text that an entry holds. -/
def textOf : Json → Option String
| .str text => some text
| _ => none

/- The whole number that an entry holds. -/
def intOf : Json → Option Int
| .scalar (.int value) => some value
| _ => none

/- The truth value that an entry holds. -/
def boolOf : Json → Option Bool
| .scalar (.bool value) => some value
| _ => none

def textAt (payload : Json) (key : String) : Option String :=
  (entryAt payload key).bind textOf

/- A whole number of a payload. -/
def intAt (payload : Json) (key : String) : Option Int :=
  (entryAt payload key).bind intOf

/- A truth value of a payload. -/
def boolAt (payload : Json) (key : String) : Option Bool :=
  (entryAt payload key).bind boolOf

/- The sealed values that a payload holds. -/
def Sealed.ofPayload (payload : Json) : Sealed where
  tenantId := (textAt payload "tenant_id").getD ""
  snapshotName := (textAt payload "snapshot_name").getD ""
  snapshotReason := textAt payload "snapshot_reason"
  createdBy := (textAt payload "created_by").getD ""
  capturedAt := (textAt payload "captured_at").getD ""
  complianceStatus :=
    (textAt payload "compliance_status").getD ""
  activeAlertCount :=
    (intAt payload "active_alert_count").getD 0
  criticalAlertCount :=
    (intAt payload "critical_alert_count").getD 0
  triggerAlertId := textAt payload "trigger_alert_id"
  isAutoCreated :=
    (boolAt payload "is_auto_created").getD false
  deadline := textAt payload "deadline"
  regulatoryCitation := textAt payload "regulatory_citation"
  isAttested := (boolAt payload "is_attested").getD false
  attestedBy := textAt payload "attested_by"
  attestedAt := textAt payload "attested_at"
  attestationTitle := textAt payload "attestation_title"

/- What is found among the entries of an optional text. -/
theorem lookup_textEntry
    (key key' : String)
    (value : Option String) :
    (textEntry key value).lookup key' =
      if key' = key then value.map Json.str else none := by
  cases value with
  | none => simp [textEntry]
  | some text =>
    by_cases hKey : key' = key
    · simp [textEntry, hKey]
    · have hBeq : (key' == key) = false := by
        simpa using hKey
      simp [textEntry, List.lookup_cons, hBeq, hKey]

/- An optional text is read back. -/
theorem bind_textOf
    (value : Option String) :
    (value.map Json.str).bind textOf = value := by
  cases value with
  | none => rfl
  | some text => rfl

/- The payload gives the sealed values back. -/
theorem Sealed.ofPayload_payload
    (values : Sealed) :
    Sealed.ofPayload values.payload = values := by
  cases values
  simp [Sealed.ofPayload, textAt, intAt, boolAt, entryAt,
    Sealed.payload, List.lookup_append, lookup_textEntry,
    List.lookup_cons, intEntry, boolEntry, bind_textOf, textOf, intOf, boolOf]

/- Sealed values with one payload are equal. -/
theorem Sealed.payload_injective :
    Function.Injective Sealed.payload :=
  Function.LeftInverse.injective Sealed.ofPayload_payload

/- The payload of a v2 seal names its version. -/
theorem entryAt_payload
    (values : Sealed) :
    entryAt values.payload "hash_version" =
      some (.scalar (.int 2)) :=
  rfl

/- The payload of `_content_hash_v1`. -/
def legacyPayload (env : Env) (row : SnapshotRow) : Json :=
  .obj
    ([("tenant_id", .str row.tenantId),
        ("snapshot_name", .str row.snapshotName)] ++
      textEntry "snapshot_reason" row.snapshotReason ++
      [("created_by", .str row.createdBy),
        ("captured_at", .str (env.iso row.capturedAt))])

/- The payload of a v1 seal names no version. -/
theorem entryAt_legacyPayload
    (env : Env)
    (row : SnapshotRow) :
    entryAt (legacyPayload env row) "hash_version" = none := by
  simp [entryAt, legacyPayload, List.lookup_append,
    lookup_textEntry, List.lookup_cons]

--------
-- Evidence
--------

/- What stands under the seal of a row. -/
def SnapshotRow.evidence (row : SnapshotRow) : SnapshotRow :=
  { row with
    contentHash := ""
    snapshotState := .valid
    degradationReason := none }

variable {tenantId : String} {sha256 : String → String}

/- Rows with one list of sealed values have one evidence. -/
theorem evidence_eq_of_sealedValues_eq
    {row row' : SnapshotRow}
    (hEq :
      sealedValues (serviceEnv tenantId sha256) row =
        sealedValues (serviceEnv tenantId sha256) row') :
    row.evidence = row'.evidence := by
  have hOptional := Option.map_injective isoText_injective
  simp only [sealedValues, serviceEnv, Sealed.mk.injEq] at hEq
  rcases hEq with ⟨hTenant, hName, hReason, hCreator, hCaptured,
    hStatus, hActive, hCritical, hTrigger, hAuto, hDeadline,
    hCitation, hAttested, hAttestedBy, hAttestedAt, hTitle⟩
  cases row
  cases row'
  simp only [SnapshotRow.evidence, SnapshotRow.mk.injEq]
  exact ⟨hTenant, hName, hReason, hCreator, hTrigger, hAuto,
    hOptional hDeadline, hCitation, hAttested, hAttestedBy,
    hOptional hAttestedAt, hTitle, hStatus, hActive, hCritical,
    trivial, trivial, trivial, isoText_injective hCaptured⟩

theorem payload_eq_of_digest_eq
    (hHash : Function.Injective sha256)
    {payload payload' : Json}
    (hEq :
      (serviceEnv tenantId sha256).digest payload =
        (serviceEnv tenantId sha256).digest payload') :
    payload = payload' :=
  Json.dumpsLiteral_inj (hHash hEq)

/- Rows with one v2 digest have one evidence. -/
theorem evidence_eq_of_contentHashV2_eq
    (hHash : Function.Injective sha256)
    {row row' : SnapshotRow}
    (hEq :
      contentHashV2 (serviceEnv tenantId sha256)
          (sealedValues (serviceEnv tenantId sha256) row) =
        contentHashV2 (serviceEnv tenantId sha256)
          (sealedValues (serviceEnv tenantId sha256) row')) :
    row.evidence = row'.evidence :=
  evidence_eq_of_sealedValues_eq
    (Sealed.payload_injective
      (payload_eq_of_digest_eq hHash hEq))

theorem contentHashV1_ne_contentHashV2
    (hHash : Function.Injective sha256)
    (row : SnapshotRow)
    (values : Sealed) :
    contentHashV1 (serviceEnv tenantId sha256) row ≠
      contentHashV2 (serviceEnv tenantId sha256) values := by
  intro hEq
  have hPayload :
      legacyPayload (serviceEnv tenantId sha256) row =
        values.payload :=
    payload_eq_of_digest_eq hHash hEq
  have hEntry := entryAt_payload values
  rw [← hPayload, entryAt_legacyPayload] at hEntry
  cases hEntry

/-
  A row whose hash is the v2 digest of some evidence verifies
  as v2, if at all, and has that evidence.
-/
theorem evidence_of_sealVersion
    (hHash : Function.Injective sha256)
    {row sealed : SnapshotRow}
    {version : Nat}
    (hStored :
      row.contentHash =
        contentHashV2 (serviceEnv tenantId sha256)
          (sealedValues (serviceEnv tenantId sha256) sealed))
    (hVersion :
      sealVersion (serviceEnv tenantId sha256) row =
        some version) :
    version = hashVersion ∧ row.evidence = sealed.evidence := by
  unfold sealVersion at hVersion
  split at hVersion
  · rename_i hMatch
    rw [hStored] at hMatch
    exact ⟨(Option.some.inj hVersion).symm,
      evidence_eq_of_contentHashV2_eq hHash hMatch⟩
  · split at hVersion
    · rename_i hLegacy
      rw [hStored] at hLegacy
      exact absurd hLegacy
        (contentHashV1_ne_contentHashV2 hHash row _)
    · cases hVersion

/- A row whose hash is a v1 digest does not verify as v2. -/
theorem sealVersion_legacy
    (hHash : Function.Injective sha256)
    {row was : SnapshotRow}
    (hStored :
      row.contentHash =
        contentHashV1 (serviceEnv tenantId sha256) was) :
    sealVersion (serviceEnv tenantId sha256) row ≠
      some hashVersion := by
  unfold sealVersion
  split
  · rename_i hMatch
    rw [hStored] at hMatch
    exact absurd hMatch.symm
      (contentHashV1_ne_contentHashV2 hHash was _)
  · split
    · decide
    · simp

end Snapshots

end RegEngine
