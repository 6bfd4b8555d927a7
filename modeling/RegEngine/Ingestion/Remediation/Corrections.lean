import RegEngine.Ingestion.Remediation.Validation
import RegEngine.Library.Table
import RegEngine.Shared.CanonicalEvent

/-
  Correction patches, append-only and chained by hash
  (`app/remediation/corrections.py`).

  Main declarations:
    * `Remediation.CorrectionPatch`
    * `Remediation.applyPatches`
    * `Remediation.insertPatches`
-/

--------
-- Field Paths
--------

namespace RegEngine

open Python (Value Dict)

namespace Remediation

/- A character of `[a-z0-9_]`. -/
def isPathChar (c : Char) : Bool :=
  c.isLower || ('0' ≤ c && c ≤ '9') || c == '_'

/- The name under `kdes`, when a path points there. -/
def kdePath (path : String) : Option String :=
  if "kdes.".toList.isPrefixOf path.toList then
    some (String.ofList (path.toList.drop 5))
  else
    none

/- `_FIELD_PATH_RE.match(path)` and no `__`. -/
def isFieldPath (path : String) : Bool :=
  let name := (kdePath path).getD path
  name != "" && name.toList.all isPathChar &&
    !Python.contains path "__"

/- `validate_field_path`: the message of its refusal. -/
def validateFieldPath (path : String) (allowed : List String) :
    Except String Unit :=
  if !allowed.contains path then
    .error ("Field '" ++ path ++
      "' is not authorized for this case")
  else if !isFieldPath path then
    .error ("Field path '" ++ path ++
      "' is not a valid field path")
  else
    .ok ()

/- `get_value`. -/
def getValue (event : ManifestEvent) (path : String) : Value :=
  match kdePath path with
  | some name => event.kdes.get name
  | none => event.fields.get path

/- `set_value`. -/
def setValue
    (event : ManifestEvent)
    (path : String)
    (value : Value) :
    ManifestEvent :=
  match kdePath path with
  | some name => { event with kdes := event.kdes.set name value }
  | none => { event with fields := event.fields.set path value }

--------
-- Patches
--------

/-
  A row of `fsma.correction_patches`. The instant of the
  attestation is in UTC, as `_norm_ts` gives it; cases and
  records are known by numbers.
-/
structure CorrectionPatch where
  tenantId : Uuid
  caseId : Nat
  manifestRecordId : Nat
  patchSeq : Nat
  validationIssueId : Option String
  fieldPath : String
  previousValue : Value
  proposedValue : String
  correctingOrg : String
  actorName : String
  actorRole : String
  authMethod : String
  correctionReason : String
  attestationText : String
  attestedAt : Datetime
  evidenceRef : Option String
  prevPatchHash : Option String
  patchHash : String

/- `sorted(patches, key=lambda p: p["patch_seq"])`. -/
def inOrder (patches : List CorrectionPatch) :
    List CorrectionPatch :=
  patches.mergeSort (fun p q => p.patchSeq ≤ q.patchSeq)

/- The value of a patch put into the event. -/
def applyPatch
    (event : ManifestEvent)
    (patch : CorrectionPatch) :
    ManifestEvent :=
  setValue event patch.fieldPath (.str patch.proposedValue)

/- `apply_patches`. -/
def applyPatches
    (original : ManifestEvent)
    (patches : List CorrectionPatch) :
    ManifestEvent :=
  (inOrder patches).foldl applyPatch original

/- `_hash_body`. -/
def hashBody (patch : CorrectionPatch) : Dict :=
  [("tenant_id", .str patch.tenantId.text),
    ("case_id", .str (toString patch.caseId)),
    ("manifest_record_id",
      .str (toString patch.manifestRecordId)),
    ("patch_seq", .int patch.patchSeq),
    ("validation_issue_id", .ofOption patch.validationIssueId),
    ("field_path", .str patch.fieldPath),
    ("previous_value", patch.previousValue),
    ("proposed_value", .str patch.proposedValue),
    ("correcting_org", .str patch.correctingOrg),
    ("actor_name", .str patch.actorName),
    ("actor_role", .str patch.actorRole),
    ("auth_method", .str patch.authMethod),
    ("correction_reason", .str patch.correctionReason),
    ("attestation_text", .str patch.attestationText),
    ("attested_at", .str patch.attestedAt.isoformat)]

/- The document that a patch hash covers. -/
def patchDocument (prevHash : Option String) (body : Dict) :
    Value :=
  .dict
    (("prev_patch_hash",
      .str (Python.orElse prevHash "GENESIS")) :: body)

/- `compute_patch_hash`. -/
def computePatchHash
    (sha256Hex : String → String)
    (prevHash : Option String)
    (body : Dict) :
    String :=
  sha256Hex
    (Json.dumpsCompact (patchDocument prevHash body).toJson)

/- The loop of `verify_patch_chain`. -/
def verifyLoop
    (sha256Hex : String → String) :
    Option String → List CorrectionPatch → Bool
| _, [] => true
| prev, patch :: rest =>
    computePatchHash sha256Hex prev (hashBody patch) ==
        patch.patchHash &&
      verifyLoop sha256Hex (some patch.patchHash) rest

/- `verify_patch_chain`. -/
def verifyPatchChain
    (sha256Hex : String → String)
    (patches : List CorrectionPatch) :
    Bool :=
  verifyLoop sha256Hex none (inOrder patches)

--------
-- Inserting Patches
--------

/-
  `CorrectionRequest`: one change or more, each of another
  field, and who vouches for them.
-/
structure CorrectionRequest where
  changes : List (String × String)
  actorName : String
  actorRole : String
  correctingOrg : Option String
  reason : String
  attestationAccepted : Bool
  attestationText : String
  evidenceRef : Option String
  changes_ne_nil : changes ≠ []
  changes_distinct : (changes.map Prod.fst).Nodup

/- What all patches of one call share. -/
structure PatchContext where
  tenantId : Uuid
  caseId : Nat
  manifestRecordId : Nat
  previous : String → Value
  issueByField : String → Option String
  correctingOrg : String
  request : CorrectionRequest
  attestedAt : Datetime

/- `sorted(changes.keys())`, with the values. -/
def sortedChanges (changes : List (String × String)) :
    List (String × String) :=
  changes.mergeSort (fun x y => x.1 ≤ y.1)

/- The patch of one change, before it is hashed. -/
def draftPatch
    (context : PatchContext)
    (nextSeq : Nat)
    (prevHash : Option String)
    (change : String × String) :
    CorrectionPatch where
  tenantId := context.tenantId
  caseId := context.caseId
  manifestRecordId := context.manifestRecordId
  patchSeq := nextSeq
  validationIssueId := context.issueByField change.1
  fieldPath := change.1
  previousValue := context.previous change.1
  proposedValue := change.2
  correctingOrg := context.correctingOrg
  actorName := context.request.actorName
  actorRole := context.request.actorRole
  authMethod := "remediation_token"
  correctionReason := context.request.reason
  attestationText := context.request.attestationText
  attestedAt := context.attestedAt
  evidenceRef := context.request.evidenceRef
  prevPatchHash := prevHash
  patchHash := ""

def makePatch
    (sha256Hex : String → String)
    (context : PatchContext)
    (nextSeq : Nat)
    (prevHash : Option String)
    (change : String × String) :
    CorrectionPatch :=
  let draft := draftPatch context nextSeq prevHash change
  { draft with
    patchHash :=
      computePatchHash sha256Hex prevHash (hashBody draft) }

/- The loop of `insert_patches`. -/
def patchLoop
    (sha256Hex : String → String)
    (context : PatchContext) :
    Nat → Option String → List (String × String) →
      List CorrectionPatch
| _, _, [] => []
| nextSeq, prevHash, change :: rest =>
    let patch :=
      makePatch sha256Hex context nextSeq prevHash change
    patch ::
      patchLoop sha256Hex context (nextSeq + 1)
        (some patch.patchHash) rest

/- The patches of a case of a tenant. -/
def patchesOf
    (patches : List CorrectionPatch)
    (tenantId : Uuid)
    (caseId : Nat) :
    List CorrectionPatch :=
  patches.filter (fun p =>
    p.tenantId == tenantId && p.caseId == caseId)

/- The patch of a case with the highest number. -/
def tailPatch
    (patches : List CorrectionPatch)
    (tenantId : Uuid)
    (caseId : Nat) :
    Option CorrectionPatch :=
  Table.maxBy (fun p => (p.patchSeq : Int))
    (patchesOf patches tenantId caseId)

/- `insert_patches`: the rows that it adds. -/
def insertPatches
    (sha256Hex : String → String)
    (patches : List CorrectionPatch)
    (context : PatchContext) :
    List CorrectionPatch :=
  let tail :=
    tailPatch patches context.tenantId context.caseId
  patchLoop sha256Hex context
    ((tail.map (fun p => p.patchSeq + 1)).getD 1)
    (tail.map CorrectionPatch.patchHash)
    (sortedChanges context.request.changes)

end Remediation

end RegEngine
