import RegEngine.Admin.Audit

/-
  The verifier of the audit chain (`admin/app/
  audit_integrity.py`), on entries whose blocks are there.

  Main declarations:
    * `Audit.CanonicalEntry`
    * `Audit.checkEntry`
    * `Audit.Clean`
-/

--------
-- The Verifier
--------

namespace RegEngine

namespace Audit

/- An entry as the export builds it for verification. -/
structure CanonicalEntry where
  id : Nat
  tenantId : String
  timestamp : String
  eventType : String
  action : String
  resourceId : Option String
  metadata : List (String × Json)
  actorId : Option String
  actorEmail : Option String
  severity : String
  endpoint : Option String
  prevHash : Option String
  hash : String
  sequenceNum : Nat

/- An item of `errors`. -/
structure ChainError where
  id : Nat
  error : String
  expected : Json
  actual : Json

/- What the loop of `verify_chain` carries along. -/
structure Verifying where
  expectedPrevHash : Option String
  prevSequenceNum : Option Nat
  brokenIndexes : List Nat
  errors : List ChainError
  legacyV1Rows : List Nat

/- What `verify_chain` returns. -/
structure ChainVerdict where
  valid : Bool
  totalEntries : Nat
  verified : Nat
  firstBreak : Option Nat
  errors : List ChainError
  legacyV1Rows : List Nat
  hasLegacyV1Rows : Bool

/- The fields of an entry that are hashed. -/
def CanonicalEntry.hashInput (entry : CanonicalEntry) :
    HashInput where
  prevHash := entry.prevHash
  timestamp := entry.timestamp
  eventType := entry.eventType
  action := entry.action
  resourceId := entry.resourceId
  metadata := (Json.obj entry.metadata).sortKeys
  actorId := entry.actorId
  actorEmail := entry.actorEmail
  severity := entry.severity
  endpoint := entry.endpoint
  sequenceNum := entry.sequenceNum

/- The hash of an entry under a version of the schema. -/
def CanonicalEntry.recomputed
    (env : AuditEnv)
    (version : Nat)
    (entry : CanonicalEntry) : String :=
  computeIntegrityHash { env with tenantId := entry.tenantId }
    version entry.hashInput

def linkErrors
    (starts : Bool)
    (expected : Option String)
    (entry : CanonicalEntry) : List ChainError :=
  if starts then []
  else if entry.prevHash = expected then []
  else
    [⟨entry.id, "prev_hash_mismatch", nullable expected,
      nullable entry.prevHash⟩]

/- The place of an entry behind the one before it. -/
def sequenceErrors
    (prevSequenceNum : Option Nat)
    (entry : CanonicalEntry) : List ChainError :=
  match prevSequenceNum with
  | none => []
  | some before =>
      if entry.sequenceNum = before + 1 then []
      else
        [⟨entry.id, "sequence_gap",
          .scalar (.int (before + 1)),
          .scalar (.int entry.sequenceNum)⟩]

/- The hash of an entry, under one of the versions. -/
def hashErrors
    (env : AuditEnv)
    (entry : CanonicalEntry) : List ChainError :=
  if entry.hash = entry.recomputed env 3 ∨
      entry.hash = entry.recomputed env 2 ∨
      entry.hash = entry.recomputed env 1 then
    []
  else
    [⟨entry.id, "integrity_hash_mismatch",
      .str (entry.recomputed env 3), .str entry.hash⟩]

/- The entry verifies under the first version only. -/
def CanonicalEntry.isLegacy
    (env : AuditEnv)
    (entry : CanonicalEntry) : Bool :=
  entry.hash ≠ entry.recomputed env 3 ∧
    entry.hash ≠ entry.recomputed env 2 ∧
    entry.hash = entry.recomputed env 1

/- One round of the loop of `verify_chain`. -/
def checkEntry
    (env : AuditEnv)
    (anchored : Bool)
    (state : Verifying)
    (item : CanonicalEntry × Nat) : Verifying :=
  let entry := item.1
  let failed :=
    linkErrors (item.2 == 0 && !anchored)
        state.expectedPrevHash entry ++
      sequenceErrors state.prevSequenceNum entry ++
      hashErrors env entry
  { expectedPrevHash := some entry.hash
    prevSequenceNum := some entry.sequenceNum
    brokenIndexes :=
      if failed.isEmpty then state.brokenIndexes
      else state.brokenIndexes.insert item.2
    errors := state.errors ++ failed
    legacyV1Rows :=
      if entry.isLegacy env then
        state.legacyV1Rows ++ [entry.id]
      else
        state.legacyV1Rows }

/- The start of the loop. -/
def verifyingFrom
    (entries : List CanonicalEntry)
    (predecessor : Option CanonicalEntry)
    (missingAnchor : Bool) : Verifying where
  expectedPrevHash := predecessor.map CanonicalEntry.hash
  prevSequenceNum := predecessor.map CanonicalEntry.sequenceNum
  brokenIndexes :=
    if missingAnchor && !entries.isEmpty then [0] else []
  errors :=
    match entries with
    | [] => []
    | first :: _ =>
        if missingAnchor then
          [⟨first.id, "chain_anchor_missing",
            .str "predecessor row", .scalar .null⟩]
        else
          []
  legacyV1Rows := []

/- `verify_chain`. -/
def verifyChain
    (env : AuditEnv)
    (entries : List CanonicalEntry)
    (predecessor : Option CanonicalEntry)
    (missingAnchor : Bool) : ChainVerdict :=
  let final := entries.zipIdx.foldl
    (checkEntry env predecessor.isSome)
    (verifyingFrom entries predecessor missingAnchor)
  { valid := final.errors.isEmpty
    totalEntries := entries.length
    verified := entries.length - final.brokenIndexes.length
    firstBreak := final.errors.head?.map ChainError.id
    errors := final.errors
    legacyV1Rows := final.legacyV1Rows
    hasLegacyV1Rows := !final.legacyV1Rows.isEmpty }

--------
-- What Is Valid
--------

variable {env : AuditEnv}

def HashIsRecomputed
    (env : AuditEnv)
    (entry : CanonicalEntry) : Prop :=
  entry.hash = entry.recomputed env 3 ∨
    entry.hash = entry.recomputed env 2 ∨
    entry.hash = entry.recomputed env 1

/-
  Entries that link up behind an entry, when there is one, are
  numbered without a gap and have the hashes recomputed.
-/
def Clean (env : AuditEnv) :
    Option (Option String × Nat) → List CanonicalEntry → Prop
| _, [] => True
| before, entry :: rest =>
    (∀ head ∈ before, entry.prevHash = head.1 ∧
      entry.sequenceNum = head.2 + 1) ∧
      HashIsRecomputed env entry ∧
        Clean env (some (some entry.hash, entry.sequenceNum))
          rest

theorem linkErrors_eq_nil_iff
    {starts : Bool}
    {expected : Option String}
    {entry : CanonicalEntry} :
    linkErrors starts expected entry = [] ↔
      (starts = false → entry.prevHash = expected) := by
  cases starts <;> simp [linkErrors]

theorem sequenceErrors_eq_nil_iff
    {prevSequenceNum : Option Nat}
    {entry : CanonicalEntry} :
    sequenceErrors prevSequenceNum entry = [] ↔
      ∀ before ∈ prevSequenceNum,
        entry.sequenceNum = before + 1 := by
  cases prevSequenceNum <;> simp [sequenceErrors]

theorem hashErrors_eq_nil_iff
    {entry : CanonicalEntry} :
    hashErrors env entry = [] ↔
      HashIsRecomputed env entry := by
  unfold hashErrors HashIsRecomputed
  split <;> simp_all

variable {anchored : Bool}

/- A round adds no error when the entry is clean. -/
theorem checkEntry_errors_eq_nil_iff
    {state : Verifying}
    {entry : CanonicalEntry}
    {index : Nat} :
    (checkEntry env anchored state (entry, index)).errors =
        [] ↔
      state.errors = [] ∧
        ((index == 0 && !anchored) = false →
          entry.prevHash = state.expectedPrevHash) ∧
        (∀ before ∈ state.prevSequenceNum,
          entry.sequenceNum = before + 1) ∧
        HashIsRecomputed env entry := by
  simp only [checkEntry, List.append_eq_nil_iff,
    linkErrors_eq_nil_iff, sequenceErrors_eq_nil_iff,
    hashErrors_eq_nil_iff, and_assoc]

/- The rounds behind the first add no error on a clean rest. -/
theorem foldl_errors_eq_nil_iff
    (entries : List CanonicalEntry)
    (state : Verifying)
    (head : Option String × Nat)
    (index : Nat)
    (hHash : state.expectedPrevHash = head.1)
    (hNum : state.prevSequenceNum = some head.2)
    (hLater : (index == 0 && !anchored) = false) :
    ((entries.zipIdx index).foldl (checkEntry env anchored)
        state).errors = [] ↔
      state.errors = [] ∧ Clean env (some head) entries := by
  induction entries generalizing state head index with
  | nil => simp [Clean]
  | cons entry rest ih =>
      rw [List.zipIdx_cons, List.foldl_cons,
        ih _ (some entry.hash, entry.sequenceNum) (index + 1)
          rfl rfl (by simp),
        checkEntry_errors_eq_nil_iff, hHash, hNum]
      simp only [hLater, Clean, Option.mem_some_iff,
        forall_eq', forall_const]
      constructor
      · rintro ⟨⟨hErrors, hLink, hSeq, hOk⟩, hRest⟩
        exact ⟨hErrors, ⟨hLink, hSeq⟩, hOk, hRest⟩
      · rintro ⟨hErrors, ⟨hLink, hSeq⟩, hOk, hRest⟩
        exact ⟨⟨hErrors, hLink, hSeq, hOk⟩, hRest⟩

/- The anchor that a predecessor gives. -/
def CanonicalEntry.anchor (entry : CanonicalEntry) :
    Option String × Nat :=
  (some entry.hash, entry.sequenceNum)

/- With its anchor a window is valid when it is clean. -/
theorem verifyChain_valid_iff
    (env : AuditEnv)
    (entries : List CanonicalEntry)
    (predecessor : Option CanonicalEntry) :
    (verifyChain env entries predecessor false).valid = true ↔
      Clean env (predecessor.map CanonicalEntry.anchor)
        entries := by
  have hStart :
      (verifyingFrom entries predecessor false).errors = [] := by
    cases entries <;> rfl
  simp only [verifyChain, List.isEmpty_iff]
  cases predecessor with
  | some before =>
      rw [foldl_errors_eq_nil_iff entries _ before.anchor 0 rfl
        rfl rfl, hStart, Option.map_some]
      simp
  | none =>
      cases entries with
      | nil => simp [hStart, Clean]
      | cons entry rest =>
          rw [List.zipIdx_cons, List.foldl_cons,
            foldl_errors_eq_nil_iff rest _ entry.anchor _ rfl
              rfl (by simp),
            checkEntry_errors_eq_nil_iff, hStart]
          simp [Clean, verifyingFrom, CanonicalEntry.anchor]

end Audit

end RegEngine
