import RegEngine.Shared.Ledger

/-
  Verification of a tenant's hash chain against the legacy
  table (`shared/cte_persistence/verification.py`). The
  checks of sequence, linkage and chain hash are those of the
  canonical verifier too, which prints its hashes another way.

  Main declarations:
    * `Db.orderedChain`
    * `CtePersistence.linkErrors`
    * `CtePersistence.verifyChain`
-/

--------
-- The Rows Under Verification
--------

namespace RegEngine

namespace Db

/- The chain rows of a tenant, `ORDER BY sequence_num ASC`. -/
def orderedChain (db : Db) (tenantId : Uuid) :
    List HashChainRow :=
  (db.chainRows tenantId).insertionSort (fun row other =>
    row.sequenceNum ≤ other.sequenceNum)

/- The legacy table holds the event of a chain row. -/
def hasLegacyRow (db : Db) (row : HashChainRow) : Bool :=
  db.cteEvents.any (fun event =>
    event.id == row.cteEventId &&
      event.tenantId == row.tenantId)

/- The legacy rows of a tenant that are not rejected. -/
def acceptedCteEvents (db : Db) (tenantId : Uuid) :
    List CteEventRow :=
  db.cteEvents.filter (fun event =>
    event.tenantId == tenantId &&
      event.validationStatus != .rejected)

/- A chain row of the tenant stands for the legacy row. -/
def isChained (db : Db) (tenantId : Uuid) (event : CteEventRow) :
    Bool :=
  (db.chainRows tenantId).any (fun row =>
    row.cteEventId == event.id)

/- The ordered rows are the tenant's rows. -/
theorem mem_orderedChain
    {db : Db}
    {tenantId : Uuid}
    {row : HashChainRow} :
    row ∈ db.orderedChain tenantId ↔
      row ∈ db.chainRows tenantId :=
  List.mem_insertionSort _

end Db

end RegEngine

--------
-- Sequence, Linkage And Chain Hash
--------

namespace RegEngine

namespace CtePersistence

/- The first characters of a hash. -/
def hashStart (text : String) : String :=
  String.ofList (text.toList.take 16)

/- `_short_hash`. -/
def shortHash : Option String → String
| none => "missing"
| some text => if text = "" then "missing" else hashStart text

def rowBefore (rows : List HashChainRow) (index : Nat) :
    Option HashChainRow :=
  if index = 0 then none else rows[index - 1]?

/- The check of sequence continuity. -/
def sequenceErrors (index : Nat) (row : HashChainRow) :
    List String :=
  if row.sequenceNum ≠ index + 1 then
    ["Sequence gap: expected " ++ toString (index + 1) ++
      ", got " ++ toString row.sequenceNum]
  else
    []

/-
  The check of the link to the row before, where hashes are
  printed by `short`.
-/
def linkageErrors
    (short : Option String → String)
    (before : Option HashChainRow)
    (row : HashChainRow) :
    List String :=
  match before with
  | none =>
      if row.previousChainHash.isSome then
        ["Genesis entry (seq=" ++ toString row.sequenceNum ++
          ") has non-null previous_chain_hash"]
      else
        []
  | some previous =>
      if row.previousChainHash ≠ some previous.chainHash then
        ["Chain break at seq=" ++ toString row.sequenceNum ++
          ": stored prev " ++ short row.previousChainHash ++
          "... != expected " ++ short (some previous.chainHash) ++
          "..."]
      else
        []

/- The chain hash of a row is not the one recomputed. -/
def chainTampered
    (sha256Hex : String → String)
    (row : HashChainRow) :
    Bool :=
  computeChainHash sha256Hex row.eventHash
    row.previousChainHash != row.chainHash

def chainHashErrors
    (short : Option String → String)
    (sha256Hex : String → String)
    (row : HashChainRow) :
    List String :=
  if chainTampered sha256Hex row then
    ["Tamper detected at seq=" ++ toString row.sequenceNum ++
      ": recomputed chain_hash " ++
      short (some (computeChainHash sha256Hex row.eventHash
        row.previousChainHash)) ++
      "... != stored " ++ short (some row.chainHash) ++ "..."]
  else
    []

/- The three checks on the row at an index. -/
def linkErrors
    (short : Option String → String)
    (sha256Hex : String → String)
    (rows : List HashChainRow)
    (index : Nat)
    (row : HashChainRow) :
    List String :=
  sequenceErrors index row ++
    linkageErrors short (rowBefore rows index) row ++
    chainHashErrors short sha256Hex row

variable {short : Option String → String}

/- The linkage check passes on the hash of the row before. -/
theorem linkageErrors_eq_nil_iff
    {before : Option HashChainRow}
    {row : HashChainRow} :
    linkageErrors short before row = [] ↔
      row.previousChainHash =
        before.map HashChainRow.chainHash := by
  cases before with
  | none => cases hPrev : row.previousChainHash <;>
      simp [linkageErrors, hPrev]
  | some previous =>
      by_cases hEq :
          row.previousChainHash = some previous.chainHash <;>
        simp [linkageErrors, hEq]

variable {index : Nat}

/- What a row passes the three checks with. -/
theorem linkErrors_eq_nil_iff
    {sha256Hex : String → String}
    {rows : List HashChainRow}
    {row : HashChainRow} :
    linkErrors short sha256Hex rows index row = [] ↔
      row.sequenceNum = index + 1 ∧
        row.previousChainHash =
          (rowBefore rows index).map HashChainRow.chainHash ∧
        row.chainHash =
          computeChainHash sha256Hex row.eventHash
            row.previousChainHash := by
  unfold linkErrors
  rw [List.append_eq_nil_iff, List.append_eq_nil_iff,
    linkageErrors_eq_nil_iff, and_assoc]
  have hSequence :
      sequenceErrors index row = [] ↔
        row.sequenceNum = index + 1 := by
    simp [sequenceErrors]
  have hChainHash :
      chainHashErrors short sha256Hex row = [] ↔
        row.chainHash =
          computeChainHash sha256Hex row.eventHash
            row.previousChainHash := by
    rw [eq_comm (a := row.chainHash)]
    simp [chainHashErrors, chainTampered]
  rw [hSequence, hChainHash]

/- A row that passes the checks has its chain hash. -/
theorem chainTampered_eq_false
    {sha256Hex : String → String}
    {rows : List HashChainRow}
    {row : HashChainRow}
    (hLinked : linkErrors short sha256Hex rows index row = []) :
    chainTampered sha256Hex row = false := by
  simp [chainTampered, ← (linkErrors_eq_nil_iff.mp hLinked).2.2]

/- The rows pass the checks when their chain is intact. -/
theorem linkErrors_nil_iff_chainIntact
    (short : Option String → String)
    {sha256Hex : String → String}
    {rows : List HashChainRow} :
    (∀ index row, rows[index]? = some row →
        linkErrors short sha256Hex rows index row = []) ↔
      Ledger.ChainIntact sha256Hex rows := by
  unfold Ledger.ChainIntact
  refine forall_congr' fun index => forall_congr' fun row =>
    imp_congr_right fun _ => ?_
  rw [linkErrors_eq_nil_iff]
  unfold rowBefore
  split <;> simp

--------
-- The Legacy Verifier
--------

/- `ChainVerification`. -/
structure ChainVerification where
  valid : Bool
  chainLength : Nat
  errors : List String
  orphanChainRows : List Int
  missingChainRows : List Uuid
  cteEventsCount : Nat

/- `_missing_chain_event_ids`. -/
def missingChainEventIds (db : Db) (tenantId : Uuid) :
    List Uuid :=
  (((db.acceptedCteEvents tenantId).filter (fun event =>
    !db.isChained tenantId event)).map CteEventRow.id).take 1000

/- The message for a chain row without a legacy row. -/
def orphanError (row : HashChainRow) : String :=
  "Orphan chain row" ++ " at seq=" ++
    toString row.sequenceNum ++ ": cte_event_id=" ++ row.cteEventId.text ++
    " has no matching fsma.cte_events row"

/- The errors that the walk finds at one row. -/
def rowErrors
    (sha256Hex : String → String)
    (db : Db)
    (rows : List HashChainRow)
    (index : Nat)
    (row : HashChainRow) :
    List String :=
  linkErrors shortHash sha256Hex rows index row ++
    if db.hasLegacyRow row then [] else [orphanError row]

def emptyChainError (eventsCount missing : Nat) : String :=
  "Empty chain but " ++ toString eventsCount ++
    " non-rejected events exist (" ++ toString missing ++
    " missing chain rows)"

/- The error of events without a chain row. -/
def missingRowsError (rows eventsCount missing : Nat) :
    String :=
  "Chain row count (" ++ toString rows ++
    ") != non-rejected event count (" ++
    toString eventsCount ++ "); " ++ toString missing ++
    " event(s) have no chain entry"

/-
  The missing rows that the verifier lists: it looks for them
  only when the two counts differ.
-/
def listedMissing (db : Db) (tenantId : Uuid) : List Uuid :=
  if (db.orderedChain tenantId).length ≠
      (db.acceptedCteEvents tenantId).length then
    missingChainEventIds db tenantId
  else
    []

def chainErrors
    (sha256Hex : String → String)
    (db : Db)
    (tenantId : Uuid) :
    List String :=
  (db.orderedChain tenantId).zipIdx.flatMap (fun entry =>
      rowErrors sha256Hex db (db.orderedChain tenantId) entry.2
        entry.1) ++
    if listedMissing db tenantId = [] then
      []
    else
      [missingRowsError (db.orderedChain tenantId).length
        (db.acceptedCteEvents tenantId).length
        (listedMissing db tenantId).length]

/- `verify_chain`. -/
def verifyChain
    (sha256Hex : String → String)
    (db : Db)
    (tenantId : Uuid) :
    ChainVerification :=
  let rows := db.orderedChain tenantId
  let eventsCount := (db.acceptedCteEvents tenantId).length
  if rows.isEmpty then
    let missing := missingChainEventIds db tenantId
    if eventsCount = 0 ∧ missing = [] then
      ⟨true, 0, [], [], [], 0⟩
    else
      ⟨false, 0, [emptyChainError eventsCount missing.length],
        [], missing, eventsCount⟩
  else
    let errors := chainErrors sha256Hex db tenantId
    let orphans :=
      (rows.filter (fun row => !db.hasLegacyRow row)).map
        HashChainRow.sequenceNum
    let missing := listedMissing db tenantId
    ⟨errors.isEmpty && orphans.isEmpty && missing.isEmpty,
      rows.length, errors, orphans, missing, eventsCount⟩

end CtePersistence

end RegEngine
