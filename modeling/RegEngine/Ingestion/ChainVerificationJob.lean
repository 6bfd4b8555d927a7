import RegEngine.Shared.CanonicalPersistence.Verification

/-
  The chain verification job, which walks a tenant's chain
  with both verifiers and combines their reports
  (`ingestion/app/chain_verification_job.py`).

  The legacy verifier looks for events without a chain row
  only when the chain and the legacy table differ in length,
  so a chain row that belongs to no legacy row of its own can
  stand in for a missing one.

  Main declarations:
    * `ChainVerificationJob.combineVerifications`
    * `ChainVerificationJob.OwnLegacyRows`
    * `ChainVerificationJob.runVerification_complete_iff`
-/

--------
-- The Job
--------

namespace RegEngine

open CtePersistence (ChainVerification verifyChain)
open CanonicalEventStore (CanonicalChainVerification
  verifyChainCanonical)

namespace ChainVerificationJob

/- The result that a completed job publishes. -/
structure JobResult where
  chainValid : Bool
  chainLength : Nat
  errors : List String
  message : String

/- The legacy errors that count for the job. -/
def legacyErrors (legacy : ChainVerification) : List String :=
  legacy.errors.filter (fun error =>
    !Python.contains error "Orphan chain row")

/- Appends the errors that are not listed yet. -/
def mergeErrors (errors added : List String) : List String :=
  added.foldl (fun merged error =>
    if error ∈ merged then merged else merged ++ [error]) errors

/- `_combine_verifications`. -/
def combineVerifications
    (canonical : CanonicalChainVerification)
    (legacy : ChainVerification) :
    Bool × Nat × List String :=
  (canonical.valid && (legacyErrors legacy).isEmpty,
    max canonical.chainLength legacy.chainLength,
    mergeErrors canonical.errors (legacyErrors legacy))

def message (valid : Bool) (errors : List String) : String :=
  if valid then
    "Chain integrity verified — no tampering detected"
  else
    "Chain integrity FAILED — " ++ toString errors.length ++
      " error(s) detected"

/- `_run_verification_inner`, once its result is recorded. -/
def runVerification
    (rt : Runtime)
    (db : Db)
    (tenantId : Uuid) :
    Except StoreError JobResult := do
  let canonical ← verifyChainCanonical rt db tenantId
  let combined :=
    combineVerifications canonical
      (verifyChain rt.sha256Hex db tenantId)
  return ⟨combined.1, combined.2.1, combined.2.2,
    message combined.1 combined.2.2⟩

--------
-- The Errors That Count
--------

open CtePersistence (verifyChain shortHash linkErrors rowErrors
  orphanError emptyChainError missingRowsError
  missingChainEventIds listedMissing chainErrors
  linkErrors_nil_iff_chainIntact)

/- Every accepted legacy row of the tenant has a chain row. -/
def AllChained (db : Db) (tenantId : Uuid) : Prop :=
  ∀ event ∈ db.acceptedCteEvents tenantId,
    db.isChained tenantId event = true

/- The orphans of the legacy verifier do not count. -/
theorem contains_orphanError
    (row : HashChainRow) :
    Python.contains (orphanError row) "Orphan chain row" =
      true := by
  rw [Python.contains_iff]
  refine List.IsPrefix.isInfix ?_
  unfold orphanError
  simp only [String.toList_append, List.append_assoc]
  exact List.prefix_append _ _

/- No count is printed with a letter. -/
theorem capital_notMem_toString
    (n : Nat) :
    'O' ∉ (toString n).toList := by
  intro hMem
  have hDigit := Python.mem_toString_nat hMem
  exact absurd hDigit (by decide)

theorem contains_emptyChainError
    (eventsCount missing : Nat) :
    Python.contains (emptyChainError eventsCount missing)
      "Orphan chain row" = false := by
  refine Python.contains_eq_false (c := 'O') (by simp) ?_
  unfold emptyChainError
  simp only [String.toList_append, List.mem_append, not_or]
  exact ⟨⟨⟨⟨by simp, capital_notMem_toString eventsCount⟩,
    by simp⟩, capital_notMem_toString missing⟩, by simp⟩

/- The error of missing chain rows counts. -/
theorem contains_missingRowsError
    (rows eventsCount missing : Nat) :
    Python.contains (missingRowsError rows eventsCount missing)
      "Orphan chain row" = false := by
  refine Python.contains_eq_false (c := 'O') (by simp) ?_
  unfold missingRowsError
  simp only [String.toList_append, List.mem_append, not_or]
  exact ⟨⟨⟨⟨⟨⟨by simp, capital_notMem_toString rows⟩, by simp⟩,
    capital_notMem_toString eventsCount⟩, by simp⟩,
    capital_notMem_toString missing⟩, by simp⟩

variable {db : Db} {tenantId : Uuid}

theorem missingChainEventIds_eq_nil_iff
    {tenantId : Uuid} :
    missingChainEventIds db tenantId = [] ↔
      AllChained db tenantId := by
  simp [missingChainEventIds, AllChained]

/- Every row of the tenant's chain is on its ordered chain. -/
theorem length_orderedChain
    (db : Db)
    (tenantId : Uuid) :
    (db.orderedChain tenantId).length =
      (db.chainRows tenantId).length :=
  List.length_insertionSort _ _

/- The rows of an intact chain give orphans only. -/
theorem filter_rowErrors
    {sha256Hex : String → String}
    {rows : List HashChainRow}
    (hIntact : Ledger.ChainIntact sha256Hex rows) :
    (rows.zipIdx.flatMap (fun entry =>
        rowErrors sha256Hex db rows entry.2 entry.1)).filter
      (fun error =>
        !Python.contains error "Orphan chain row") = [] := by
  rw [List.filter_eq_nil_iff]
  intro error hMem
  rcases List.mem_flatMap.mp hMem with
    ⟨⟨row, index⟩, hEntry, hError⟩
  have hLinked :
      linkErrors shortHash sha256Hex rows index row = [] :=
    (linkErrors_nil_iff_chainIntact shortHash).mpr hIntact index
      row (List.mem_zipIdx_iff_getElem?.mp hEntry)
  simp only [rowErrors, hLinked, List.nil_append] at hError
  split at hError
  · simp at hError
  · rw [List.mem_singleton.mp hError, contains_orphanError]
    simp

/- Without chain rows every accepted event is missing. -/
theorem allChained_of_no_rows
    (hNil : db.orderedChain tenantId = []) :
    AllChained db tenantId ↔
      (db.acceptedCteEvents tenantId).length = 0 := by
  have hRows : db.chainRows tenantId = [] := by
    rw [← List.length_eq_zero_iff, ← length_orderedChain, hNil]
    rfl
  rw [List.length_eq_zero_iff, List.eq_nil_iff_forall_not_mem]
  simp [AllChained, Db.isChained, hRows]

/- What is listed as missing when the counts differ. -/
theorem listedMissing_eq_nil_iff
    {tenantId : Uuid} :
    listedMissing db tenantId = [] ↔
      (db.chainRows tenantId).length =
          (db.acceptedCteEvents tenantId).length ∨
        AllChained db tenantId := by
  unfold listedMissing
  rw [length_orderedChain]
  split
  · rename_i hNe
    rw [missingChainEventIds_eq_nil_iff]
    exact ⟨Or.inr, fun h => h.resolve_left hNe⟩
  · rename_i hEq
    exact ⟨fun _ => Or.inl (not_not.mp hEq), fun _ => rfl⟩

/-
  On an intact chain the legacy report counts nothing when the
  chain and the table have one length, or no event is missing.
-/
theorem legacyErrors_eq_nil_iff
    {sha256Hex : String → String}
    (hIntact :
      Ledger.ChainIntact sha256Hex (db.orderedChain tenantId)) :
    legacyErrors (verifyChain sha256Hex db tenantId) = [] ↔
      (db.chainRows tenantId).length =
          (db.acceptedCteEvents tenantId).length ∨
        AllChained db tenantId := by
  unfold verifyChain legacyErrors
  by_cases hNil : db.orderedChain tenantId = []
  · have hMissing := allChained_of_no_rows hNil
    have hLength := length_orderedChain db tenantId
    rw [hNil, List.length_nil] at hLength
    rw [← hLength, hMissing, eq_comm (a := 0), or_self]
    simp only [hNil, List.isEmpty_nil, if_true]
    split
    · rename_i hZero
      simp [hZero.1]
    · rename_i hSome
      rw [missingChainEventIds_eq_nil_iff, hMissing,
        and_self] at hSome
      simp [contains_emptyChainError, hSome]
  · rw [← listedMissing_eq_nil_iff]
    simp only [List.isEmpty_iff, hNil, if_false, chainErrors,
      List.filter_append, filter_rowErrors hIntact,
      List.nil_append]
    split
    · rename_i hListed
      simp [hListed]
    · rename_i hListed
      simp [contains_missingRowsError, hListed]

--------
-- What The Job Misses
--------

open CtePersistence (verifyChain)

open CanonicalEventStore (Attested verifyChainCanonical
  verifyChainCanonical_valid_iff canonicalDb)

/-
  The job reports valid when the canonical checks pass and
  the legacy verifier, where it looks, finds no event missing.
-/
theorem runVerification_valid_iff
    (rt : Runtime)
    (db : Db)
    (tenantId : Uuid) :
    (∃ out, runVerification rt db tenantId = .ok out ∧
        out.chainValid = true) ↔
      Attested rt db tenantId ∧
        ((db.chainRows tenantId).length =
            (db.acceptedCteEvents tenantId).length ∨
          AllChained db tenantId) := by
  have hSplit :
      (∃ out, runVerification rt db tenantId = .ok out ∧
          out.chainValid = true) ↔
        (∃ canonical,
            verifyChainCanonical rt db tenantId = .ok canonical ∧
              canonical.valid = true) ∧
          legacyErrors (verifyChain rt.sha256Hex db tenantId) =
            [] := by
    constructor
    · rintro ⟨out, hRun, hValid⟩
      rcases Outcome.bind_eq_ok.mp hRun with
        ⟨canonical, hCanonical, hOut⟩
      rw [← Outcome.pure_eq_ok.mp hOut] at hValid
      simp only [combineVerifications, Bool.and_eq_true,
        List.isEmpty_iff] at hValid
      exact ⟨⟨canonical, hCanonical, hValid.1⟩, hValid.2⟩
    · rintro ⟨⟨canonical, hCanonical, hValid⟩, hLegacy⟩
      refine ⟨_,
        Outcome.bind_eq_ok.mpr ⟨canonical, hCanonical, rfl⟩, ?_⟩
      simp [combineVerifications, hValid, hLegacy]
  rw [hSplit, verifyChainCanonical_valid_iff]
  exact and_congr_right fun hAttested =>
    legacyErrors_eq_nil_iff hAttested.intact

/-
  Every chain row stands for an accepted legacy row of its
  own: there is no row of a canonical-only or rejected event,
  and no second row for one event.
-/
structure OwnLegacyRows (db : Db) (tenantId : Uuid) : Prop where
  accepted :
    (db.chainRows tenantId).map HashChainRow.cteEventId ⊆
      (db.acceptedCteEvents tenantId).map CteEventRow.id
  distinct :
    ((db.chainRows tenantId).map HashChainRow.cteEventId).Nodup

/- All events are chained when their ids are on the chain. -/
theorem allChained_iff_subset
    {tenantId : Uuid} :
    AllChained db tenantId ↔
      (db.acceptedCteEvents tenantId).map CteEventRow.id ⊆
        (db.chainRows tenantId).map HashChainRow.cteEventId := by
  simp [AllChained, Db.isChained, List.subset_def]

/-
  Where the counts agree, all events are chained exactly when
  no chain row is left over for anything else.
-/
theorem allChained_iff_ownLegacyRows
    (hKey : (db.cteEvents.map CteEventRow.id).Nodup)
    (hCount :
      (db.chainRows tenantId).length =
        (db.acceptedCteEvents tenantId).length) :
    AllChained db tenantId ↔ OwnLegacyRows db tenantId := by
  rw [allChained_iff_subset]
  have hAccepted :
      ((db.acceptedCteEvents tenantId).map
        CteEventRow.id).Nodup :=
    hKey.sublist (List.filter_sublist.map CteEventRow.id)
  constructor
  · intro hSubset
    have hPerm :=
      (List.subperm_of_subset hAccepted
        hSubset).perm_of_length_le
        (by simp [hCount])
    exact ⟨hPerm.symm.subset, hPerm.nodup_iff.mp hAccepted⟩
  · rintro ⟨hSubset, hDistinct⟩
    have hPerm :=
      (List.subperm_of_subset hDistinct
        hSubset).perm_of_length_le (by simp [hCount])
    exact hPerm.symm.subset

/-
  A valid result means that every accepted legacy event is on
  the chain, exactly when the counts differ, or no chain row
  can stand in for a missing one, or the canonical checks fail.
-/
theorem runVerification_complete_iff
    (rt : Runtime)
    (db : Db)
    (tenantId : Uuid)
    (hKey : (db.cteEvents.map CteEventRow.id).Nodup) :
    (∀ out, runVerification rt db tenantId = .ok out →
        out.chainValid = true → AllChained db tenantId) ↔
      (db.chainRows tenantId).length ≠
          (db.acceptedCteEvents tenantId).length ∨
        OwnLegacyRows db tenantId ∨
        ¬ Attested rt db tenantId := by
  have hValid := runVerification_valid_iff rt db tenantId
  constructor
  · intro hComplete
    by_cases hCount :
        (db.chainRows tenantId).length =
          (db.acceptedCteEvents tenantId).length
    · by_cases hAttested : Attested rt db tenantId
      · rcases hValid.mpr ⟨hAttested, Or.inl hCount⟩ with
          ⟨out, hRun, hOut⟩
        have hAll := hComplete out hRun hOut
        exact Or.inr (Or.inl
          ((allChained_iff_ownLegacyRows hKey hCount).mp hAll))
      · exact Or.inr (Or.inr hAttested)
    · exact Or.inl hCount
  · intro hWhen out hRun hOut
    rcases hValid.mp ⟨out, hRun, hOut⟩ with
      ⟨hAttested, hCount | hAll⟩
    · rcases hWhen with hDiffer | hOwn | hFails
      · exact absurd hCount hDiffer
      · exact (allChained_iff_ownLegacyRows hKey hCount).mpr hOwn
      · exact absurd hAttested hFails
    · exact hAll

/- The tenant of the runs below. -/
def tenant : Uuid :=
  (default : TraceabilityEvent).tenantId

/- One harvest, stored in both tables and chained. -/
def harvestDb : Db :=
  Ledger.run (Runtime.ofDigests Ledger.harvestDigests) Db.empty
    Ledger.harvestRun

theorem runVerification_complete_harvestDb :
    (∀ out,
        runVerification (Runtime.ofDigests Ledger.harvestDigests)
            harvestDb tenant = .ok out →
          out.chainValid = true →
            AllChained harvestDb tenant) ∧
      harvestDb.acceptedCteEvents tenant ≠ [] := by
  have hOwn : OwnLegacyRows harvestDb tenant :=
    ⟨List.subset_def.mpr (by decide +kernel), by decide +kernel⟩
  exact ⟨(runVerification_complete_iff _ harvestDb tenant
    (by decide +kernel)).mpr (Or.inr (Or.inl hOwn)),
    by decide +kernel⟩

/- A legacy row of another event. -/
def unchainedRow : CteEventRow :=
  LegacyDualWrite.legacyRow
    { (default : TraceabilityEvent) with
      eventId :=
        ⟨"00000000-0000-0000-0000-000000000002", isUuidText_two⟩ }

/-
  A canonical-only harvest on the chain, and a legacy event
  without a chain row: the counts agree.
-/
def offsetDb : Db :=
  { canonicalDb with cteEvents := [unchainedRow] }

/- The job reports valid, and the legacy event is missing. -/
theorem runVerification_misses_unchainedRow :
    (runVerification (Runtime.ofDigests Ledger.harvestDigests)
        offsetDb tenant).toOption.map JobResult.chainValid =
        some true ∧
      ¬ AllChained offsetDb tenant := by
  refine ⟨by decide +kernel, ?_⟩
  intro hAll
  have hEvent : unchainedRow ∈ offsetDb.acceptedCteEvents tenant := by
    decide
  have hNone : offsetDb.isChained tenant unchainedRow = false := by
    decide +kernel
  rw [hAll unchainedRow hEvent] at hNone
  exact Bool.noConfusion hNone

end ChainVerificationJob

end RegEngine
