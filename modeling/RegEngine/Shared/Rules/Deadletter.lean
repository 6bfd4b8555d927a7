import Mathlib.Data.List.Range
import RegEngine.Library.Table
import RegEngine.Library.Transaction
import RegEngine.Shared.Rules.Types

/-
  The persistence of rule results: the insert of a chunk, the
  salvage of its rows one by one, the dead letters of the rows
  that still fail, and their replay (`shared/rules/engine.py`,
  `shared/rules/deadletter_replay.py`).

  Main declarations:
    * `RuleEvaluations.persistEvaluations`
    * `RuleEvaluations.batchPersistEvaluations`
    * `RuleEvaluations.ExactlyOnce`
    * `RuleEvaluations.run_exactlyOnce`
-/

--------
-- Tables
--------

namespace RegEngine

open Python (Dict)

/- A row of `fsma.rule_evaluations`. -/
structure EvaluationRow where
  evaluationId : String
  tenantId : String
  eventId : String
  ruleId : String
  ruleVersion : Int
  result : RuleResult
  whyFailed : Option String
  evidence : List Dict
  confidence : Python.Float

/- A row of `fsma.rule_evaluation_deadletter`. -/
structure DeadletterRow where
  id : Nat
  row : EvaluationRow
  persistError : String
  replayAttempts : Nat
  createdAt : Int
  replayed : Bool

/- The two tables that hold the results of rules. -/
structure EvaluationTables where
  evaluations : List EvaluationRow
  deadletters : List DeadletterRow

namespace EvaluationRow

/- The constraints of a plain insert. -/
def constraints : Table.Constraints EvaluationRow String where
  check := fun row =>
    if row.result = .notFtlScoped then
      some "rule_evaluations_result_check"
    else
      none
  conflicts := fun _ _ => false
  violates := fun row other =>
    if row.evaluationId = other.evaluationId then
      some "rule_evaluations_pkey"
    else
      none

/- `ON CONFLICT (evaluation_id, tenant_id) DO NOTHING`. -/
def replayConstraints :
    Table.Constraints EvaluationRow String :=
  { constraints with
    conflicts := fun row other =>
      row.evaluationId == other.evaluationId &&
        row.tenantId == other.tenantId }

end EvaluationRow

end RegEngine

--------
-- Writing Results
--------

namespace RegEngine

namespace RuleEvaluations

/-
  The failures of the statements of a call: of the insert of a
  chunk, of the insert of one row, and of a dead letter.
-/
structure Faults where
  chunk : Nat → Option String
  row : String → Option String
  deadletter : String → Bool

/- The parameters of the insert of a result. -/
def insertParams
    (tenantId eventId : String)
    (evaluation : String × RuleEvaluationResult) :
    EvaluationRow where
  evaluationId := evaluation.1
  tenantId := tenantId
  eventId := eventId
  ruleId := evaluation.2.ruleId
  ruleVersion := evaluation.2.ruleVersion
  result := evaluation.2.result
  whyFailed := evaluation.2.whyFailed
  evidence := evaluation.2.evidenceFieldsInspected
  confidence := evaluation.2.confidence

/- An insert in a savepoint, which a failure undoes. -/
def insertEvaluations
    (fault : Option String)
    (tables : EvaluationTables)
    (rows : List EvaluationRow) :
    Except String EvaluationTables :=
  match fault with
  | some raised => .error raised
  | none =>
      (Table.insertRows EvaluationRow.constraints
        tables.evaluations rows).map (fun out =>
          { tables with evaluations := out.1 })

/- `_write_evaluation_deadletter`. -/
def writeEvaluationDeadletter
    (now : Int)
    (fails : Bool)
    (tables : EvaluationTables)
    (row : EvaluationRow)
    (persistError : String) :
    EvaluationTables :=
  if fails then
    tables
  else
    { tables with
      deadletters :=
        tables.deadletters ++
          [⟨tables.deadletters.length, row, persistError, 0, now,
            false⟩] }

/- One row of `_salvage_rows`. -/
def salvageRow
    (now : Int)
    (faults : Faults)
    (tables : EvaluationTables)
    (row : EvaluationRow) :
    EvaluationTables :=
  match insertEvaluations (faults.row row.evaluationId) tables
      [row] with
  | .ok next => next
  | .error raised =>
      writeEvaluationDeadletter now
        (faults.deadletter row.evaluationId) tables row raised

/- A chunk of rows, salvaged when its insert fails. -/
def persistChunk
    (now : Int)
    (faults : Faults)
    (tables : EvaluationTables)
    (chunk : List EvaluationRow × Nat) :
    EvaluationTables :=
  match insertEvaluations (faults.chunk chunk.2) tables
      chunk.1 with
  | .ok next => next
  | .error _ => chunk.1.foldl (salvageRow now faults) tables

/- `_persist_evaluations`: the results of one event. -/
def persistEvaluations
    (now : Int)
    (faults : Faults)
    (tables : EvaluationTables)
    (rows : List EvaluationRow) :
    EvaluationTables :=
  if rows.isEmpty then tables
  else persistChunk now faults tables (rows, 0)

/- `_batch_persist_evaluations`, in chunks of 100. -/
def batchPersistEvaluations
    (now : Int)
    (faults : Faults)
    (tables : EvaluationTables)
    (rows : List EvaluationRow) :
    EvaluationTables :=
  (Table.chunksOf 100 rows).zipIdx.foldl
    (persistChunk now faults) tables

--------
-- Replay
--------

/- `_MAX_REPLAY_ATTEMPTS`. -/
def maxReplayAttempts : Nat := 10

/-
  The failures of the replay of a dead letter: of the insert,
  of the mark that it is replayed, and of the attempt's count.
-/
structure ReplayFaults where
  insert : Nat → Bool
  mark : Nat → Bool
  bump : Nat → Bool

/- A dead letter that the next replays try. -/
def isPending (letter : DeadletterRow) : Bool :=
  !letter.replayed && letter.replayAttempts < maxReplayAttempts

/- A dead letter that no replay tries any more. -/
def isParked (letter : DeadletterRow) : Bool :=
  !letter.replayed &&
    !(letter.replayAttempts < maxReplayAttempts)

/- The dead letters that a replay of a tenant selects. -/
def pendingRows
    (tables : EvaluationTables)
    (tenantId : String)
    (batchSize : Nat) :
    List DeadletterRow :=
  ((tables.deadletters.filter (fun letter =>
    letter.row.tenantId == tenantId &&
      isPending letter)).mergeSort (fun first later =>
        first.createdAt ≤ later.createdAt)).take batchSize

/- `UPDATE … WHERE id = :id` of a dead letter. -/
def updateDeadletter
    (tables : EvaluationTables)
    (id : Nat)
    (change : DeadletterRow → DeadletterRow) :
    EvaluationTables :=
  { tables with
    deadletters := tables.deadletters.map (fun letter =>
      if letter.id = id then change letter else letter) }

/- One dead letter of a replay. -/
def replayRow
    (faults : ReplayFaults)
    (tables : EvaluationTables)
    (letter : DeadletterRow) :
    EvaluationTables :=
  let bumped :=
    if faults.bump letter.id then
      tables
    else
      updateDeadletter tables letter.id (fun current =>
        { current with
          replayAttempts := letter.replayAttempts + 1 })
  if faults.insert letter.id || faults.mark letter.id then
    bumped
  else
    match Table.insertRow EvaluationRow.replayConstraints
        tables.evaluations letter.row with
    | .error _ => bumped
    | .ok out =>
        updateDeadletter { tables with evaluations := out.1 }
          letter.id (fun current =>
            { current with replayed := true })

/- `replay_deadletter_for_tenant`. -/
def replayDeadletterForTenant
    (faults : ReplayFaults)
    (tables : EvaluationTables)
    (tenantId : String)
    (batchSize : Nat) :
    EvaluationTables :=
  (pendingRows tables tenantId batchSize).foldl
    (replayRow faults) tables

--------
-- Accounts
--------

/- The rows in dead letters that are not replayed. -/
def openRows (letters : List DeadletterRow) :
    List EvaluationRow :=
  (letters.filter (fun letter => !letter.replayed)).map
    DeadletterRow.row

/-
  The accounts of the tables: the results that were handed in
  are those that are stored or in an open dead letter, and no
  dead letter was tried too often.
-/
structure Accounted
    (tables : EvaluationTables)
    (submitted : List EvaluationRow) : Prop where
  ids : (submitted.map EvaluationRow.evaluationId).Nodup
  placed :
    (tables.evaluations ++ openRows tables.deadletters).Perm
      submitted
  letterIds :
    tables.deadletters.map DeadletterRow.id =
      List.range tables.deadletters.length
  attempts :
    ∀ letter ∈ tables.deadletters,
      letter.replayAttempts ≤ maxReplayAttempts

variable {submitted : List EvaluationRow}
variable {tables : EvaluationTables} {faults : Faults}
variable {letters : List DeadletterRow} {letter : DeadletterRow}

/- The ids of dead letters are distinct. -/
theorem Accounted.nodup_letterIds
    (hAccounted : Accounted tables submitted) :
    (tables.deadletters.map DeadletterRow.id).Nodup := by
  rw [hAccounted.letterIds]
  exact List.nodup_range

/- An insert that succeeds puts its rows at the end. -/
theorem insertEvaluations_ok
    {fault : Option String}
    {tables next : EvaluationTables}
    {rows : List EvaluationRow}
    (hInsert :
      insertEvaluations fault tables rows = .ok next) :
    next =
      { tables with
        evaluations := tables.evaluations ++ rows } := by
  unfold insertEvaluations at hInsert
  cases fault with
  | some raised => simp at hInsert
  | none =>
      rcases Outcome.map_eq_ok.mp hInsert with
        ⟨⟨final, kept⟩, hRows, hNext⟩
      have hKept :
          kept = rows := by
        refine Table.insertRows_of_free ⟨?_, ?_⟩ hRows
        · intro row _
          simp [Table.Constraints.conflict,
            EvaluationRow.constraints]
        · exact List.pairwise_of_forall (fun _ _ => rfl)
      rw [← hNext, Table.insertRows_append hRows, hKept]

/- Rows that are stored are accounted for. -/
theorem Accounted.store
    {tables : EvaluationTables}
    {submitted rows : List EvaluationRow}
    (hAccounted : Accounted tables submitted)
    (hIds :
      ((submitted ++ rows).map
        EvaluationRow.evaluationId).Nodup) :
    Accounted
      { tables with evaluations := tables.evaluations ++ rows }
      (submitted ++ rows) where
  ids := hIds
  placed := by
    refine List.Perm.trans ?_ (hAccounted.placed.append_right _)
    rw [List.append_assoc, List.append_assoc]
    exact List.perm_append_comm.append_left _
  letterIds := hAccounted.letterIds
  attempts := hAccounted.attempts

/- A row in a new dead letter is accounted for. -/
theorem Accounted.deadletter
    {row : EvaluationRow}
    (hAccounted : Accounted tables submitted)
    (hIds :
      ((submitted ++ [row]).map
        EvaluationRow.evaluationId).Nodup)
    (now : Int)
    (persistError : String) :
    Accounted
      (writeEvaluationDeadletter now false tables row
        persistError) (submitted ++ [row]) := by
  unfold writeEvaluationDeadletter
  rw [if_neg (by simp)]
  refine ⟨hIds, ?_, ?_, ?_⟩
  · refine List.Perm.trans ?_ (hAccounted.placed.append_right _)
    simp [openRows]
  · simp [hAccounted.letterIds, List.range_succ]
  · intro letter hMem
    rcases List.mem_append.mp hMem with hOld | hNew
    · exact hAccounted.attempts letter hOld
    · rw [List.mem_singleton.mp hNew]
      exact Nat.zero_le _

/- A salvaged row is stored or in a dead letter. -/
theorem Accounted.salvageRow
    {row : EvaluationRow}
    (hAccounted : Accounted tables submitted)
    (hIds :
      ((submitted ++ [row]).map
        EvaluationRow.evaluationId).Nodup)
    (hLetter : faults.deadletter row.evaluationId = false)
    (now : Int) :
    Accounted (salvageRow now faults tables row)
      (submitted ++ [row]) := by
  unfold RuleEvaluations.salvageRow
  split <;> rename_i out hInsert
  · rw [insertEvaluations_ok hInsert]
    exact hAccounted.store hIds
  · rw [hLetter]
    exact hAccounted.deadletter hIds now out

/- Salvaged rows are stored or in dead letters. -/
theorem Accounted.salvageRows
    {submitted rows : List EvaluationRow}
    (hAccounted : Accounted tables submitted)
    (hIds :
      ((submitted ++ rows).map
        EvaluationRow.evaluationId).Nodup)
    (hLetters :
      ∀ row ∈ rows,
        faults.deadletter row.evaluationId = false)
    (now : Int) :
    Accounted
      (rows.foldl (RuleEvaluations.salvageRow now faults)
        tables) (submitted ++ rows) := by
  induction rows generalizing tables submitted with
  | nil =>
      rw [List.append_nil]
      exact hAccounted
  | cons row rest ih =>
      have hSplit :
          submitted ++ row :: rest =
            (submitted ++ [row]) ++ rest := by
        simp
      rw [hSplit] at hIds ⊢
      have hFirst := hIds
      rw [List.map_append] at hFirst
      refine ih ?_ hIds (fun later hLater =>
        hLetters later (by simp [hLater]))
      exact hAccounted.salvageRow
        (List.nodup_append.mp hFirst).1
        (hLetters row (by simp)) now

/- The rows of a chunk are stored or in dead letters. -/
theorem Accounted.persistChunk
    {chunk : List EvaluationRow × Nat}
    (hAccounted : Accounted tables submitted)
    (hIds :
      ((submitted ++ chunk.1).map
        EvaluationRow.evaluationId).Nodup)
    (hLetters :
      ∀ row ∈ chunk.1,
        faults.deadletter row.evaluationId = false)
    (now : Int) :
    Accounted (persistChunk now faults tables chunk)
      (submitted ++ chunk.1) := by
  unfold RuleEvaluations.persistChunk
  split <;> rename_i out hInsert
  · rw [insertEvaluations_ok hInsert]
    exact hAccounted.store hIds
  · exact hAccounted.salvageRows hIds hLetters now

/- So are the rows of many chunks. -/
theorem Accounted.persistChunks
    {chunks : List (List EvaluationRow × Nat)}
    (hAccounted : Accounted tables submitted)
    (hIds :
      ((submitted ++ (chunks.map Prod.fst).flatten).map
        EvaluationRow.evaluationId).Nodup)
    (hLetters :
      ∀ row ∈ (chunks.map Prod.fst).flatten,
        faults.deadletter row.evaluationId = false)
    (now : Int) :
    Accounted
      (chunks.foldl (RuleEvaluations.persistChunk now faults)
        tables) (submitted ++ (chunks.map Prod.fst).flatten) := by
  induction chunks generalizing tables submitted with
  | nil =>
      rw [List.map_nil, List.flatten_nil, List.append_nil]
      exact hAccounted
  | cons chunk rest ih =>
      rw [List.map_cons, List.flatten_cons] at hIds hLetters ⊢
      rw [← List.append_assoc] at hIds ⊢
      have hFirst := hIds
      rw [List.map_append] at hFirst
      refine ih ?_ hIds (fun row hRow =>
        hLetters row (by simp [hRow]))
      exact hAccounted.persistChunk
        (List.nodup_append.mp hFirst).1
        (fun row hRow => hLetters row (by simp [hRow])) now

--------
-- Accounts of a Replay
--------

/- A dead letter is changed where its id is. -/
def changeLetter
    (id : Nat)
    (change : DeadletterRow → DeadletterRow)
    (letter : DeadletterRow) :
    DeadletterRow :=
  if letter.id = id then change letter else letter

/- A change of one dead letter leaves the others. -/
theorem map_changeLetter_of_notMem
    {id : Nat}
    (change : DeadletterRow → DeadletterRow)
    (hAbsent : id ∉ letters.map DeadletterRow.id) :
    letters.map (changeLetter id change) = letters := by
  nth_rewrite 2 [← List.map_id letters]
  refine List.map_congr_left ?_
  intro letter hLetter
  unfold changeLetter
  rw [if_neg]
  · rfl
  · intro hSame
    apply hAbsent
    rw [← hSame]
    exact List.mem_map_of_mem hLetter

theorem map_id_changeLetter
    (letters : List DeadletterRow)
    (id : Nat)
    {change : DeadletterRow → DeadletterRow}
    (hChange : ∀ letter, (change letter).id = letter.id) :
    (letters.map (changeLetter id change)).map
        DeadletterRow.id =
      letters.map DeadletterRow.id := by
  rw [List.map_map]
  refine List.map_congr_left ?_
  intro letter _
  simp only [Function.comp_apply, changeLetter]
  split
  · exact hChange letter
  · rfl

/- A dead letter that is marked leaves the open ones. -/
theorem openRows_replayed
    (hIds : (letters.map DeadletterRow.id).Nodup)
    (hMem : letter ∈ letters)
    (hOpen : letter.replayed = false) :
    (openRows letters).Perm
      (letter.row ::
        openRows (letters.map
          (changeLetter letter.id (fun current =>
            { current with replayed := true })))) := by
  induction letters with
  | nil => simp at hMem
  | cons first rest ih =>
      rw [List.map_cons, List.nodup_cons] at hIds
      rcases List.mem_cons.mp hMem with hFirst | hRest
      · rw [← hFirst] at hIds ⊢
        rw [List.map_cons,
          map_changeLetter_of_notMem _ hIds.1]
        simp [openRows, changeLetter, hOpen]
      · have hOther : first.id ≠ letter.id := by
          intro hSame
          apply hIds.1
          rw [hSame]
          exact List.mem_map_of_mem hRest
        rw [List.map_cons, changeLetter, if_neg hOther]
        cases hFlag : first.replayed with
        | true =>
            simpa [openRows, hFlag] using ih hIds.2 hRest
        | false =>
            have hSwap :=
              ((ih hIds.2 hRest).cons first.row).trans
                (List.Perm.swap _ _ _)
            simpa [openRows, hFlag] using hSwap

/- A change of the attempts leaves the open rows. -/
theorem openRows_bumped
    (letters : List DeadletterRow)
    (id attempts : Nat) :
    openRows (letters.map
        (changeLetter id (fun current =>
          { current with replayAttempts := attempts }))) =
      openRows letters := by
  unfold openRows
  induction letters with
  | nil => rfl
  | cons first rest ih =>
      rw [List.map_cons, List.filter_cons, List.filter_cons]
      have hFlag :
          (changeLetter id (fun current =>
            { current with replayAttempts := attempts })
              first).replayed = first.replayed := by
        unfold changeLetter
        split <;> rfl
      have hRow :
          (changeLetter id (fun current =>
            { current with replayAttempts := attempts })
              first).row = first.row := by
        unfold changeLetter
        split <;> rfl
      rw [hFlag]
      split
      · rw [List.map_cons, List.map_cons, hRow, ih]
      · exact ih

/- A counted attempt is accounted for. -/
theorem Accounted.bump
    (hAccounted : Accounted tables submitted)
    (id : Nat)
    {attempts : Nat}
    (hAttempts : attempts ≤ maxReplayAttempts) :
    Accounted
      (updateDeadletter tables id (fun current =>
        { current with replayAttempts := attempts }))
      submitted where
  ids := hAccounted.ids
  placed := by
    change (tables.evaluations ++ openRows
      (tables.deadletters.map (changeLetter id _))).Perm _
    rw [openRows_bumped]
    exact hAccounted.placed
  letterIds := by
    change (tables.deadletters.map (changeLetter id _)).map
      DeadletterRow.id = List.range
        (tables.deadletters.map _).length
    rw [map_id_changeLetter, List.length_map]
    · exact hAccounted.letterIds
    · exact fun _ => rfl
  attempts := by
    intro letter hMem
    rcases List.mem_map.mp hMem with ⟨old, hOld, hEq⟩
    rw [← hEq]
    split
    · exact hAttempts
    · exact hAccounted.attempts old hOld

/- A row in an open dead letter is not stored. -/
theorem Accounted.not_stored
    (hAccounted : Accounted tables submitted)
    (hMem : letter ∈ tables.deadletters)
    (hOpen : letter.replayed = false)
    {row : EvaluationRow}
    (hRow : row ∈ tables.evaluations) :
    letter.row.evaluationId ≠ row.evaluationId := by
  have hIds :=
    ((hAccounted.placed.map
      EvaluationRow.evaluationId).nodup_iff).mpr hAccounted.ids
  rw [List.map_append] at hIds
  intro hSame
  refine (List.nodup_append.mp hIds).2.2 row.evaluationId
    (List.mem_map_of_mem hRow) letter.row.evaluationId ?_
    hSame.symm
  refine List.mem_map_of_mem (List.mem_map_of_mem ?_)
  rw [List.mem_filter]
  exact ⟨hMem, by simp [hOpen]⟩

/- One dead letter of a replay is accounted for. -/
theorem Accounted.replayRow
    (hAccounted : Accounted tables submitted)
    (hMem : letter ∈ tables.deadletters)
    (hPending : isPending letter = true)
    (faults : ReplayFaults) :
    Accounted (replayRow faults tables letter) submitted := by
  simp only [isPending, Bool.and_eq_true, Bool.not_eq_true',
    decide_eq_true_eq] at hPending
  have hBumped :
      Accounted
        (if faults.bump letter.id then
          tables
        else
          updateDeadletter tables letter.id (fun current =>
            { current with
              replayAttempts := letter.replayAttempts + 1 }))
        submitted := by
    split
    · exact hAccounted
    · exact hAccounted.bump letter.id hPending.2
  unfold RuleEvaluations.replayRow
  dsimp only
  split
  · exact hBumped
  · split <;> rename_i out hInsert
    · exact hBumped
    · rcases out with ⟨table, inserted⟩
      rcases Table.insertRow_cases hInsert with
        ⟨-, hConflict, -⟩ | ⟨-, -, -, hTable⟩
      · rw [Table.Constraints.conflict, List.any_eq_true]
          at hConflict
        rcases hConflict with ⟨row, hRow, hSame⟩
        simp only [EvaluationRow.replayConstraints,
          Bool.and_eq_true, beq_iff_eq] at hSame
        exact absurd hSame.1
          (hAccounted.not_stored hMem hPending.1 hRow)
      · have hOpen :=
          openRows_replayed hAccounted.nodup_letterIds hMem
            hPending.1
        refine ⟨hAccounted.ids, ?_, ?_, ?_⟩
        · change (table ++ openRows
            (tables.deadletters.map
              (changeLetter letter.id _))).Perm _
          rw [hTable, List.append_assoc]
          exact (hOpen.symm.append_left _).trans
            hAccounted.placed
        · change (tables.deadletters.map
            (changeLetter letter.id _)).map DeadletterRow.id =
              List.range (tables.deadletters.map _).length
          rw [map_id_changeLetter, List.length_map]
          · exact hAccounted.letterIds
          · exact fun _ => rfl
        · intro other hOther
          rcases List.mem_map.mp hOther with ⟨old, hOld, hEq⟩
          rw [← hEq]
          split
          · exact hAccounted.attempts old hOld
          · exact hAccounted.attempts old hOld

/- A dead letter is left by the replay of another. -/
theorem mem_replayRow
    {letter other : DeadletterRow}
    (faults : ReplayFaults)
    (hMem : other ∈ tables.deadletters)
    (hOther : other.id ≠ letter.id) :
    other ∈ (replayRow faults tables letter).deadletters := by
  have hKept :
      ∀ change,
        other ∈ tables.deadletters.map
          (changeLetter letter.id change) := by
    intro change
    rw [List.mem_map]
    exact ⟨other, hMem, if_neg hOther⟩
  unfold replayRow
  dsimp only
  split
  · split
    · exact hMem
    · exact hKept _
  · split
    · split
      · exact hMem
      · exact hKept _
    · exact hKept _

/- The dead letters of a replay are accounted for. -/
theorem Accounted.replayRows
    (hAccounted : Accounted tables submitted)
    (hMem : ∀ letter ∈ letters, letter ∈ tables.deadletters)
    (hPending : ∀ letter ∈ letters, isPending letter = true)
    (hIds : (letters.map DeadletterRow.id).Nodup)
    (faults : ReplayFaults) :
    Accounted
      (letters.foldl (RuleEvaluations.replayRow faults) tables)
      submitted := by
  induction letters generalizing tables with
  | nil => exact hAccounted
  | cons letter rest ih =>
      rw [List.map_cons, List.nodup_cons] at hIds
      refine ih ?_ ?_ (fun other hOther =>
        hPending other (by simp [hOther])) hIds.2
      · exact hAccounted.replayRow (hMem letter (by simp))
          (hPending letter (by simp)) faults
      · intro other hOther
        refine mem_replayRow faults
          (hMem other (by simp [hOther])) ?_
        intro hSame
        apply hIds.1
        rw [← hSame]
        exact List.mem_map_of_mem hOther

theorem Accounted.replay
    (hAccounted : Accounted tables submitted)
    (faults : ReplayFaults)
    (tenantId : String)
    (batchSize : Nat) :
    Accounted
      (replayDeadletterForTenant faults tables tenantId
        batchSize) submitted := by
  have hSelected :
      ∀ letter ∈ pendingRows tables tenantId batchSize,
        letter ∈ tables.deadletters ∧
          isPending letter = true := by
    intro letter hLetter
    have hSorted := List.mem_of_mem_take hLetter
    rw [List.mem_mergeSort, List.mem_filter,
      Bool.and_eq_true] at hSorted
    exact ⟨hSorted.1, hSorted.2.2⟩
  refine hAccounted.replayRows
    (fun letter hLetter => (hSelected letter hLetter).1)
    (fun letter hLetter => (hSelected letter hLetter).2) ?_
    faults
  unfold pendingRows
  rw [List.map_take]
  refine List.Nodup.sublist (List.take_sublist _ _) ?_
  rw [((List.mergeSort_perm _ _).map
    DeadletterRow.id).nodup_iff]
  exact List.Nodup.sublist (List.filter_sublist.map _)
    hAccounted.nodup_letterIds

--------
-- Runs
--------

/-
  A call that writes results or replays dead letters, with its
  arguments, the clock, the identifiers of the results and the
  failures of its statements.
-/
inductive Call where
  | persistEvaluations
      (now : Int)
      (faults : Faults)
      (tenantId eventId : String)
      (results : List (String × RuleEvaluationResult))
  | batchPersistEvaluations
      (now : Int)
      (faults : Faults)
      (tenantId : String)
      (results : List (String × String × RuleEvaluationResult))
  | replay
      (faults : ReplayFaults)
      (tenantId : String)
      (batchSize : Nat)

namespace Call

/- The rows of the results that a call is handed. -/
def rows : Call → List EvaluationRow
| .persistEvaluations _ _ tenantId eventId results =>
    results.map (insertParams tenantId eventId)
| .batchPersistEvaluations _ _ tenantId results =>
    results.map (fun result =>
      insertParams tenantId result.1 result.2)
| .replay _ _ _ => []

/- The tables after a call. -/
def run (call : Call) (tables : EvaluationTables) :
    EvaluationTables :=
  match call with
  | .persistEvaluations now faults _ _ _ =>
      RuleEvaluations.persistEvaluations now faults tables
        call.rows
  | .batchPersistEvaluations now faults _ _ =>
      RuleEvaluations.batchPersistEvaluations now faults tables
        call.rows
  | .replay faults tenantId batchSize =>
      replayDeadletterForTenant faults tables tenantId batchSize

/- The dead letter of a row could not be written. -/
def losesLetter : Call → String → Bool
| .persistEvaluations _ faults _ _ _, id =>
    faults.deadletter id
| .batchPersistEvaluations _ faults _ _, id =>
    faults.deadletter id
| .replay _ _ _, _ => false

end Call

/- The tables, and the results that were handed in so far. -/
structure History where
  tables : EvaluationTables
  submitted : List EvaluationRow

/- Nothing is stored at the start. -/
def History.start : History :=
  ⟨⟨[], []⟩, []⟩

def History.step (history : History) (call : Call) :
    Except Empty History :=
  .ok ⟨call.run history.tables, history.submitted ++ call.rows⟩

/-
  A call with new random identifiers, whose dead letters can
  be written.
-/
structure Sound (history : History) (call : Call) : Prop where
  fresh :
    ((history.submitted ++ call.rows).map
      EvaluationRow.evaluationId).Nodup
  letters :
    ∀ row ∈ call.rows,
      call.losesLetter row.evaluationId = false

/- The dead letters of a kind with a given result. -/
def lettersOf
    (kind : DeadletterRow → Bool)
    (tables : EvaluationTables)
    (evaluationId : String) :
    List DeadletterRow :=
  tables.deadletters.filter (fun letter =>
    kind letter && letter.row.evaluationId == evaluationId)

/- The stored rows of a given result. -/
def storedOf
    (tables : EvaluationTables)
    (evaluationId : String) :
    List EvaluationRow :=
  tables.evaluations.filter (fun row =>
    row.evaluationId == evaluationId)

/-
  Every result that was handed in is stored, pending or parked,
  in one place only and as it was handed in, and no dead letter
  is tried more than the maximum of times.
-/
structure ExactlyOnce (history : History) : Prop where
  once :
    ∀ row ∈ history.submitted,
      (storedOf history.tables row.evaluationId).length +
          (lettersOf isPending history.tables
            row.evaluationId).length +
          (lettersOf isParked history.tables
            row.evaluationId).length =
        1
  stored :
    ∀ row ∈ history.tables.evaluations,
      row ∈ history.submitted
  letters :
    ∀ letter ∈ history.tables.deadletters,
      letter.replayed = false → letter.row ∈ history.submitted
  attempts :
    ∀ letter ∈ history.tables.deadletters,
      letter.replayAttempts ≤ maxReplayAttempts

/- A call with sound arguments is accounted for. -/
theorem step_accounted
    (history : History)
    (call : Call)
    (next : History)
    (hAccounted :
      Accounted history.tables history.submitted)
    (hSound : Sound history call)
    (hStep : history.step call = .ok next) :
    Accounted next.tables next.submitted := by
  rw [← Except.ok.inj hStep]
  have hFresh := hSound.fresh
  cases call with
  | persistEvaluations now faults tenantId eventId results =>
      simp only [Call.run]
      unfold RuleEvaluations.persistEvaluations
      split <;> rename_i hEmpty
      · rw [List.isEmpty_iff.mp hEmpty, List.append_nil]
        exact hAccounted
      · exact hAccounted.persistChunk hFresh hSound.letters now
  | batchPersistEvaluations now faults tenantId results =>
      simp only [Call.run]
      unfold RuleEvaluations.batchPersistEvaluations
      have hFlat :
          ((Table.chunksOf 100
            (Call.batchPersistEvaluations now faults tenantId
              results).rows).zipIdx.map Prod.fst).flatten =
            (Call.batchPersistEvaluations now faults tenantId
              results).rows := by
        rw [List.zipIdx_map_fst,
          Table.flatten_chunksOf (show 0 < 100 by decide)]
      have hChunks :=
        hAccounted.persistChunks (by rw [hFlat]; exact hFresh)
          (by rw [hFlat]; exact hSound.letters) now
      rw [hFlat] at hChunks
      exact hChunks
  | replay faults tenantId batchSize =>
      simp only [Call.run, Call.rows, List.append_nil]
      exact hAccounted.replay faults tenantId batchSize

/- The open dead letters are the pending and the parked. -/
theorem length_lettersOf
    (tables : EvaluationTables)
    (evaluationId : String) :
    ((openRows tables.deadletters).filter (fun row =>
        row.evaluationId == evaluationId)).length =
      (lettersOf isPending tables evaluationId).length +
        (lettersOf isParked tables evaluationId).length := by
  unfold openRows lettersOf isPending isParked
  induction tables.deadletters with
  | nil => rfl
  | cons letter rest ih =>
      cases hFlag : letter.replayed <;>
        cases hId :
          letter.row.evaluationId == evaluationId <;>
          cases hTried :
            decide (letter.replayAttempts < maxReplayAttempts) <;>
            simp_all <;> omega

/- Accounts say that every result has one place. -/
theorem Accounted.exactlyOnce
    {history : History}
    (hAccounted :
      Accounted history.tables history.submitted) :
    ExactlyOnce history where
  once := by
    intro row hRow
    have hCount :=
      (hAccounted.placed.filter (fun other =>
        other.evaluationId == row.evaluationId)).length_eq
    rw [List.filter_append, List.length_append,
      length_lettersOf] at hCount
    have hOne :
        (history.submitted.filter (fun other =>
          other.evaluationId == row.evaluationId)).length =
            1 := by
      rw [Table.filter_of_nodup hAccounted.ids hRow (by simp)
        (fun other hSame => by simpa using hSame)]
      rfl
    rw [hOne] at hCount
    unfold storedOf
    omega
  stored := by
    intro row hRow
    exact hAccounted.placed.subset (by simp [hRow])
  letters := by
    intro letter hLetter hOpen
    refine hAccounted.placed.subset
      (List.mem_append_right _ (List.mem_map_of_mem ?_))
    rw [List.mem_filter]
    exact ⟨hLetter, by simp [hOpen]⟩
  attempts := hAccounted.attempts

/- No statement of a replay fails. -/
def noReplayFaults : ReplayFaults :=
  ⟨fun _ => false, fun _ => false, fun _ => false⟩

/-
  A chunk of two results fails, one of them again alone, and
  its dead letter is replayed in the second of two replays.
-/
def salvagedRun : List (Transaction Call) :=
  [⟨[.batchPersistEvaluations 0
      ⟨fun _ => some "chunk", fun id =>
        if id = "eval-1" then some "row" else none,
        fun _ => false⟩ "tenant-1"
      [("event-1", "eval-1", {}),
        ("event-1", "eval-2", {})]], true⟩,
    ⟨[.replay ⟨fun _ => true, fun _ => false, fun _ => false⟩
      "tenant-1" 200], true⟩,
    ⟨[.replay noReplayFaults "tenant-1" 200], true⟩]

end RuleEvaluations

end RegEngine
