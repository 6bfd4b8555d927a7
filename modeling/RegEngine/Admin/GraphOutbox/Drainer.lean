import Mathlib.Data.List.Sort
import RegEngine.Library.Keyed
import RegEngine.Library.Machine

/-
  The outbox of graph writes of the admin service
  (`admin/app/graph_outbox.py`): callers commit rows, and one
  drainer selects a batch and replays it row after row.

  Main declarations:
    * `GraphOutbox.drainOne`
    * `GraphOutbox.claimPending`
    * `GraphOutbox.Outbox.Inv`
-/

--------
-- Rows
--------

namespace RegEngine

namespace GraphOutbox

/- `OutboxStatus`. -/
inductive OutboxStatus where
  | pending
  | drained
  | failed
  deriving DecidableEq

/- A row of `graph_outbox`; times are in microseconds. -/
structure StoredRow where
  tenantId : Option String
  operation : String
  cypher : String
  params : String
  status : OutboxStatus
  attempts : Nat
  maxAttempts : Nat
  lastError : Option String
  enqueuedAt : Int
  drainedAt : Option Int
  nextAttemptAt : Int
  dedupeKey : Option String
  deriving DecidableEq

/- A row as the drainer has selected it. -/
structure OutboxRow where
  id : Nat
  tenantId : Option String
  operation : String
  cypher : String
  params : String
  attempts : Nat
  maxAttempts : Nat
  dedupeKey : Option String
  deriving DecidableEq

/- `r["tenant_id"] or None`, `r["max_attempts"] or 10`. -/
def OutboxRow.ofStored (id : Nat) (row : StoredRow) :
    OutboxRow where
  id := id
  tenantId := row.tenantId.filter (fun tenant => tenant ≠ "")
  operation := row.operation
  cypher := row.cypher
  params := row.params
  attempts := row.attempts
  maxAttempts := if row.maxAttempts = 0 then 10
    else row.maxAttempts
  dedupeKey := row.dedupeKey

/- The arguments of `enqueue_graph_write`. -/
structure Enqueue where
  tenantId : Option String
  operation : String
  cypher : String
  params : String
  dedupeKey : Option String
  maxAttempts : Int
  deriving DecidableEq

/- The checks of `enqueue_graph_write`. -/
def Enqueue.isValid (request : Enqueue) : Bool :=
  request.operation ≠ "" && request.cypher ≠ "" &&
    1 ≤ request.maxAttempts

/- The row that `enqueue_graph_write` inserts. -/
def Enqueue.row (request : Enqueue) (now : Int) :
    StoredRow where
  tenantId := request.tenantId
  operation := request.operation
  cypher := request.cypher
  params := request.params
  status := .pending
  attempts := 0
  maxAttempts := request.maxAttempts.toNat
  lastError := none
  enqueuedAt := now
  drainedAt := none
  nextAttemptAt := now
  dedupeKey := request.dedupeKey

/- `uq_graph_outbox_dedupe`; no two nulls are equal. -/
def isDuplicate
    (rows : Keyed Nat StoredRow)
    (request : Enqueue) : Bool :=
  request.dedupeKey.isSome &&
    rows.rows.any (fun entry =>
      entry.2.operation == request.operation &&
        entry.2.dedupeKey == request.dedupeKey)

--------
-- One Row
--------

/-
  What comes of the calls to Neo4j: the session factory, the
  session or the Cypher raises, or all of them return.
-/
inductive Attempt where
  | factoryRaised (exception : String)
  | sessionRaised (exception : String)
  | runRaised (exception : String)
  | ran
  deriving DecidableEq

/- What the drainer writes about a row. -/
inductive Verdict where
  | drained
  | failed (reason : String)
  | rescheduled (attempts : Nat) (reason : String)
  deriving DecidableEq

/- `_on_failure`. -/
def onFailure (row : OutboxRow) (exception : String) :
    Verdict :=
  let newAttempts := row.attempts + 1
  if row.maxAttempts ≤ newAttempts then
    .failed
      ("exhausted " ++ toString newAttempts ++ " attempts: " ++
        exception)
  else
    .rescheduled newAttempts exception

/-
  `_drain_one`. An exception of the factory puts the row off
  without the count of `_on_failure`.
-/
def drainOne (row : OutboxRow) (attempt : Attempt) : Verdict :=
  if row.tenantId.isNone then
    .failed "null tenant_id; refusing to drain"
  else
    match attempt with
    | .factoryRaised exception =>
        .rescheduled (row.attempts + 1)
          ("session factory error: " ++ exception)
    | .sessionRaised exception => onFailure row exception
    | .runRaised exception => onFailure row exception
    | .ran => .drained

/- `_BACKOFF`, in seconds. -/
def backoff : List Nat :=
  [5, 30, 120, 600, 1800, 3600, 14400, 43200, 86400, 86400]

/- The delay before the next attempt, in microseconds. -/
def delayAfter (attempts : Nat) : Nat :=
  backoff.getD (min (attempts - 1) (backoff.length - 1)) 0 *
    1000000

/- `reason[:4000]`. -/
def clipped (reason : String) : String :=
  String.ofList (reason.toList.take 4000)

/-
  `_mark_drained`, `_mark_failed` and `_reschedule`: they ask
  for the id only. An erasure that is done drops its params.
-/
def Verdict.write
    (row : OutboxRow)
    (now : Int)
    (stored : StoredRow) : Verdict → StoredRow
| .drained =>
    { stored with
      status := .drained
      drainedAt := some now
      lastError := none
      params := if row.operation = "user_erasure" then "\x7b\x7d"
        else stored.params }
| .failed reason =>
    { stored with
      status := .failed
      lastError := some (clipped reason) }
| .rescheduled attempts reason =>
    { stored with
      attempts := attempts
      lastError := some (clipped reason)
      nextAttemptAt := now + delayAfter attempts }

--------
-- Runs Of The Drainer
--------

/-
  The table, the clock, and the selected rows the drainer has
  not come to yet. The rows it worked on and the rows whose
  Cypher it ran to the end are recorded in that order.
-/
structure Outbox where
  rows : Keyed Nat StoredRow
  nextId : Nat
  clock : Int
  claimed : List OutboxRow
  tried : List Nat
  applied : List Nat

/-
  Time passes, a caller commits its row, the drainer starts
  `drain_once`, or it works on the next row of its batch.
-/
inductive OutboxAction where
  | pass (micros : Nat)
  | enqueue (request : Enqueue)
  | claim (batchSize : Nat)
  | drain (attempt : Attempt)
  deriving DecidableEq

/- The order of the selection. -/
def DueBefore (x y : Nat × StoredRow) : Prop :=
  x.2.nextAttemptAt < y.2.nextAttemptAt ∨
    (x.2.nextAttemptAt = y.2.nextAttemptAt ∧ x.1 ≤ y.1)

instance : DecidableRel DueBefore :=
  fun x y => inferInstanceAs (Decidable (_ ∨ _ ∧ _))

/- The rows that are due, in the order of the selection. -/
def dueRows (rows : Keyed Nat StoredRow) (now : Int) :
    List (Nat × StoredRow) :=
  (rows.rows.filter (fun entry =>
    entry.2.status == .pending &&
      entry.2.nextAttemptAt ≤ now)).insertionSort DueBefore

/- `_claim_pending`. -/
def claimPending
    (rows : Keyed Nat StoredRow)
    (now : Int)
    (batchSize : Nat) : List OutboxRow :=
  ((dueRows rows now).take batchSize).map (fun entry =>
    OutboxRow.ofStored entry.1 entry.2)

/- A caller's row is committed. -/
def Outbox.insert (s : Outbox) (request : Enqueue) : Outbox :=
  { s with
    rows := s.rows.add s.nextId (request.row s.clock)
    nextId := s.nextId + 1 }

/- The drainer selects a batch. -/
def Outbox.select (s : Outbox) (batchSize : Nat) : Outbox :=
  { s with claimed := claimPending s.rows s.clock batchSize }

/- The verdict on a row is in, and the next row is up. -/
def Outbox.afterDrain
    (s : Outbox)
    (row : OutboxRow)
    (rest : List OutboxRow)
    (verdict : Verdict) : Outbox :=
  { s with
    rows := s.rows.set row.id (fun stored =>
      verdict.write row s.clock stored)
    claimed := rest
    tried := s.tried ++ [row.id]
    applied := if verdict = .drained then
        s.applied ++ [row.id]
      else
        s.applied }

/-
  One step. `drain_once` selects again when it has come to the
  end of its batch; an insert takes its id even where the
  constraint keeps it out.
-/
def Outbox.step (s : Outbox) : OutboxAction → Outbox
| .pass micros => { s with clock := s.clock + micros }
| .enqueue request =>
    if !request.isValid then
      s
    else if isDuplicate s.rows request then
      { s with nextId := s.nextId + 1 }
    else
      s.insert request
| .claim batchSize =>
    if s.claimed.isEmpty then s.select batchSize else s
| .drain attempt =>
    match s.claimed with
    | [] => s
    | row :: rest => s.afterDrain row rest (drainOne row attempt)

def Outbox.run (s : Outbox) (actions : List OutboxAction) :
    Outbox :=
  actions.foldl Outbox.step s

/- No rows, and nothing in hand. -/
def Outbox.empty : Outbox where
  rows := Keyed.empty
  nextId := 0
  clock := 0
  claimed := []
  tried := []
  applied := []

--------
-- What A Step Can Do
--------

/- The ways in which a step can change the state. -/
theorem Outbox.step_cases
    {P : Outbox → Prop}
    {s : Outbox}
    (a : OutboxAction)
    (hStay : P s)
    (hPass : ∀ micros : Nat,
      P { s with clock := s.clock + micros })
    (hSkip : P { s with nextId := s.nextId + 1 })
    (hInsert : ∀ request : Enqueue, request.isValid = true →
      P (s.insert request))
    (hSelect : ∀ batchSize : Nat, s.claimed = [] →
      P (s.select batchSize))
    (hDrain : ∀ attempt row rest, a = .drain attempt →
      s.claimed = row :: rest →
        P (s.afterDrain row rest (drainOne row attempt))) :
    P (s.step a) := by
  cases a with
  | pass micros => exact hPass micros
  | enqueue request =>
    simp only [Outbox.step]
    cases hValid : request.isValid with
    | false => exact hStay
    | true =>
      split
      · exact hStay
      · split
        · exact hSkip
        · exact hInsert request hValid
  | claim batchSize =>
    simp only [Outbox.step]
    split
    · rename_i hEmpty
      exact hSelect batchSize (List.isEmpty_iff.mp hEmpty)
    · exact hStay
  | drain attempt =>
    simp only [Outbox.step]
    cases hClaimed : s.claimed with
    | nil => exact hStay
    | cons row rest => exact hDrain attempt row rest rfl hClaimed

/- The verdicts on a row. -/
theorem drainOne_cases
    (row : OutboxRow)
    (attempt : Attempt) :
    (drainOne row attempt = .drained ∧ attempt = .ran) ∨
      (∃ reason, drainOne row attempt = .failed reason) ∨
      ∃ reason,
        drainOne row attempt =
            .rescheduled (row.attempts + 1) reason ∧
          (row.attempts + 1 < row.maxAttempts ∨
            row.tenantId.isSome = true ∧
              ∃ exception, attempt = .factoryRaised exception) := by
  have hFailure : ∀ exception,
      (∃ reason, onFailure row exception = .failed reason) ∨
        ∃ reason,
          onFailure row exception =
              .rescheduled (row.attempts + 1) reason ∧
            row.attempts + 1 < row.maxAttempts := by
    intro exception
    by_cases hLast : row.maxAttempts ≤ row.attempts + 1
    · left
      simp only [onFailure, if_pos hLast]
      exact ⟨_, rfl⟩
    · right
      simp only [onFailure, if_neg hLast]
      exact ⟨_, rfl, Nat.lt_of_not_le hLast⟩
  unfold drainOne
  split
  · exact Or.inr (Or.inl ⟨_, rfl⟩)
  · rename_i hTenant
    cases attempt with
    | factoryRaised exception =>
      refine Or.inr (Or.inr ⟨_, rfl, Or.inr ⟨?_, _, rfl⟩⟩)
      exact Option.isSome_iff_ne_none.mpr (by simpa using hTenant)
    | sessionRaised exception =>
      rcases hFailure exception with hFailed | ⟨reason, hPutOff⟩
      · exact Or.inr (Or.inl hFailed)
      · exact Or.inr
          (Or.inr ⟨reason, hPutOff.1, Or.inl hPutOff.2⟩)
    | runRaised exception =>
      rcases hFailure exception with hFailed | ⟨reason, hPutOff⟩
      · exact Or.inr (Or.inl hFailed)
      · exact Or.inr
          (Or.inr ⟨reason, hPutOff.1, Or.inl hPutOff.2⟩)
    | ran => exact Or.inl ⟨rfl, rfl⟩

variable {id : Nat} {s : Outbox} {now : Int}

/- A row after a verdict on some row. -/
theorem Outbox.find_afterDrain
    {row : OutboxRow}
    {rest : List OutboxRow}
    {verdict : Verdict}
    {after : StoredRow} :
    (s.afterDrain row rest verdict).rows.find id = some after ↔
      ∃ before, s.rows.find id = some before ∧
        after = if id = row.id then
            verdict.write row s.clock before
          else
            before :=
  Keyed.find_set_eq_some

--------
-- The Selection
--------

theorem mem_dueRows
    {rows : Keyed Nat StoredRow}
    {row : StoredRow} :
    (id, row) ∈ dueRows rows now ↔
      rows.find id = some row ∧ row.status = .pending ∧
        row.nextAttemptAt ≤ now := by
  rw [dueRows, List.mem_insertionSort, List.mem_filter,
    Keyed.find_eq_some_iff]
  simp

/- Of two rows that are due, the earlier one comes first. -/
theorem pairwise_dueRows
    (rows : Keyed Nat StoredRow)
    (now : Int) :
    (dueRows rows now).Pairwise DueBefore := by
  have hTotal : Std.Total DueBefore := by
    constructor
    intro x y
    unfold DueBefore
    omega
  have hTrans : IsTrans _ DueBefore := by
    constructor
    intro x y z hXY hYZ
    unfold DueBefore at *
    omega
  exact List.pairwise_insertionSort _ _

theorem nodup_dueRows
    (rows : Keyed Nat StoredRow)
    (now : Int) :
    ((dueRows rows now).map Prod.fst).Nodup := by
  apply ((List.perm_insertionSort _ _).map Prod.fst).nodup_iff.mpr
  exact rows.nodup.sublist (List.filter_sublist.map Prod.fst)

/- A selected row is pending, and is selected as it is. -/
theorem exists_stored_of_claimed
    {rows : Keyed Nat StoredRow}
    {batchSize : Nat}
    {row : OutboxRow}
    (hMem : row ∈ claimPending rows now batchSize) :
    ∃ stored, rows.find row.id = some stored ∧
      stored.status = .pending ∧
        row = OutboxRow.ofStored row.id stored := by
  rcases List.mem_map.mp hMem with ⟨⟨id, stored⟩, hTaken, hRow⟩
  rcases Iff.mp mem_dueRows (List.mem_of_mem_take hTaken) with
    ⟨hFind, hPending, -⟩
  subst hRow
  exact ⟨stored, hFind, hPending, rfl⟩

/- No row is selected twice. -/
theorem nodup_claimPending
    (rows : Keyed Nat StoredRow)
    (now : Int)
    (batchSize : Nat) :
    ((claimPending rows now batchSize).map
      OutboxRow.id).Nodup := by
  have hIds :
      (claimPending rows now batchSize).map OutboxRow.id =
        ((dueRows rows now).take batchSize).map Prod.fst := by
    rw [claimPending, List.map_map]
    rfl
  rw [hIds]
  exact (nodup_dueRows rows now).sublist
    ((List.take_sublist _ _).map Prod.fst)

/-
  What comes first by its due time and its id stands in front
  of a selected row.
-/
theorem mem_front_of_claimed
    {rows : Keyed Nat StoredRow}
    {batchSize earlier : Nat}
    {front rest : List OutboxRow}
    {row : OutboxRow}
    {other : StoredRow}
    (hClaimed :
      claimPending rows now batchSize = front ++ row :: rest)
    (hOther : rows.find earlier = some other)
    (hPending : other.status = .pending)
    (hEarlier : earlier < row.id)
    (hDue : ∀ stored, rows.find row.id = some stored →
      other.nextAttemptAt ≤ stored.nextAttemptAt) :
    earlier ∈ front.map OutboxRow.id := by
  rcases List.map_eq_append_iff.mp hClaimed with
    ⟨before, after, hTaken, hFront, hAfter⟩
  rcases List.map_eq_cons_iff.mp hAfter with
    ⟨⟨id, stored⟩, others, rfl, hRow, -⟩
  have hSplit :
      dueRows rows now =
        before ++ (id, stored) ::
          (others ++ (dueRows rows now).drop batchSize) := by
    conv_lhs =>
      rw [← List.take_append_drop batchSize (dueRows rows now),
        hTaken]
    simp
  have hId : row.id = id := by
    rw [← hRow]
    rfl
  have hMem : (id, stored) ∈ dueRows rows now := by
    rw [hSplit]
    simp
  rcases Iff.mp mem_dueRows hMem with ⟨hFind, -, hNow⟩
  rw [hId] at hDue hEarlier
  have hFirst := hDue stored hFind
  have hIn : (earlier, other) ∈ dueRows rows now :=
    Iff.mpr mem_dueRows ⟨hOther, hPending, hFirst.trans hNow⟩
  have hSorted := pairwise_dueRows rows now
  rw [hSplit] at hIn hSorted
  rcases List.mem_append.mp hIn with hBefore | hLater
  · rw [← hFront, List.map_map]
    exact List.mem_map.mpr ⟨_, hBefore, rfl⟩
  · exfalso
    rcases List.mem_cons.mp hLater with hSame | hBehind
    · have hIds := congrArg Prod.fst hSame
      exact absurd hIds (Nat.ne_of_lt hEarlier)
    · have hLate := (List.pairwise_cons.mp
        (List.pairwise_append.mp hSorted).2.1).1 _ hBehind
      dsimp only [DueBefore] at hLate
      omega

--------
-- The Batch In Hand
--------

/-
  Ids are new, and the rows in hand are pending rows just as
  the table has them.
-/
structure Outbox.Inv (s : Outbox) : Prop where
  below :
    ∀ id row, s.rows.find id = some row → id < s.nextId
  triedBelow : ∀ id ∈ s.tried, id < s.nextId
  claimed :
    ∀ row ∈ s.claimed, ∃ stored,
      s.rows.find row.id = some stored ∧
        stored.status = .pending ∧
          row = OutboxRow.ofStored row.id stored
  nodup : (s.claimed.map OutboxRow.id).Nodup

/- There is no row under the next id. -/
theorem Outbox.Inv.free
    (hInv : s.Inv) :
    s.rows.find s.nextId = none := by
  cases hFind : s.rows.find s.nextId with
  | none => rfl
  | some row => exact absurd (hInv.below _ row hFind) (by omega)

theorem Outbox.Inv.find_insert
    (hInv : s.Inv)
    {request : Enqueue}
    {row : StoredRow} :
    (s.insert request).rows.find id = some row ↔
      (id = s.nextId ∧ row = request.row s.clock) ∨
        s.rows.find id = some row :=
  Keyed.find_add_eq_some hInv.free

/- The rows in hand after an update of another row. -/
theorem Outbox.Inv.claimed_afterDrain
    (hInv : s.Inv)
    {row : OutboxRow}
    {rest : List OutboxRow}
    (hClaimed : s.claimed = row :: rest)
    {other : OutboxRow}
    (hOther : other ∈ rest) :
    other.id ≠ row.id := by
  have hNodup := hInv.nodup
  rw [hClaimed, List.map_cons, List.nodup_cons] at hNodup
  intro hSame
  apply hNodup.1
  rw [← hSame]
  exact List.mem_map_of_mem hOther

/- Every step keeps the invariant. -/
theorem Outbox.Inv.step
    (hInv : s.Inv)
    (a : OutboxAction) :
    (s.step a).Inv := by
  refine Outbox.step_cases a hInv ?_ ?_ ?_ ?_ ?_
  · intro micros
    exact ⟨hInv.below, hInv.triedBelow, hInv.claimed,
      hInv.nodup⟩
  · refine ⟨?_, ?_, hInv.claimed, hInv.nodup⟩
    · intro id row hFind
      exact Nat.lt_succ_of_lt (hInv.below id row hFind)
    · intro id hTried
      exact Nat.lt_succ_of_lt (hInv.triedBelow id hTried)
  · intro request _
    refine ⟨?_, ?_, ?_, hInv.nodup⟩
    · intro id row hFind
      rcases hInv.find_insert.mp hFind with ⟨rfl, -⟩ | hOld
      · exact Nat.lt_succ_self _
      · exact Nat.lt_succ_of_lt (hInv.below id row hOld)
    · intro id hTried
      exact Nat.lt_succ_of_lt (hInv.triedBelow id hTried)
    · intro row hRow
      rcases hInv.claimed row hRow with ⟨stored, hFind, hRest⟩
      exact ⟨stored, hInv.find_insert.mpr (Or.inr hFind), hRest⟩
  · intro batchSize _
    refine ⟨hInv.below, hInv.triedBelow, ?_,
      nodup_claimPending _ _ _⟩
    intro row hRow
    exact exists_stored_of_claimed hRow
  · intro attempt row rest _ hClaimed
    refine ⟨?_, ?_, ?_, ?_⟩
    · intro id after hFind
      rcases Outbox.find_afterDrain.mp hFind with
        ⟨before, hBefore, -⟩
      exact hInv.below id before hBefore
    · intro id hTried
      rcases List.mem_append.mp hTried with hOld | hNew
      · exact hInv.triedBelow id hOld
      · rw [List.mem_singleton.mp hNew]
        rcases hInv.claimed row (by simp [hClaimed]) with
          ⟨stored, hFind, -⟩
        exact hInv.below _ stored hFind
    · intro other hOther
      have hNe := hInv.claimed_afterDrain hClaimed hOther
      have hMem : other ∈ s.claimed := by
        rw [hClaimed]
        exact List.mem_cons_of_mem _ hOther
      rcases hInv.claimed other hMem with
        ⟨stored, hFind, hRest⟩
      refine ⟨stored, Outbox.find_afterDrain.mpr ?_, hRest⟩
      exact ⟨stored, hFind, by rw [if_neg hNe]⟩
    · have hNodup := hInv.nodup
      rw [hClaimed, List.map_cons, List.nodup_cons] at hNodup
      exact hNodup.2

theorem Outbox.inv_empty : Outbox.empty.Inv :=
  ⟨by simp [Outbox.empty], by simp [Outbox.empty],
    by simp [Outbox.empty], by simp [Outbox.empty]⟩

end GraphOutbox

end RegEngine
