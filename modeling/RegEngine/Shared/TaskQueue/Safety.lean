import RegEngine.Shared.TaskQueue

/-
  What the queue keeps in every run in which no lock expires
  on a row whose handler was started: rows are finished by the
  worker that holds their lock, finished rows stay finished,
  and no handler is started more often than its task allows.

  Main declarations:
    * `TaskQueue.Lawful`
    * `TaskQueue.Bounded`
    * `TaskQueue.safe_of_timely`
-/

--------
-- What A Step May Do
--------

namespace RegEngine

namespace TaskQueue

section

variable {ω : Type}

/- The worker whose outcome a step records. -/
def Action.finisher : Action ω → Option ω
| .markCompleted worker => some worker
| .markFailed worker => some worker
| _ => none

/- The statuses that a task ends in. -/
def TaskStatus.IsFinal (status : TaskStatus) : Prop :=
  status = .completed ∨ status = .failed ∨ status = .dead

/-
  What a step may do to a row: a processing row is finished by
  the worker that holds its lock, and a completed or dead row
  is left as it is, a dead one up to a replay.
-/
structure RowLawful
    (a : Action ω)
    (id : Nat)
    (row row' : TaskRow ω) : Prop where
  finished : row.status = .processing → row'.status.IsFinal →
    ∃ worker, a.finisher = some worker ∧
      row.lockedBy = some worker
  completed : row.status = .completed →
    row'.status = .completed
  dead : row.status = .dead →
    row'.status = .dead ∨ a = .replayDeadTask id

theorem RowLawful.refl
    (a : Action ω)
    (id : Nat)
    (row : TaskRow ω) :
    RowLawful a id row row := by
  refine ⟨?_, fun h => h, fun h => .inl h⟩
  intro hStatus hFinal
  rcases hFinal with h | h | h <;> simp [hStatus] at h

variable {a : Action ω}

/- A row that is not at its end and goes back to the queue. -/
theorem RowLawful.of_unfinished
    {id : Nat}
    {row row' : TaskRow ω}
    (hBefore : row.status = .processing)
    (hAfter : row'.status = .pending ∨
      row'.status = .processing) :
    RowLawful a id row row' := by
  refine ⟨?_, by simp [hBefore], by simp [hBefore]⟩
  intro _ hFinal
  rcases hAfter with h | h <;>
    simp [TaskStatus.IsFinal, h] at hFinal

/- A step keeps every row, and does to it what it may. -/
def Lawful
    (a : Action ω)
    (rows rows' : Keyed Nat (TaskRow ω)) : Prop :=
  ∀ id row, rows.find id = some row →
    ∃ row', rows'.find id = some row' ∧
      RowLawful a id row row'

/- A step that updates one row. -/
theorem lawful_set
    {rows : Keyed Nat (TaskRow ω)}
    {id : Nat}
    {f : TaskRow ω → TaskRow ω}
    (hRow : ∀ row, rows.find id = some row →
      RowLawful a id row (f row)) :
    Lawful a rows (rows.set id f) := by
  intro other row hFind
  by_cases hSame : other = id
  · subst hSame
    exact ⟨f row, Keyed.find_set_eq_some.mpr
      ⟨row, hFind, by rw [if_pos rfl]⟩, hRow row hFind⟩
  · exact ⟨row, Keyed.find_set_eq_some.mpr
      ⟨row, hFind, by rw [if_neg hSame]⟩, RowLawful.refl _ _ _⟩

/- No handler is started more often than its task allows. -/
def Bounded (s : State ω) : Prop :=
  ∀ id row, s.rows.find id = some row →
    (s.starts id : Int) ≤ row.maxAttempts

variable [DecidableEq ω]

/- A step is lawful and leads to a bounded state. -/
def Safe
    (config : ω → TaskWorker)
    (s : State ω)
    (a : Action ω) : Prop :=
  ∀ next, step config s a = some next →
    Lawful a s.rows next.rows ∧ Bounded next

/-
  A row is settled when every start of its handler is counted
  and the worker that holds its lock has put it down.
-/
def Settled (s : State ω) (id : Nat) (row : TaskRow ω) : Prop :=
  s.starts id ≤ row.attempts ∧
    ∀ worker ∈ row.lockedBy,
      (s.hands worker).task.map Task.id ≠ some id

/-
  Tasks allow an attempt, and stale locks are released on
  settled rows only.
-/
def Timely (s : State ω) : Action ω → Prop
| .enqueueTask _ new => 1 ≤ new.maxAttempts
| .releaseStaleLocks =>
    ∀ entry ∈ s.rows.rows, entry.2.IsStale s.now →
      Settled s entry.1 entry.2
| _ => True

instance
    (s : State ω)
    (a : Action ω) :
    Decidable (Timely s a) := by
  unfold Timely Settled
  split <;> infer_instance

end

--------
-- The Invariant
--------

section

variable {ω : Type}

/- A worker holds the lock of the row it has claimed. -/
structure Holds
    (worker : ω)
    (task : Task)
    (row : TaskRow ω) : Prop where
  processing : row.status = .processing
  lockedBy : row.lockedBy = some worker
  attempts : row.attempts = task.attempts
  maxAttempts : row.maxAttempts = task.maxAttempts

/-
  The starts of a task's handler against its attempts: counted
  while it waits, one ahead at most while it is processed.
-/
structure Sound (starts : Nat) (row : TaskRow ω) : Prop where
  allowed : 1 ≤ row.maxAttempts
  bounded : (starts : Int) ≤ row.maxAttempts
  pending : row.status = .pending →
    starts ≤ row.attempts ∧ row.attempts < row.maxAttempts
  processing : row.status = .processing →
    starts ≤ row.attempts + 1 ∧
      row.attempts < row.maxAttempts

/- What holds of the queue between two steps. -/
structure Inv (s : State ω) : Prop where
  hands : ∀ worker task,
    (s.hands worker).task = some task →
      ∃ row, s.rows.find task.id = some row ∧
        Holds worker task row
  claimed : ∀ worker task,
    s.hands worker = .claimed task →
      s.starts task.id ≤ task.attempts
  rows : ∀ id row, s.rows.find id = some row →
    Sound (s.starts id) row

variable {config : ω → TaskWorker} {s next : State ω}
  {worker : ω} {task : Task}

theorem Inv.bounded
    (hInv : Inv s) :
    Bounded s :=
  fun id row hFind => (hInv.rows id row hFind).bounded

theorem inv_start
    (now : Int) :
    Inv (State.start now : State ω) := by
  refine ⟨?_, ?_, ?_⟩
  · intro worker task hTask
    cases hTask
  · intro worker task hTask
    cases hTask
  · intro id row hFind
    cases hFind

/- No two workers have one task in hand. -/
theorem Inv.unique
    {other : ω}
    {otherTask : Task}
    (hInv : Inv s)
    (hTask : (s.hands worker).task = some task)
    (hOther : (s.hands other).task = some otherTask)
    (hSame : otherTask.id = task.id) :
    other = worker := by
  rcases hInv.hands worker task hTask with
    ⟨row, hFind, hHolds⟩
  rcases hInv.hands other otherTask hOther with
    ⟨otherRow, hOtherFind, hOtherHolds⟩
  rw [hSame, hFind, Option.some.injEq] at hOtherFind
  rw [← hOtherFind] at hOtherHolds
  exact Option.some.inj
    (hOtherHolds.lockedBy.symm.trans hHolds.lockedBy)

/- A task in hand has a row, so its id is not free. -/
theorem Inv.id_ne
    {id : Nat}
    (hInv : Inv s)
    (hTask : (s.hands worker).task = some task)
    (hRow : ∀ row, s.rows.find id = some row →
      row.status ≠ .processing) :
    task.id ≠ id := by
  intro hSame
  rcases hInv.hands worker task hTask with ⟨row, hFind, hHolds⟩
  rw [hSame] at hFind
  exact hRow row hFind hHolds.processing

variable [DecidableEq ω]

/- A worker that stops puts down what it has. -/
theorem Inv.put_idle
    (hInv : Inv s)
    (worker : ω) :
    Inv (s.put worker .idle) := by
  refine ⟨?_, ?_, hInv.rows⟩
  · intro other task hTask
    by_cases hSame : other = worker
    · simp [State.put, hSame, Hand.task] at hTask
    · simp only [State.put, Function.update_of_ne hSame] at hTask
      exact hInv.hands other task hTask
  · intro other task hTask
    by_cases hSame : other = worker
    · simp [State.put, hSame] at hTask
    · simp only [State.put, Function.update_of_ne hSame] at hTask
      exact hInv.claimed other task hTask

/-
  A worker changes the row it holds and puts the task down.
  The others have other tasks in hand.
-/
theorem Inv.finish
    {f : TaskRow ω → TaskRow ω}
    (hInv : Inv s)
    (hTask : (s.hands worker).task = some task)
    (hRow : ∀ row, s.rows.find task.id = some row →
      Holds worker task row →
        Sound (s.starts task.id) (f row)) :
    Inv ({ s with rows := s.rows.set task.id f }.put worker
      .idle) := by
  rcases hInv.hands worker task hTask with
    ⟨held, hHeld, hHolds⟩
  refine ⟨?_, ?_, ?_⟩
  · intro other otherTask hOther
    by_cases hSame : other = worker
    · simp [State.put, hSame, Hand.task] at hOther
    · simp only [State.put, Function.update_of_ne hSame]
        at hOther
      have hId : otherTask.id ≠ task.id := by
        intro hId
        exact hSame (hInv.unique hTask hOther hId)
      simp only [State.put, Keyed.find_set, if_neg hId]
      exact hInv.hands other otherTask hOther
  · exact (hInv.put_idle worker).claimed
  · intro id row hFind
    rcases Keyed.find_set_eq_some.mp hFind with
      ⟨before, hBefore, hRowEq⟩
    split at hRowEq
    · rename_i hSame
      rw [hRowEq]
      rw [hSame] at hBefore ⊢
      have hEq : held = before :=
        Option.some.inj (hHeld.symm.trans hBefore)
      rw [← hEq]
      exact hRow held hHeld hHolds
    · rw [hRowEq]
      exact hInv.rows id before hBefore

end

--------
-- The Steps
--------

variable {ω : Type} [DecidableEq ω]
  {config : ω → TaskWorker} {s next : State ω} {worker : ω}
  {id : Nat} {new : NewTask}

/-
  A row that nobody has in hand is replaced, and its starts
  are counted anew.
-/
omit [DecidableEq ω] in
theorem Inv.renew
    {rows : Keyed Nat (TaskRow ω)}
    (hInv : Inv s)
    (fresh : TaskRow ω)
    (hRow : ∀ row, s.rows.find id = some row →
      row.status ≠ .processing)
    (hId : rows.find id = some fresh)
    (hOthers : ∀ other, other ≠ id →
      rows.find other = s.rows.find other)
    (hStatus : fresh.status = .pending)
    (hAttempts : fresh.attempts = 0)
    (hAllowed : 1 ≤ fresh.maxAttempts) :
    Inv { s with
      rows := rows
      starts := Function.update s.starts id 0 } := by
  refine ⟨?_, ?_, ?_⟩
  · intro other task hTask
    have hNe := hInv.id_ne hTask hRow
    simp only [hOthers _ hNe]
    exact hInv.hands other task hTask
  · intro other task hTask
    have hNe : task.id ≠ id :=
      hInv.id_ne (by rw [hTask]; rfl) hRow
    simp only [Function.update_of_ne hNe]
    exact hInv.claimed other task hTask
  · intro other row hFind
    by_cases hSame : other = id
    · subst hSame
      simp only [hId, Option.some.injEq] at hFind
      simp only [Function.update_self]
      rw [← hFind]
      refine ⟨hAllowed, by omega, ?_, by simp [hStatus]⟩
      intro _
      omega
    · simp only [hOthers other hSame] at hFind
      simp only [Function.update_of_ne hSame]
      exact hInv.rows other row hFind

omit [DecidableEq ω] in
theorem enqueueTask_inv
    (hInv : Inv s)
    (hAllowed : 1 ≤ new.maxAttempts)
    (hStep : s.enqueueTask id new = some next) :
    Inv next ∧
      Lawful (.enqueueTask id new) s.rows next.rows := by
  have hKept : Lawful (.enqueueTask id new) s.rows s.rows :=
    fun other row hFind => ⟨row, hFind, RowLawful.refl _ _ _⟩
  unfold State.enqueueTask at hStep
  split at hStep
  · cases hStep
  · split at hStep
    · cases hStep
    · rename_i hFree
      have hNone := Keyed.find_eq_none_iff.mpr hFree
      split at hStep
      · cases hStep
        exact ⟨hInv, hKept⟩
      · cases hStep
        have hOthers : ∀ other, other ≠ id →
            (s.rows.add id (s.newRow new)).find other =
              s.rows.find other := by
          intro other hOther
          rw [Keyed.find_add, if_neg hOther]
        refine ⟨?_, ?_⟩
        · apply hInv.renew (s.newRow new)
          · simp [hNone]
          · simp [Keyed.find_add, hNone]
          · exact hOthers
          · rfl
          · rfl
          · exact hAllowed
        · intro other row hFind
          refine ⟨row, ?_, RowLawful.refl _ _ _⟩
          have hOther : other ≠ id := by
            intro hSame
            rw [hSame, hNone] at hFind
            cases hFind
          exact (hOthers other hOther).trans hFind

omit [DecidableEq ω] in
theorem replayDeadTask_inv
    (hInv : Inv s)
    (hStep : s.replayDeadTask id = some next) :
    Inv next ∧
      Lawful (.replayDeadTask id) s.rows next.rows := by
  have hKept : Lawful (.replayDeadTask id) s.rows s.rows :=
    fun other row hFind => ⟨row, hFind, RowLawful.refl _ _ _⟩
  unfold State.replayDeadTask at hStep
  split at hStep
  · cases hStep
    exact ⟨hInv, hKept⟩
  · rename_i row hFind
    split at hStep
    · rename_i hDead
      cases hStep
      refine ⟨?_, ?_⟩
      · apply hInv.renew { row.release s.now with attempts := 0 }
        · intro row' hFind'
          rw [hFind, Option.some.injEq] at hFind'
          simp [← hFind', hDead]
        · simp [Keyed.find_set, hFind]
        · intro other hOther
          rw [Keyed.find_set, if_neg hOther]
        · rfl
        · rfl
        · exact (hInv.rows id row hFind).allowed
      · apply lawful_set
        intro row' hFind'
        rw [hFind, Option.some.injEq] at hFind'
        rw [← hFind']
        exact ⟨by simp [hDead], by simp [hDead],
          fun _ => .inr rfl⟩
    · cases hStep
      exact ⟨hInv, hKept⟩

omit [DecidableEq ω] in
theorem releaseStaleLocks_inv
    (hInv : Inv s)
    (hTimely : Timely s .releaseStaleLocks) :
    Inv s.releaseStaleLocks ∧
      Lawful .releaseStaleLocks s.rows
        s.releaseStaleLocks.rows := by
  have hSettled : ∀ id row, s.rows.find id = some row →
      row.IsStale s.now → Settled s id row :=
    fun id row hFind =>
      hTimely (id, row) (Keyed.find_eq_some_iff.mp hFind)
  refine ⟨⟨?_, hInv.claimed, ?_⟩, ?_⟩
  · intro worker task hTask
    rcases hInv.hands worker task hTask with
      ⟨row, hFind, hHolds⟩
    have hFresh : ¬ row.IsStale s.now := by
      intro hStale
      have hHere : (s.hands worker).task = some task := hTask
      apply (hSettled task.id row hFind hStale).2 worker
        hHolds.lockedBy
      rw [hHere]
      rfl
    refine ⟨row, ?_, hHolds⟩
    simp [State.releaseStaleLocks, hFind, hFresh]
  · intro id row hFind
    simp only [State.releaseStaleLocks, Keyed.find_update,
      Option.map_eq_some_iff] at hFind
    rcases hFind with ⟨before, hBefore, hRow⟩
    have hSound := hInv.rows id before hBefore
    split at hRow
    · rename_i hStale
      rw [← hRow]
      have hCount := (hSettled id before hBefore hStale).1
      have hMax := (hSound.processing hStale.1).2
      exact ⟨hSound.allowed, hSound.bounded,
        fun _ => ⟨hCount, hMax⟩, nofun⟩
    · rw [← hRow]
      exact hSound
  · intro id row hFind
    refine ⟨_, by
      simp only [State.releaseStaleLocks, Keyed.find_update,
        hFind, Option.map_some]
      rfl, ?_⟩
    split
    · rename_i hStale
      exact RowLawful.of_unfinished hStale.1 (.inl rfl)
    · exact RowLawful.refl _ _ _

/- A claimed row is locked by the worker that claims it. -/
theorem claimOne_inv
    (hInv : Inv s)
    (hStep : s.claimOne config worker id = some next) :
    Inv next ∧ Lawful (.claimOne worker id) s.rows next.rows := by
  unfold State.claimOne at hStep
  split at hStep
  · rename_i row hIdle hFind
    split at hStep
    · rename_i hWinner
      have hPending : row.status = .pending := by
        have hEligible := hWinner.1
        simp only [TaskRow.isEligible, Bool.and_eq_true,
          decide_eq_true_eq] at hEligible
        exact hEligible.1.1.1
      have hSound := hInv.rows id row hFind
      have hFree : ∀ row', s.rows.find id = some row' →
          row'.status ≠ .processing := by
        intro row' hFind'
        rw [hFind, Option.some.injEq] at hFind'
        simp [← hFind', hPending]
      cases hStep
      refine ⟨⟨?_, ?_, ?_⟩, ?_⟩
      · intro other task hTask
        by_cases hSame : other = worker
        · subst hSame
          simp only [State.put, Function.update_self, Hand.task,
            Option.some.injEq] at hTask
          subst hTask
          refine ⟨_, by
            simp only [State.put, Keyed.find_set, hFind,
              Option.map_some, if_pos]
            rfl, ?_⟩
          exact ⟨rfl, rfl, rfl, rfl⟩
        · simp only [State.put, Function.update_of_ne hSame]
            at hTask
          have hNe := hInv.id_ne hTask hFree
          simp only [State.put, Keyed.find_set, if_neg hNe]
          exact hInv.hands other task hTask
      · intro other task hTask
        by_cases hSame : other = worker
        · subst hSame
          simp only [State.put, Function.update_self,
            Hand.claimed.injEq] at hTask
          subst hTask
          exact (hSound.pending hPending).1
        · simp only [State.put, Function.update_of_ne hSame]
            at hTask
          exact hInv.claimed other task hTask
      · intro other row' hFind'
        rcases Keyed.find_set_eq_some.mp hFind' with
          ⟨before, hBefore, hRow⟩
        split at hRow
        · rename_i hSame
          rw [hSame, hFind, Option.some.injEq] at hBefore
          rw [hRow, ← hBefore, hSame]
          have hCount := hSound.pending hPending
          exact ⟨hSound.allowed, hSound.bounded,
            nofun,
            fun _ => ⟨Nat.le_succ_of_le hCount.1, hCount.2⟩⟩
        · rw [hRow]
          exact hInv.rows other before hBefore
      · apply lawful_set
        intro row' hFind'
        rw [hFind, Option.some.injEq] at hFind'
        rw [← hFind']
        exact ⟨by simp [hPending], by simp [hPending],
          by simp [hPending]⟩
    · cases hStep
  · cases hStep

theorem releaseClaim_inv
    (hInv : Inv s)
    (hStep : s.releaseClaim config worker = some next) :
    Inv next ∧ Lawful (.releaseClaim worker) s.rows next.rows := by
  unfold State.releaseClaim at hStep
  split at hStep
  · rename_i task hClaimed
    have hTask : (s.hands worker).task = some task := by
      rw [hClaimed]
      rfl
    split at hStep
    · cases hStep
    · cases hStep
      refine ⟨?_, ?_⟩
      · apply hInv.finish hTask
        intro row hFind hHolds
        have hSound := hInv.rows task.id row hFind
        have hMax := (hSound.processing hHolds.processing).2
        have hCount := hInv.claimed worker task hClaimed
        rw [← hHolds.attempts] at hCount
        rw [State.releaseOwn,
          if_pos ⟨hHolds.processing, hHolds.lockedBy⟩]
        exact ⟨hSound.allowed, hSound.bounded,
          fun _ => ⟨hCount, hMax⟩, nofun⟩
      · apply lawful_set
        intro row _
        unfold State.releaseOwn
        split
        · rename_i hOwn
          exact RowLawful.of_unfinished hOwn.1 (.inl rfl)
        · exact RowLawful.refl _ _ _
  · cases hStep

theorem startHandler_inv
    (hInv : Inv s)
    (hStep : s.startHandler config worker = some next) :
    Inv next ∧ Lawful (.startHandler worker) s.rows next.rows := by
  unfold State.startHandler at hStep
  split at hStep
  · rename_i task hClaimed
    have hTask : (s.hands worker).task = some task := by
      rw [hClaimed]
      rfl
    rcases hInv.hands worker task hTask with
      ⟨held, hHeld, hHolds⟩
    split at hStep
    · cases hStep
      refine ⟨⟨?_, ?_, ?_⟩, ?_⟩
      · intro other otherTask hOther
        by_cases hSame : other = worker
        · subst hSame
          simp only [State.put, Function.update_self, Hand.task,
            Option.some.injEq] at hOther
          subst hOther
          exact ⟨held, hHeld, hHolds⟩
        · simp only [State.put, Function.update_of_ne hSame]
            at hOther
          exact hInv.hands other otherTask hOther
      · intro other otherTask hOther
        by_cases hSame : other = worker
        · simp [State.put, hSame] at hOther
        · simp only [State.put, Function.update_of_ne hSame]
            at hOther
          have hId : otherTask.id ≠ task.id := by
            intro hId
            apply hSame
            exact hInv.unique hTask (by rw [hOther]; rfl) hId
          simp only [State.put, Function.update_of_ne hId]
          exact hInv.claimed other otherTask hOther
      · intro id row hFind
        have hFindRow : s.rows.find id = some row := hFind
        have hSound := hInv.rows id row hFindRow
        by_cases hId : id = task.id
        · subst hId
          rw [hHeld, Option.some.injEq] at hFindRow
          have hCount := hInv.claimed worker task hClaimed
          rw [← hHolds.attempts, hFindRow] at hCount
          have hProcessing := hHolds.processing
          rw [hFindRow] at hProcessing
          have hMax := (hSound.processing hProcessing).2
          simp only [State.put, Function.update_self]
          refine ⟨hSound.allowed, by omega, ?_, ?_⟩
          · intro hPending
            simp [hProcessing] at hPending
          · intro _
            omega
        · simp only [State.put, Function.update_of_ne hId]
          exact hSound
      · intro id row hFind
        exact ⟨row, hFind, RowLawful.refl _ _ _⟩
    · cases hStep
  · cases hStep

variable {a : Action ω}

/- The lock's owner records the outcome of the handler. -/
omit [DecidableEq ω] in
theorem finish_lawful
    {task : Task}
    {f : TaskRow ω → TaskRow ω}
    (hInv : Inv s)
    (hTask : (s.hands worker).task = some task)
    (hFinisher : a.finisher = some worker) :
    Lawful a s.rows (s.rows.set task.id f) := by
  rcases hInv.hands worker task hTask with
    ⟨held, hHeld, hHolds⟩
  apply lawful_set
  intro row hFind
  rw [hHeld, Option.some.injEq] at hFind
  rw [← hFind]
  exact ⟨fun _ _ => ⟨worker, hFinisher, hHolds.lockedBy⟩,
    by simp [hHolds.processing], by simp [hHolds.processing]⟩

theorem markCompleted_inv
    (hInv : Inv s)
    (hStep : s.markCompleted worker = some next) :
    Inv next ∧
      Lawful (.markCompleted worker) s.rows next.rows := by
  unfold State.markCompleted at hStep
  split at hStep
  · rename_i task hRunning
    have hTask : (s.hands worker).task = some task := by
      rw [hRunning]
      rfl
    cases hStep
    refine ⟨?_, finish_lawful hInv hTask rfl⟩
    apply hInv.finish hTask
    intro row hFind _
    have hSound := hInv.rows task.id row hFind
    exact ⟨hSound.allowed, hSound.bounded,
      nofun, nofun⟩
  · cases hStep

theorem markFailed_inv
    (hInv : Inv s)
    (hStep : s.markFailed worker = some next) :
    Inv next ∧
      Lawful (.markFailed worker) s.rows next.rows := by
  unfold State.markFailed at hStep
  split at hStep
  · rename_i task hRunning
    have hTask : (s.hands worker).task = some task := by
      rw [hRunning]
      rfl
    cases hStep
    refine ⟨?_, finish_lawful hInv hTask rfl⟩
    apply hInv.finish hTask
    intro row hFind hHolds
    have hSound := hInv.rows task.id row hFind
    have hCount := (hSound.processing hHolds.processing).1
    rw [hHolds.attempts] at hCount
    simp only [State.failRow]
    split
    · exact ⟨hSound.allowed, hSound.bounded,
        nofun, nofun⟩
    · rename_i hMore
      refine ⟨hSound.allowed, hSound.bounded, ?_,
        nofun⟩
      intro _
      refine ⟨hCount, ?_⟩
      rw [← hHolds.maxAttempts] at hMore
      exact Int.not_le.mp hMore
  · cases hStep

/- Every timely step keeps the invariant, and is lawful. -/
theorem step_inv
    (hInv : Inv s)
    (hTimely : Timely s a)
    (hStep : step config s a = some next) :
    Inv next ∧ Lawful a s.rows next.rows := by
  have hKept : ∀ a : Action ω, Lawful a s.rows s.rows :=
    fun a id row hFind => ⟨row, hFind, RowLawful.refl _ _ _⟩
  cases a with
  | wait seconds =>
      cases hStep
      exact ⟨⟨hInv.hands, hInv.claimed, hInv.rows⟩, hKept _⟩
  | enqueueTask id new => exact enqueueTask_inv hInv hTimely hStep
  | releaseStaleLocks =>
      cases hStep
      exact releaseStaleLocks_inv hInv hTimely
  | claimOne worker id => exact claimOne_inv hInv hStep
  | releaseClaim worker => exact releaseClaim_inv hInv hStep
  | startHandler worker => exact startHandler_inv hInv hStep
  | markCompleted worker => exact markCompleted_inv hInv hStep
  | markFailed worker => exact markFailed_inv hInv hStep
  | crash worker =>
      cases hStep
      exact ⟨hInv.put_idle worker, hKept _⟩
  | replayDeadTask id => exact replayDeadTask_inv hInv hStep

/-
  In a run whose steps are timely every step is lawful, and no
  handler is ever started more often than its task allows.
-/
theorem safe_of_timely
    (config : ω → TaskWorker)
    (now : Int)
    (actions : List (Action ω))
    (hTimely :
      Machine.Meets (step config) Timely (.start now) actions) :
    Machine.Meets (step config) (Safe config) (.start now)
      actions := by
  apply Machine.Meets.of_invariant ?_ ?_ (inv_start now) hTimely
  · intro s a next hInv hTimely hStep
    exact (step_inv hInv hTimely hStep).1
  · intro s a hInv hTimely next hStep
    rcases step_inv hInv hTimely hStep with ⟨hNext, hLawful⟩
    exact ⟨hLawful, hNext.bounded⟩

/- Workers that handle every task, with the default lock. -/
def plainWorker : TaskWorker :=
  ⟨300, none, fun _ => true⟩

/- A task that may be attempted twice. -/
def plainTask : NewTask :=
  ⟨"report", none, 0, 2, none, none, none⟩

/-
  A worker stops before it calls the handler; another takes
  the task over, fails once and completes it.
-/
def takeoverRun : List (Action Bool) :=
  [.enqueueTask 1 plainTask, .claimOne false 1, .crash false,
    .wait 301, .releaseStaleLocks, .claimOne true 1,
    .startHandler true, .markFailed true, .wait 60,
    .claimOne true 1, .startHandler true, .markCompleted true]

theorem safe_takeoverRun :
    (Machine.run (step (fun _ => plainWorker)) (.start 0)
        takeoverRun).isSome = true ∧
      Machine.Meets (step (fun _ => plainWorker))
        (Safe (fun _ => plainWorker)) (.start 0)
        takeoverRun :=
  ⟨by decide,
    safe_of_timely (fun _ => plainWorker) 0 takeoverRun
      (by decide)⟩

/- A handler that outlives its lock, up to its outcome. -/
def stolenRun : List (Action Bool) :=
  [.enqueueTask 1 plainTask, .claimOne false 1,
    .startHandler false, .wait 301, .releaseStaleLocks,
    .claimOne true 1]

/- The late worker completes the row of another worker. -/
theorem not_safe_stolenRun :
    ¬ ∀ (ω : Type) [DecidableEq ω] (config : ω → TaskWorker)
        (now : Int) (actions : List (Action ω)),
      Machine.Meets (step config) (Safe config) (.start now)
        actions := by
  intro hSafe
  have hLast :=
    hSafe Bool (fun _ => plainWorker) 0
      (stolenRun ++ [.markCompleted false])
  have hRows :
      ((Machine.run (step (fun _ => plainWorker)) (.start 0)
        stolenRun).bind (fun mid =>
          (step (fun _ => plainWorker) mid
            (.markCompleted false)).bind (fun next =>
              (mid.rows.find 1).bind (fun row =>
                (next.rows.find 1).map (fun row' =>
                  (row.status, row.lockedBy, row'.status)))))) =
        some (.processing, some true, .completed) := by
    decide
  rcases Option.bind_eq_some_iff.mp hRows with
    ⟨mid, hMid, hRows⟩
  rcases Option.bind_eq_some_iff.mp hRows with
    ⟨next, hNext, hRows⟩
  rcases Option.bind_eq_some_iff.mp hRows with
    ⟨row, hRow, hRows⟩
  rcases Option.map_eq_some_iff.mp hRows with
    ⟨row', hRow', hStatus⟩
  rw [Prod.mk.injEq, Prod.mk.injEq] at hStatus
  rcases (hLast.last hMid next hNext).1 1 row hRow with
    ⟨found, hFound, hLawful⟩
  rw [hRow', Option.some.injEq] at hFound
  rw [← hFound] at hLawful
  rcases hLawful.finished hStatus.1 (.inl hStatus.2.2) with
    ⟨worker, hWorker, hLocked⟩
  rw [hStatus.2.1] at hLocked
  rw [← hLocked] at hWorker
  cases hWorker

end TaskQueue

end RegEngine
