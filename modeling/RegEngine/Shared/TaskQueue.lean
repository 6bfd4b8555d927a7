import Mathlib.Algebra.Group.Nat.Defs
import RegEngine.Library.Keyed
import RegEngine.Library.Machine

/-
  The durable task queue (`shared/task_queue.py`): the rows of
  `fsma.task_queue`, the workers that claim them, and every
  statement that a worker or an operator commits.

  A worker's payload, the texts of errors and the columns that
  nothing reads are left out.

  Main declarations:
    * `TaskQueue.TaskRow`
    * `TaskQueue.State`
    * `TaskQueue.step`
-/

--------
-- Rows
--------

namespace RegEngine

namespace TaskQueue

section

/- `TASK_QUEUE_STATUSES`. -/
inductive TaskStatus where
  | pending
  | processing
  | completed
  | failed
  | dead
  deriving DecidableEq

/- A row of `fsma.task_queue`; times are in seconds. -/
structure TaskRow (ω : Type) where
  taskType : String
  status : TaskStatus
  priority : Int
  tenantId : Option String
  idempotencyKey : Option String
  createdAt : Int
  scheduledAt : Int
  attempts : Nat
  maxAttempts : Int
  lockedBy : Option ω
  lockedUntil : Option Int
  visibilityTimeoutSeconds : Option Int

/- The arguments of `enqueue_task`. -/
structure NewTask where
  taskType : String
  tenantId : Option String
  priority : Int
  maxAttempts : Int
  idempotencyKey : Option String
  scheduledAt : Option Int
  visibilityTimeoutSeconds : Option Int
  deriving DecidableEq

/- `compute_backoff_seconds`. -/
def computeBackoffSeconds (attempts : Nat) : Nat :=
  min (30 * 2 ^ attempts) 600

namespace TaskRow

variable {ω : Type}

/- The lock columns cleared, and the row back in the queue. -/
def release (row : TaskRow ω) (scheduledAt : Int) : TaskRow ω :=
  { row with
    status := .pending
    lockedBy := none
    lockedUntil := none
    scheduledAt := scheduledAt }

/- The row locked by a worker. -/
def lock
    (row : TaskRow ω)
    (worker : ω)
    (lockedUntil : Int) :
    TaskRow ω :=
  { row with
    status := .processing
    lockedBy := some worker
    lockedUntil := some lockedUntil }

/- The row at its end, with the lock columns cleared. -/
def finish
    (row : TaskRow ω)
    (status : TaskStatus)
    (attempts : Nat) :
    TaskRow ω :=
  { row with
    status := status
    attempts := attempts
    lockedBy := none
    lockedUntil := none }

/- A row whose lock has expired. -/
def IsStale (row : TaskRow ω) (now : Int) : Prop :=
  row.status = .processing ∧
    ∃ until_ ∈ row.lockedUntil, until_ < now

instance (row : TaskRow ω) (now : Int) :
    Decidable (row.IsStale now) := by
  unfold IsStale
  infer_instance

end TaskRow

--------
-- Workers
--------

/-
  `TaskWorker`, with the task types that its process has a
  handler for.
-/
structure TaskWorker where
  lockDuration : Int
  taskTypes : Option (List String)
  handles : String → Bool

/- `FOREIGN_TASK_DEFER_SECONDS`. -/
def foreignTaskDeferSeconds : Int := 1

/- What `_claim_one` returns. -/
structure Task where
  id : Nat
  taskType : String
  attempts : Nat
  maxAttempts : Int
  deriving DecidableEq

inductive Hand where
  | idle
  | claimed (task : Task)
  | running (task : Task)
  deriving DecidableEq

def Hand.task : Hand → Option Task
| .idle => none
| .claimed task => some task
| .running task => some task

/-
  The queue, its clock, what each worker has in hand, and how
  often the handler of a task was started since the task was
  enqueued or last replayed.
-/
structure State (ω : Type) where
  now : Int
  rows : Keyed Nat (TaskRow ω)
  hands : ω → Hand
  starts : Nat → Nat

/- An empty queue. -/
def State.start {ω : Type} (now : Int) : State ω :=
  ⟨now, .empty, fun _ => .idle, fun _ => 0⟩

/-
  What happens next: time passes, a task is enqueued, a worker
  takes one of its steps or stops, or an operator replays a
  dead task.
-/
inductive Action (ω : Type) where
  | wait (seconds : Nat)
  | enqueueTask (id : Nat) (new : NewTask)
  | releaseStaleLocks
  | claimOne (worker : ω) (id : Nat)
  | releaseClaim (worker : ω)
  | startHandler (worker : ω)
  | markCompleted (worker : ω)
  | markFailed (worker : ω)
  | crash (worker : ω)
  | replayDeadTask (id : Nat)
  deriving DecidableEq

end

--------
-- Enqueue And Replay
--------

section

variable {ω : Type} [DecidableEq ω]

namespace State

def newRow (s : State ω) (new : NewTask) : TaskRow ω where
  taskType := new.taskType
  status := .pending
  priority := new.priority
  tenantId := new.tenantId
  idempotencyKey := new.idempotencyKey
  createdAt := s.now
  scheduledAt := new.scheduledAt.getD s.now
  attempts := 0
  maxAttempts := new.maxAttempts
  lockedBy := none
  lockedUntil := none
  visibilityTimeoutSeconds := new.visibilityTimeoutSeconds

/- The tenant has a task under the idempotency key. -/
def hasKey (s : State ω) (new : NewTask) : Bool :=
  new.idempotencyKey.isSome &&
    s.rows.rows.any (fun row =>
      row.2.tenantId == new.tenantId &&
        row.2.idempotencyKey == new.idempotencyKey)

/-
  `enqueue_task`, under an id that the sequence has not given
  out. A key without a tenant is a `ValueError`.
-/
def enqueueTask
    (s : State ω)
    (id : Nat)
    (new : NewTask) :
    Option (State ω) :=
  if new.idempotencyKey.isSome ∧
      (new.tenantId.getD "") = "" then
    none
  else if id ∈ s.rows.keys then
    none
  else if s.hasKey new then
    some s
  else
    some { s with
      rows := s.rows.add id (s.newRow new)
      starts := Function.update s.starts id 0 }

/- `replay_dead_tasks` on one task. -/
def replayDeadTask (s : State ω) (id : Nat) :
    Option (State ω) :=
  match s.rows.find id with
  | none => some s
  | some row =>
      if row.status = .dead then
        some { s with
          rows := s.rows.set id (fun row =>
            { row.release s.now with attempts := 0 })
          starts := Function.update s.starts id 0 }
      else
        some s

end State

end

--------
-- The Steps Of A Worker
--------

variable {ω : Type} [DecidableEq ω]

/- The task types of a worker let it claim a row. -/
def TaskWorker.claims
    (worker : TaskWorker)
    (taskType : String) :
    Bool :=
  match worker.taskTypes with
  | none => true
  | some types => types.isEmpty || types.contains taskType

/- `status = 'pending' AND scheduled_at <= NOW() AND …`. -/
def TaskRow.isEligible
    (row : TaskRow ω)
    (worker : TaskWorker)
    (now : Int) :
    Bool :=
  row.status = .pending && row.scheduledAt ≤ now &&
    row.lockedUntil.all (· ≤ now) &&
    worker.claims row.taskType

/-
  `ORDER BY priority DESC, scheduled_at ASC, created_at ASC`.
  The best row of each tenant, and then the best of these, is
  the best row of all.
-/
def TaskRow.before (row other : TaskRow ω) : Bool :=
  other.priority < row.priority ||
    (row.priority = other.priority &&
      (row.scheduledAt < other.scheduledAt ||
        (row.scheduledAt = other.scheduledAt &&
          row.createdAt < other.createdAt)))

namespace State

/- A worker puts down what it has in hand. -/
def put (s : State ω) (worker : ω) (hand : Hand) : State ω :=
  { s with hands := Function.update s.hands worker hand }

/- `_release_stale_locks`. -/
def releaseStaleLocks (s : State ω) : State ω :=
  { s with
    rows := s.rows.update (fun _ row =>
      if row.IsStale s.now then row.release s.now else row) }

/- `_claim_one`, where a winner of the query is the row `id`. -/
def claimOne
    (config : ω → TaskWorker)
    (s : State ω)
    (worker : ω)
    (id : Nat) :
    Option (State ω) :=
  match s.hands worker, s.rows.find id with
  | .idle, some row =>
      if row.isEligible (config worker) s.now ∧
          s.rows.rows.all (fun other =>
            !(other.2.isEligible (config worker) s.now &&
              other.2.before row)) = true then
        some ({ s with
          rows := s.rows.set id (fun row =>
            row.lock worker
              (s.now + row.visibilityTimeoutSeconds.getD
                (config worker).lockDuration)) }.put worker
          (.claimed
            ⟨id, row.taskType, row.attempts, row.maxAttempts⟩))
      else
        none
  | _, _ => none

/- `_release_claim` on a row: only the lock's owner lands it. -/
def releaseOwn
    (worker : ω)
    (scheduledAt : Int)
    (row : TaskRow ω) :
    TaskRow ω :=
  if row.status = .processing ∧ row.lockedBy = some worker then
    row.release scheduledAt
  else
    row

/-
  `_release_claim`, when `_dispatch` has no handler for the
  task.
-/
def releaseClaim
    (config : ω → TaskWorker)
    (s : State ω)
    (worker : ω) :
    Option (State ω) :=
  match s.hands worker with
  | .claimed task =>
      if (config worker).handles task.taskType then
        none
      else
        some ({ s with
          rows := s.rows.set task.id
            (releaseOwn worker
              (s.now + foreignTaskDeferSeconds)) }.put worker .idle)
  | _ => none

/- `_dispatch` calls the handler of the task. -/
def startHandler
    (config : ω → TaskWorker)
    (s : State ω)
    (worker : ω) :
    Option (State ω) :=
  match s.hands worker with
  | .claimed task =>
      if (config worker).handles task.taskType then
        some ({ s with
          starts := Function.update s.starts task.id
            (s.starts task.id + 1) }.put worker (.running task))
      else
        none
  | _ => none

/- `_mark_completed`, after the handler has returned. -/
def markCompleted (s : State ω) (worker : ω) :
    Option (State ω) :=
  match s.hands worker with
  | .running task =>
      some ({ s with
        rows := s.rows.set task.id (fun row =>
          row.finish .completed row.attempts) }.put worker .idle)
  | _ => none

/- What `_mark_failed` and `_mark_dead` make of a row. -/
def failRow
    (now : Int)
    (task : Task)
    (row : TaskRow ω) :
    TaskRow ω :=
  let newAttempts := task.attempts + 1
  if task.maxAttempts ≤ newAttempts then
    row.finish .dead newAttempts
  else
    { row.finish .pending newAttempts with
      scheduledAt := now + computeBackoffSeconds newAttempts }

/- `_mark_failed`, after the handler has raised. -/
def markFailed (s : State ω) (worker : ω) :
    Option (State ω) :=
  match s.hands worker with
  | .running task =>
      some ({ s with
        rows := s.rows.set task.id (failRow s.now task) }.put
          worker .idle)
  | _ => none

end State

/-
  One step. A worker that stops, or whose statement fails,
  leaves its row as it is.
-/
def step
    (config : ω → TaskWorker)
    (s : State ω) :
    Action ω → Option (State ω)
| .wait seconds => some { s with now := s.now + seconds }
| .enqueueTask id new => s.enqueueTask id new
| .releaseStaleLocks => some s.releaseStaleLocks
| .claimOne worker id => s.claimOne config worker id
| .releaseClaim worker => s.releaseClaim config worker
| .startHandler worker => s.startHandler config worker
| .markCompleted worker => s.markCompleted worker
| .markFailed worker => s.markFailed worker
| .crash worker => some (s.put worker .idle)
| .replayDeadTask id => s.replayDeadTask id

end TaskQueue

end RegEngine
