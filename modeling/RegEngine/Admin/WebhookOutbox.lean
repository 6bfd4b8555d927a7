import Mathlib.Data.List.Sort
import RegEngine.Library.Keyed
import RegEngine.Library.Machine

/-
  The webhook outbox of the admin service
  (`admin/app/webhook_outbox.py`) with any number of drainers:
  each selects a batch and then works on one row after
  another, its statements between those of the others.

  Main declarations:
    * `WebhookOutbox.drainOne`
    * `WebhookOutbox.Outbox`
    * `WebhookOutbox.Outbox.step`
    * `WebhookOutbox.steady_iff_undisturbed`
-/

--------
-- Rows
--------

namespace RegEngine

namespace WebhookOutbox

section

/- `OutboxStatus`. -/
inductive OutboxStatus where
  | pending
  | delivered
  | failed
  deriving DecidableEq

/- A row of `webhook_outbox`; times are in microseconds. -/
structure OutboxRow where
  tenantId : String
  eventType : String
  targetUrl : String
  dedupeKey : Option String
  status : OutboxStatus
  attempts : Nat
  maxAttempts : Nat
  nextAttemptAt : Int
  deliveredAt : Option Int
  lastError : Option String
  lastStatusCode : Option Nat
  deriving DecidableEq

/- A row as a drainer has selected it. -/
structure ClaimedRow where
  id : Nat
  tenantId : String
  attempts : Nat
  maxAttempts : Nat
  deriving DecidableEq

/- `r["attempts"] or 0` and `r["max_attempts"] or 10`. -/
def ClaimedRow.ofRow (id : Nat) (row : OutboxRow) :
    ClaimedRow where
  id := id
  tenantId := row.tenantId
  attempts := row.attempts
  maxAttempts := if row.maxAttempts = 0 then 10
    else row.maxAttempts

def microsPerSecond : Int :=
  1000000

/- The arguments of `enqueue_webhook`. -/
structure Enqueue where
  tenantId : String
  eventType : String
  targetUrl : String
  dedupeKey : Option String
  maxAttempts : Int
  initialDelay : Int
  deriving DecidableEq

/- The checks of `enqueue_webhook`. -/
def Enqueue.isValid (request : Enqueue) : Bool :=
  request.tenantId ≠ "" && request.eventType ≠ "" &&
    request.targetUrl ≠ "" && 1 ≤ request.maxAttempts

/- The row that `enqueue_webhook` inserts. -/
def Enqueue.row (request : Enqueue) (now : Int) :
    OutboxRow where
  tenantId := request.tenantId
  eventType := request.eventType
  targetUrl := request.targetUrl
  dedupeKey := request.dedupeKey
  status := .pending
  attempts := 0
  maxAttempts := request.maxAttempts.toNat
  nextAttemptAt := now + max 0 request.initialDelay
  deliveredAt := none
  lastError := none
  lastStatusCode := none

/- `uq_webhook_outbox_dedupe`; no two nulls are equal. -/
def isDuplicate
    (rows : Keyed Nat OutboxRow)
    (request : Enqueue) : Bool :=
  request.dedupeKey.isSome &&
    rows.rows.any (fun entry =>
      entry.2.eventType == request.eventType &&
        entry.2.dedupeKey == request.dedupeKey)

--------
-- One Delivery
--------

/- What the tenant has configured: an URL and a secret. -/
structure WebhookSettings where
  url : Option String
  secret : Option String
  deriving DecidableEq

def WebhookSettings.isConfigured
    (settings : WebhookSettings) : Bool :=
  settings.url.getD "" ≠ "" && settings.secret.getD "" ≠ ""

/- What comes of a request: an exception, or an answer. -/
inductive Reply where
  | raised (exception : String)
  | answered (statusCode : Nat) (body : String)
  deriving DecidableEq

/- `_is_transient_status`. -/
def isTransientStatus (statusCode : Nat) : Bool :=
  statusCode == 408 || statusCode == 429 ||
    (500 ≤ statusCode && statusCode < 600)

/- The receiver has taken the payload. -/
def Reply.isSuccess : Reply → Bool
| .raised _ => false
| .answered statusCode _ =>
    200 ≤ statusCode && statusCode < 300

/- The delivery may be tried again. -/
def Reply.isTransient : Reply → Bool
| .raised _ => true
| .answered statusCode _ => isTransientStatus statusCode

/- The text of a reply that is no success. -/
def Reply.reason : Reply → String
| .raised exception => "transport error: " ++ exception
| .answered statusCode body =>
    "HTTP " ++ toString statusCode ++ ": " ++ body

def Reply.statusCode? : Reply → Option Nat
| .raised _ => none
| .answered statusCode _ => some statusCode

/- What a drainer writes about a row. -/
inductive Verdict where
  | delivered (statusCode : Option Nat)
  | failed (reason : String) (statusCode : Option Nat)
  | rescheduled
      (attempts : Nat)
      (reason : String)
      (statusCode : Option Nat)
  deriving DecidableEq

/- `_on_failure`. -/
def onFailure (row : ClaimedRow) (reply : Reply) : Verdict :=
  let newAttempts := row.attempts + 1
  if !reply.isTransient then
    .failed reply.reason reply.statusCode?
  else if row.maxAttempts ≤ newAttempts then
    .failed
      ("exhausted " ++ toString newAttempts ++ " attempts: " ++
        reply.reason)
      reply.statusCode?
  else
    .rescheduled newAttempts reply.reason reply.statusCode?

/- `_drain_one`. -/
def drainOne
    (settings : WebhookSettings)
    (reply : Reply)
    (row : ClaimedRow) : Verdict :=
  if !settings.isConfigured then
    .failed "tenant webhook url/secret no longer configured"
      none
  else if reply.isSuccess then
    .delivered reply.statusCode?
  else
    onFailure row reply

/- `_BACKOFF`, in seconds. -/
def backoff : List Int :=
  [5, 30, 120, 600, 1800, 3600, 14400, 43200, 86400, 86400]

/- The delay before the next attempt. -/
def delayAfter (attempts : Nat) : Int :=
  backoff.getD (min (attempts - 1) (backoff.length - 1)) 0

/- `reason[:4000]`. -/
def clipped (reason : String) : String :=
  String.ofList (reason.toList.take 4000)

/- The update of a row; it asks for the id only. -/
def Verdict.write (now : Int) (row : OutboxRow) :
    Verdict → OutboxRow
| .delivered statusCode =>
    { row with
      status := .delivered
      deliveredAt := some now
      lastStatusCode := statusCode
      lastError := none }
| .failed reason statusCode =>
    { row with
      status := .failed
      lastError := some (clipped reason)
      lastStatusCode := statusCode }
| .rescheduled attempts reason statusCode =>
    { row with
      attempts := attempts
      lastError := some (clipped reason)
      lastStatusCode := statusCode
      nextAttemptAt :=
        now + delayAfter attempts * microsPerSecond }

--------
-- Drainers
--------

/-
  The table, and the selected rows that every drainer has not
  come to yet.
-/
structure Outbox (ω : Type) where
  rows : Keyed Nat OutboxRow
  drainers : ω → List ClaimedRow

/- A statement of some process. -/
inductive OutboxAction (ω : Type) where
  | enqueue (id : Nat) (now : Int) (request : Enqueue)
  | claim (drainer : ω) (now : Int) (batchSize : Nat)
  | drain
      (drainer : ω)
      (now : Int)
      (settings : WebhookSettings)
      (reply : Reply)
  | stop (drainer : ω)
  deriving DecidableEq

/- The order of the selection. -/
def dueBefore (x y : Nat × OutboxRow) : Bool :=
  x.2.nextAttemptAt < y.2.nextAttemptAt ||
    (x.2.nextAttemptAt == y.2.nextAttemptAt && x.1 ≤ y.1)

/- `_claim_pending`: a plain selection. -/
def claimPending
    (rows : Keyed Nat OutboxRow)
    (now : Int)
    (batchSize : Nat) : List ClaimedRow :=
  (((rows.rows.filter (fun entry =>
      entry.2.status == .pending &&
        entry.2.nextAttemptAt ≤ now)).mergeSort
          dueBefore).take batchSize).map (fun entry =>
      ClaimedRow.ofRow entry.1 entry.2)

variable {ω : Type} [DecidableEq ω]

/- A drainer with other rows in hand. -/
def Outbox.withDrainer
    (s : Outbox ω)
    (drainer : ω)
    (claimed : List ClaimedRow) : Outbox ω :=
  { s with
    drainers := Function.update s.drainers drainer claimed }

/-
  One step. A drainer selects again when it has come to the
  end of its batch.
-/
def Outbox.step (s : Outbox ω) : OutboxAction ω → Outbox ω
| .enqueue id now request =>
    if request.isValid && !isDuplicate s.rows request then
      { s with rows := s.rows.add id (request.row now) }
    else
      s
| .claim drainer now batchSize =>
    if (s.drainers drainer).isEmpty then
      s.withDrainer drainer (claimPending s.rows now batchSize)
    else
      s
| .drain drainer now settings reply =>
    match s.drainers drainer with
    | [] => s
    | row :: rest =>
        { s.withDrainer drainer rest with
          rows := s.rows.set row.id (fun stored =>
            (drainOne settings reply row).write now stored) }
| .stop drainer => s.withDrainer drainer []

def Outbox.run
    (s : Outbox ω)
    (actions : List (OutboxAction ω)) : Outbox ω :=
  actions.foldl Outbox.step s

end

--------
-- What A Row Keeps
--------

/- A row later on: its outcome stays, its attempts never go
   down. -/
structure OutboxRow.Steady (before after : OutboxRow) : Prop
    where
  status :
    before.status ≠ .pending → after.status = before.status
  attempts : before.attempts ≤ after.attempts

/- The rows of a table, later on. -/
def SteadyRows (before after : Keyed Nat OutboxRow) : Prop :=
  ∀ id row, before.find id = some row →
    ∃ row', after.find id = some row' ∧ row.Steady row'

theorem OutboxRow.Steady.refl
    (row : OutboxRow) :
    row.Steady row :=
  ⟨fun _ => rfl, Nat.le_refl _⟩

/- What is kept twice is kept. -/
theorem OutboxRow.Steady.trans
    {first second third : OutboxRow}
    (hFirst : first.Steady second)
    (hSecond : second.Steady third) :
    first.Steady third := by
  refine ⟨?_, hFirst.attempts.trans hSecond.attempts⟩
  intro hEnded
  have hSame := hFirst.status hEnded
  have hEnded' : second.status ≠ .pending := by
    rw [hSame]
    exact hEnded
  rw [hSecond.status hEnded', hSame]

theorem SteadyRows.refl
    (rows : Keyed Nat OutboxRow) :
    SteadyRows rows rows := by
  intro id row hFind
  exact ⟨row, hFind, OutboxRow.Steady.refl row⟩

theorem SteadyRows.trans
    {first second third : Keyed Nat OutboxRow}
    (hFirst : SteadyRows first second)
    (hSecond : SteadyRows second third) :
    SteadyRows first third := by
  intro id row hFind
  rcases hFirst id row hFind with ⟨row', hFind', hSteady⟩
  rcases hSecond id row' hFind' with
    ⟨row'', hFind'', hSteady'⟩
  exact ⟨row'', hFind'', hSteady.trans hSteady'⟩

/- An insert changes no row. -/
theorem steadyRows_add
    (rows : Keyed Nat OutboxRow)
    (id : Nat)
    (row : OutboxRow) :
    SteadyRows rows (rows.add id row) := by
  intro other old hFind
  refine ⟨old, ?_, OutboxRow.Steady.refl old⟩
  rw [Keyed.find_add]
  by_cases hSame : other = id
  · rw [if_pos hSame, ← hSame, hFind, Option.getD_some]
  · rw [if_neg hSame, hFind]

/- An update keeps the rows steady when its row is. -/
theorem steadyRows_set_iff
    {rows : Keyed Nat OutboxRow}
    {id : Nat}
    {write : OutboxRow → OutboxRow} :
    SteadyRows rows (rows.set id write) ↔
      ∀ row, rows.find id = some row →
        row.Steady (write row) := by
  constructor
  · intro hSteady row hFind
    rcases hSteady id row hFind with ⟨row', hFind', hRow⟩
    rw [Keyed.find_set, if_pos rfl, hFind, Option.map_some,
      Option.some.injEq] at hFind'
    rw [hFind']
    exact hRow
  · intro hWrite other row hFind
    by_cases hSame : other = id
    · subst hSame
      refine ⟨write row, ?_, hWrite row hFind⟩
      rw [Keyed.find_set, if_pos rfl, hFind, Option.map_some]
    · refine ⟨row, ?_, OutboxRow.Steady.refl row⟩
      rw [Keyed.find_set, if_neg hSame]
      exact hFind

--------
-- Undisturbed Updates
--------

/-
  An update of a row that another drainer may have come to
  first: the row is still pending, or has the very outcome
  that is written; and a row that is put off has not been
  tried more often than this drainer knows.
-/
structure ClaimedRow.Undisturbed
    (claimed : ClaimedRow)
    (settings : WebhookSettings)
    (reply : Reply)
    (row : OutboxRow) : Prop where
  delivered :
    settings.isConfigured = true → reply.isSuccess = true →
      row.status = .pending ∨ row.status = .delivered
  failed :
    settings.isConfigured = false ∨
        (reply.isSuccess = false ∧
          (reply.isTransient = false ∨
            claimed.maxAttempts ≤ claimed.attempts + 1)) →
      row.status = .pending ∨ row.status = .failed
  rescheduled :
    settings.isConfigured = true → reply.isSuccess = false →
      reply.isTransient = true →
        claimed.attempts + 1 < claimed.maxAttempts →
          row.attempts ≤ claimed.attempts + 1

/- An outcome that is written keeps just its own. -/
theorem steady_write_ended_iff
    {row after : OutboxRow}
    {status : OutboxStatus}
    (hStatus : after.status = status)
    (hAttempts : after.attempts = row.attempts) :
    row.Steady after ↔
      row.status = .pending ∨ row.status = status := by
  constructor
  · intro hSteady
    by_cases hPending : row.status = .pending
    · exact Or.inl hPending
    · right
      rw [← hStatus]
      exact (hSteady.status hPending).symm
  · intro hEither
    refine ⟨?_, Nat.le_of_eq hAttempts.symm⟩
    intro hEnded
    rw [hStatus]
    exact (hEither.resolve_left hEnded).symm

variable {now : Int}

/- A delivery keeps just a pending row, or a delivered one. -/
theorem steady_write_delivered_iff
    {row : OutboxRow}
    {statusCode : Option Nat} :
    row.Steady (Verdict.write now row (.delivered statusCode)) ↔
      row.status = .pending ∨ row.status = .delivered :=
  steady_write_ended_iff rfl rfl

/- A failure keeps just a pending row, or a failed one. -/
theorem steady_write_failed_iff
    {row : OutboxRow}
    {reason : String}
    {statusCode : Option Nat} :
    row.Steady
        (Verdict.write now row (.failed reason statusCode)) ↔
      row.status = .pending ∨ row.status = .failed :=
  steady_write_ended_iff rfl rfl

/- An update keeps a row steady when it is undisturbed. -/
theorem steady_write_iff
    {claimed : ClaimedRow}
    {settings : WebhookSettings}
    {reply : Reply}
    {row : OutboxRow} :
    row.Steady
        ((drainOne settings reply claimed).write now row) ↔
      claimed.Undisturbed settings reply row := by
  unfold drainOne onFailure
  cases hConfigured : settings.isConfigured with
  | false =>
    rw [Bool.not_false, if_pos rfl, steady_write_failed_iff]
    constructor
    · intro hEither
      exact ⟨by simp [hConfigured], fun _ => hEither,
        by simp [hConfigured]⟩
    · intro hUndisturbed
      exact hUndisturbed.failed (Or.inl hConfigured)
  | true =>
    rw [Bool.not_true, if_neg Bool.false_ne_true]
    cases hSuccess : reply.isSuccess with
    | true =>
      rw [if_pos rfl, steady_write_delivered_iff]
      constructor
      · intro hEither
        exact ⟨fun _ _ => hEither,
          by simp [hConfigured, hSuccess], by simp [hSuccess]⟩
      · intro hUndisturbed
        exact hUndisturbed.delivered hConfigured hSuccess
    | false =>
      rw [if_neg Bool.false_ne_true]
      cases hTransient : reply.isTransient with
      | false =>
        rw [Bool.not_false, if_pos rfl,
          steady_write_failed_iff]
        constructor
        · intro hEither
          exact ⟨by simp [hSuccess], fun _ => hEither,
            by simp [hTransient]⟩
        · intro hUndisturbed
          exact hUndisturbed.failed
            (Or.inr ⟨hSuccess, Or.inl hTransient⟩)
      | true =>
        rw [Bool.not_true, if_neg Bool.false_ne_true]
        by_cases hExhausted :
            claimed.maxAttempts ≤ claimed.attempts + 1
        · rw [if_pos hExhausted, steady_write_failed_iff]
          constructor
          · intro hEither
            exact ⟨by simp [hSuccess], fun _ => hEither,
              fun _ _ _ hLess => absurd hExhausted
                (Nat.not_le.mpr hLess)⟩
          · intro hUndisturbed
            exact hUndisturbed.failed
              (Or.inr ⟨hSuccess, Or.inr hExhausted⟩)
        · rw [if_neg hExhausted]
          constructor
          · intro hSteady
            exact ⟨by simp [hSuccess],
              by simp [hConfigured, hTransient, hExhausted],
              fun _ _ _ _ => hSteady.attempts⟩
          · intro hUndisturbed
            exact ⟨fun _ => rfl,
              hUndisturbed.rescheduled hConfigured hSuccess
                hTransient (Nat.lt_of_not_le hExhausted)⟩

variable {ω : Type} [DecidableEq ω]

/- A step whose update, if any, is undisturbed. -/
def Outbox.Undisturbed (s : Outbox ω) :
    OutboxAction ω → Prop
| .drain drainer _ settings reply =>
    ∀ claimed ∈ (s.drainers drainer).head?,
      ∀ row, s.rows.find claimed.id = some row →
        claimed.Undisturbed settings reply row
| _ => True

/- A step keeps the rows steady when it is undisturbed. -/
theorem steady_step_iff
    (s : Outbox ω)
    (a : OutboxAction ω) :
    SteadyRows s.rows (s.step a).rows ↔ s.Undisturbed a := by
  cases a with
  | enqueue id now request =>
    refine iff_of_true ?_ trivial
    simp only [Outbox.step]
    split
    · exact steadyRows_add _ _ _
    · exact SteadyRows.refl _
  | claim drainer now batchSize =>
    refine iff_of_true ?_ trivial
    simp only [Outbox.step]
    split
    · exact SteadyRows.refl _
    · exact SteadyRows.refl _
  | stop drainer => exact iff_of_true (SteadyRows.refl _) trivial
  | drain drainer now settings reply =>
    simp only [Outbox.step, Outbox.Undisturbed]
    cases s.drainers drainer with
    | nil => exact iff_of_true (SteadyRows.refl _) (by simp)
    | cons claimed rest =>
      simp only [List.head?_cons, Option.mem_some_iff,
        forall_eq', steadyRows_set_iff, steady_write_iff]

/-
  In a run of any drainers, outcomes stay and attempts never
  go down between any two of its states exactly when every
  update is undisturbed.
-/
theorem steady_iff_undisturbed
    (s : Outbox ω)
    (actions : List (OutboxAction ω)) :
    (∀ before later, before <+: later → later <+: actions →
      SteadyRows (s.run before).rows (s.run later).rows) ↔
      Machine.Meets (Machine.total Outbox.step)
        Outbox.Undisturbed s actions :=
  Machine.related_iff_meets
    (R := fun s t => SteadyRows s.rows t.rows)
    (fun s => SteadyRows.refl s.rows)
    SteadyRows.trans
    steady_step_iff s actions

/- No rows, and nothing in hand. -/
def Outbox.empty : Outbox ω where
  rows := Keyed.empty
  drainers := fun _ => []

/- A notification with two attempts. -/
def notification : Enqueue where
  tenantId := "tenant"
  eventType := "hallucination_resolved"
  targetUrl := "https://example.com/hook"
  dedupeKey := none
  maxAttempts := 2
  initialDelay := 0

/- An URL and a secret. -/
def configured : WebhookSettings where
  url := some "https://example.com/hook"
  secret := some "secret"

/-
  Two drainers select a row; the first delivers it, the second
  gets an answer that no retry helps.
-/
def crossedDrains : List (OutboxAction Bool) :=
  [.enqueue 0 0 notification, .claim true 1 100,
    .claim false 1 100,
    .drain true 2 configured (.answered 200 "ok"),
    .drain false 3 configured (.answered 400 "duplicate")]

/- A delivered row becomes a failed one. -/
theorem not_steady_crossedDrains :
    ¬ ∀ (actions : List (OutboxAction Bool))
        (before later : List (OutboxAction Bool)),
      before <+: later → later <+: actions →
        SteadyRows (Outbox.empty.run before).rows
          (Outbox.empty.run later).rows := by
  intro hAll
  have hStatus :
      ((Outbox.empty.run (crossedDrains.take 4)).rows.find
          0).map OutboxRow.status = some .delivered ∧
        ((Outbox.empty.run crossedDrains).rows.find
          0).map OutboxRow.status = some .failed := by
    decide +kernel
  rcases Option.map_eq_some_iff.mp hStatus.1 with
    ⟨row, hFind, hDelivered⟩
  rcases hAll crossedDrains (crossedDrains.take 4)
    crossedDrains (List.take_prefix 4 _) List.prefix_rfl 0 row
    hFind with ⟨row', hFind', hSteady⟩
  have hSame := hSteady.status (by rw [hDelivered]; decide)
  rw [hFind', Option.map_some, Option.some.injEq, hSame,
    hDelivered] at hStatus
  cases hStatus.2

end WebhookOutbox

end RegEngine
