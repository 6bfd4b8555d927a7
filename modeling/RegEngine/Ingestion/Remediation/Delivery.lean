import RegEngine.Ingestion.Remediation.Tokens
import RegEngine.Library.Machine

/-
  Correction links and their delivery: `create_link`,
  `revoke_link` and `exchange` (`remediation/router.py`,
  `remediation/supplier_router.py`), and the drainers of the
  notification outbox (`remediation/delivery.py`), each step
  one statement or transaction that commits.

  What a notification says, and the audit rows, are left out.

  Main declarations:
    * `Remediation.OutboxRow`
    * `Remediation.Drainer`
    * `Remediation.Delivery`
-/

--------
-- Outbox Rows
--------

namespace RegEngine

namespace Remediation

section

/- `fsma.notification_outbox.status`. -/
inductive OutboxStatus where
  | pending
  | queued
  | sending
  | sent
  | skipped
  | failed
  deriving DecidableEq

/- A row of `fsma.notification_outbox`. -/
structure OutboxRow where
  caseId : Nat
  recipient : Option String
  tokenId : Option Nat
  status : OutboxStatus
  attempts : Nat
  nextAttemptAt : Int
  claimedAt : Option Int
  deriving DecidableEq

abbrev OutboxTable := Keyed Nat OutboxRow

/- `MAX_ATTEMPTS`. -/
def maxAttempts : Nat := 8

/- `_BACKOFF`. -/
def backoff : List Int :=
  [30, 120, 600, 1800, 3600, 14400, 43200, 86400]

/- `STALE_CLAIM_MINUTES`, in seconds. -/
def staleClaim : Int := 15 * 60

/- The rows that `_due_rows` and `_claim` may take. -/
def OutboxRow.isDue (row : OutboxRow) (now : Int) : Bool :=
  match row.status with
  | .queued => row.nextAttemptAt ≤ now
  | .sending => row.claimedAt.any (· ≤ now - staleClaim)
  | _ => false

/- A text that is there and not empty. -/
def isGiven (value : Option String) : Bool :=
  value.any (· ≠ "")

/- The row that `enqueue_preview` inserts. -/
def enqueuedRow
    (now : Int)
    (caseId : Nat)
    (recipient : Option String)
    (tokenId : Option Nat) :
    OutboxRow where
  caseId := caseId
  recipient := recipient
  tokenId := tokenId
  status := if isGiven recipient then .queued else .pending
  attempts := 0
  nextAttemptAt := now
  claimedAt := none

/- `_token_skip_reason`. -/
def tokenSkipReason
    (now : Int)
    (token : Option TokenRow) :
    Option String :=
  match token with
  | none => some "token_missing"
  | some row =>
      if row.supersededBy.isSome then some "token_superseded"
      else if row.revokedAt.isSome then some "token_revoked"
      else if row.expiresAt ≤ now then some "token_expired"
      else if maxExchanges ≤ row.exchangeCount then
        some "token_already_exchanged"
      else
        none

--------
-- The Outcomes Of A Row
--------

/- How a drainer is done with a row. -/
inductive Outcome where
  | sent
  | skipped (reason : String)
  | failing
  deriving DecidableEq

/- A row as `_due_rows` read it. -/
structure DueRow where
  id : Nat
  recipient : Option String
  tokenId : Option Nat
  attempts : Nat
  deriving DecidableEq

/- `_on_send_failure` on a row. -/
def sendFailure
    (now : Int)
    (due : DueRow)
    (row : OutboxRow) :
    OutboxRow :=
  let attempts := due.attempts + 1
  if maxAttempts ≤ attempts then
    { row with status := .failed, attempts := attempts }
  else
    { row with
      status := .queued
      attempts := attempts
      nextAttemptAt :=
        now + backoff.getD (min (attempts - 1)
          (backoff.length - 1)) 0 }

/- `_finish_sent`, `_finish_skipped` or `_on_send_failure`. -/
def Outcome.finish
    (now : Int)
    (due : DueRow)
    (row : OutboxRow) :
    Outcome → OutboxRow
| .sent => { row with status := .sent }
| .skipped _ => { row with status := .skipped }
| .failing => sendFailure now due row

/- Where a drainer is with the row that it has claimed. -/
inductive Stage where
  | claimed
  | checked (tokenId : Nat) (token : TokenRow)
  | ready
  | done (outcome : Outcome)
  deriving DecidableEq

/- A drainer: the row it works on, and the rows to come. -/
structure Drainer where
  busy : Option (DueRow × Stage)
  batch : List DueRow
  deriving DecidableEq

/- A drainer without rows. -/
def Drainer.idle : Drainer := ⟨none, []⟩

--------
-- The State
--------

/- A row of `fsma.remediation_cases`. -/
structure LinkCase where
  status : CaseStatus
  allowedFields : List String
  deriving DecidableEq

/-
  The tables of a tenant, the drainers, and the tokens that
  requests have read. Beside them stand the raw tokens that
  sessions were minted for, the provider calls made for each
  row, and the rows that were enqueued before a buyer revoked
  the links of their case.
-/
structure Delivery (ω ρ : Type) where
  now : Int
  cases : Keyed Nat LinkCase
  tokens : TokenTable
  outbox : OutboxTable
  drainers : ω → Drainer
  requests : ρ → Option (String × Nat × TokenRow)
  sessions : List String
  calls : Nat → Nat
  doomed : List Nat

/- The body of `create_link`. -/
structure LinkRequest where
  authorizedFields : Option (List String)
  supplierEmail : Option String
  expiresHours : Nat
  deriving DecidableEq

/-
  What happens next: time passes, a case moves on, a buyer or
  a supplier makes a request, or a drainer takes a step.
-/
inductive DeliveryAction (ω ρ : Type) where
  | wait (seconds : Nat)
  | transition (caseId : Nat) (expectedFrom toStatus : CaseStatus)
  | createLink (caseId : Nat) (request : LinkRequest)
      (tokenId : Nat) (rawToken : String) (outboxId : Nat)
  | revokeLink (caseId : Nat)
  | resolveToken (request : ρ) (rawToken : String)
  | exchange (request : ρ) (rawSession : String)
  | dueRows (drainer : ω) (batchSize : Nat)
  | claim (drainer : ω)
  | check (drainer : ω) (suppressed : Bool)
  | remint (drainer : ω) (tokenId : Nat) (rawToken : String)
  | remintFails (drainer : ω)
  | send (drainer : ω) (delivered : Bool)
  | finish (drainer : ω)
  | crash (drainer : ω)
  deriving DecidableEq

namespace Delivery

variable {ω ρ : Type}

/- Cases without links. -/
def start (now : Int) (cases : Keyed Nat LinkCase) :
    Delivery ω ρ :=
  ⟨now, cases, .empty, .empty, fun _ => .idle, fun _ => none,
    [], fun _ => 0, []⟩

end Delivery

--------
-- Buyers And Suppliers
--------

/- The statuses in which `create_link` issues a link. -/
def linkStatus (status : CaseStatus) : Option CaseStatus :=
  if status = .awaitingSupplier then
    some .awaitingSupplier
  else if status = .supplierActionRequired ∨
      status = .buyerReview ∨ status = .escalated then do
    let ready ← transition status status .notificationReady
    transition ready .notificationReady .awaitingSupplier
  else
    none

/- The fields that a link lets a supplier correct. -/
def linkFields
    (allowed : List String)
    (authorized : Option (List String)) :
    Option (List String) :=
  if allowed.isEmpty then
    none
  else
    match authorized with
    | none => some allowed
    | some wanted =>
        let kept := allowed.filter (wanted.contains ·)
        if kept.isEmpty then none else some kept

namespace Delivery

variable {ω ρ : Type} [DecidableEq ω] [DecidableEq ρ]

/- A transition of a case by another route. -/
def moveCase
    (s : Delivery ω ρ)
    (caseId : Nat)
    (expectedFrom toStatus : CaseStatus) :
    Option (Delivery ω ρ) := do
  let found ← s.cases.find caseId
  let status ← transition found.status expectedFrom toStatus
  return { s with
    cases := s.cases.set caseId (fun row =>
      { row with status := status }) }

/-
  `create_link`: the live tokens of the case are revoked, a
  fresh one is issued, and its notification is enqueued.
-/
def createLink
    (sha256Hex : String → String)
    (s : Delivery ω ρ)
    (caseId : Nat)
    (request : LinkRequest)
    (tokenId : Nat)
    (rawToken : String)
    (outboxId : Nat) :
    Option (Delivery ω ρ) := do
  let found ← s.cases.find caseId
  let fields ←
    linkFields found.allowedFields request.authorizedFields
  let status ← linkStatus found.status
  let revoked := revokeTokensForCase s.tokens s.now caseId
  let tokens ←
    issueToken revoked.1 tokenId caseId (sha256Hex rawToken)
      (s.now + request.expiresHours * 3600) revoked.2.head?
  if outboxId ∈ s.outbox.keys then
    none
  else
    return { s with
      cases := s.cases.set caseId (fun _ => ⟨status, fields⟩)
      tokens := tokens
      outbox := s.outbox.add outboxId
        (enqueuedRow s.now caseId request.supplierEmail
          (some tokenId)) }

/- `revoke_link`. -/
def revokeLink (s : Delivery ω ρ) (caseId : Nat) :
    Option (Delivery ω ρ) := do
  let _ ← s.cases.find caseId
  return { s with
    tokens := (revokeTokensForCase s.tokens s.now caseId).1
    doomed := s.doomed ++
      ((s.outbox.rows.filter (fun row =>
        row.2.caseId = caseId)).map Prod.fst) }

/- The first statement of an exchange reads the token. -/
def resolveToken
    (sha256Hex : String → String)
    (s : Delivery ω ρ)
    (request : ρ)
    (rawToken : String) :
    Delivery ω ρ :=
  { s with
    requests := Function.update s.requests request
      ((resolveActiveToken s.tokens s.now
        (sha256Hex rawToken)).map (rawToken, ·)) }

/- The guarded update of an exchange mints the session. -/
def exchange
    (sha256Hex : String → String)
    (s : Delivery ω ρ)
    (request : ρ)
    (rawSession : String) :
    Option (Delivery ω ρ) :=
  match s.requests request with
  | none => none
  | some (rawToken, read) =>
      let closed :=
        { s with
          requests := Function.update s.requests request none }
      match exchangeForSession s.tokens s.now read
          (sha256Hex rawSession) with
      | none => some closed
      | some tokens =>
          some { closed with
            tokens := tokens
            sessions := rawToken :: s.sessions }

end Delivery

end

--------
-- Drainers
--------

namespace Delivery

variable {ω ρ : Type} [DecidableEq ω] [DecidableEq ρ]

/- A drainer goes on to another row or stage. -/
def put (s : Delivery ω ρ) (drainer : ω) (state : Drainer) :
    Delivery ω ρ :=
  { s with
    drainers := Function.update s.drainers drainer state }

/- A row as the drainer reads it. -/
def dueRow (entry : Nat × OutboxRow) : DueRow :=
  ⟨entry.1, entry.2.recipient, entry.2.tokenId,
    entry.2.attempts⟩

/- `_due_rows`, in the order of insertion. -/
def dueRows
    (s : Delivery ω ρ)
    (drainer : ω)
    (batchSize : Nat) :
    Option (Delivery ω ρ) :=
  if s.drainers drainer = .idle then
    some (s.put drainer ⟨none,
      ((s.outbox.rows.filter (fun entry =>
        entry.2.isDue s.now)).take batchSize).map dueRow⟩)
  else
    none

/- `_claim` on the next row of the batch. -/
def claim (s : Delivery ω ρ) (drainer : ω) :
    Option (Delivery ω ρ) :=
  match (s.drainers drainer).busy,
      (s.drainers drainer).batch with
  | none, due :: rest =>
      if (s.outbox.find due.id).any (·.isDue s.now) then
        some ({ s with
          outbox := s.outbox.set due.id (fun row =>
            { row with
              status := .sending
              claimedAt := some s.now }) }.put drainer
                ⟨some (due, .claimed), rest⟩)
      else
        some (s.put drainer ⟨none, rest⟩)
  | _, _ => none

/-
  The checks of `_drain_one` before anything is written: the
  recipient, the suppression list, and the token.
-/
def checkStage
    (s : Delivery ω ρ)
    (due : DueRow)
    (suppressed : Bool) :
    Stage :=
  if !isGiven due.recipient then
    .done (.skipped "no_recipient")
  else if suppressed then
    .done (.skipped "recipient_suppressed")
  else
    match due.tokenId with
    | none => .ready
    | some tokenId =>
        match s.tokens.find tokenId with
        | none =>
            .done (.skipped "token_missing")
        | some token =>
            match tokenSkipReason s.now (some token) with
            | some reason => .done (.skipped reason)
            | none => .checked tokenId token

def check
    (s : Delivery ω ρ)
    (drainer : ω)
    (suppressed : Bool) :
    Option (Delivery ω ρ) :=
  match (s.drainers drainer).busy with
  | some (due, .claimed) =>
      some (s.put drainer
        ⟨some (due, s.checkStage due suppressed),
          (s.drainers drainer).batch⟩)
  | _ => none

/-
  `_remint_link`: the tokens of the case are revoked, one is
  issued with the expiry of the token that was checked, and
  the row points at it.
-/
def remint
    (sha256Hex : String → String)
    (s : Delivery ω ρ)
    (drainer : ω)
    (newId : Nat)
    (rawToken : String) :
    Option (Delivery ω ρ) :=
  match (s.drainers drainer).busy with
  | some (due, .checked tokenId token) => do
      let tokens ←
        issueToken
          (revokeTokensForCase s.tokens s.now token.caseId).1
          newId token.caseId (sha256Hex rawToken)
          token.expiresAt (some tokenId)
      return { s with
        tokens := tokens
        outbox := s.outbox.set due.id (fun row =>
          { row with tokenId := some newId }) }.put drainer
            ⟨some (due, .ready), (s.drainers drainer).batch⟩
  | _ => none

/- The transaction of the re-mint fails and is rolled back. -/
def remintFails (s : Delivery ω ρ) (drainer : ω) :
    Option (Delivery ω ρ) :=
  match (s.drainers drainer).busy with
  | some (due, .checked _ _) =>
      some (s.put drainer
        ⟨some (due, .done .failing),
          (s.drainers drainer).batch⟩)
  | _ => none

/- The provider is called. -/
def send
    (s : Delivery ω ρ)
    (drainer : ω)
    (delivered : Bool) :
    Option (Delivery ω ρ) :=
  match (s.drainers drainer).busy with
  | some (due, .ready) =>
      some ({ s with
        calls := Function.update s.calls due.id
          (s.calls due.id + 1) }.put drainer
            ⟨some (due,
              .done (if delivered then .sent else .failing)),
              (s.drainers drainer).batch⟩)
  | _ => none

/- The outcome of the row is recorded. -/
def finish (s : Delivery ω ρ) (drainer : ω) :
    Option (Delivery ω ρ) :=
  match (s.drainers drainer).busy with
  | some (due, .done outcome) =>
      some ({ s with
        outbox := s.outbox.set due.id (fun row =>
          outcome.finish s.now due row) }.put drainer
            ⟨none, (s.drainers drainer).batch⟩)
  | _ => none

/- One step. A drainer that stops leaves its row claimed. -/
def step
    (sha256Hex : String → String)
    (s : Delivery ω ρ) :
    DeliveryAction ω ρ → Option (Delivery ω ρ)
| .wait seconds => some { s with now := s.now + seconds }
| .transition caseId expectedFrom toStatus =>
    s.moveCase caseId expectedFrom toStatus
| .createLink caseId request tokenId rawToken outboxId =>
    s.createLink sha256Hex caseId request tokenId rawToken
      outboxId
| .revokeLink caseId => s.revokeLink caseId
| .resolveToken request rawToken =>
    some (s.resolveToken sha256Hex request rawToken)
| .exchange request rawSession =>
    s.exchange sha256Hex request rawSession
| .dueRows drainer batchSize => s.dueRows drainer batchSize
| .claim drainer => s.claim drainer
| .check drainer suppressed => s.check drainer suppressed
| .remint drainer tokenId rawToken =>
    s.remint sha256Hex drainer tokenId rawToken
| .remintFails drainer => s.remintFails drainer
| .send drainer delivered => s.send drainer delivered
| .finish drainer => s.finish drainer
| .crash drainer => some (s.put drainer .idle)

end Delivery

end Remediation

end RegEngine
