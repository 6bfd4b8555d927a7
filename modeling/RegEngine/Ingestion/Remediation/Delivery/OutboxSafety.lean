import Mathlib.Data.Fintype.Basic
import RegEngine.Ingestion.Remediation.Delivery

/-
  What the notification outbox keeps in every run in which no
  row is claimed while another drainer has it in hand, with a
  provider call that was not counted, or on an old count of
  its attempts: an outcome stays, and a row makes at most
  `MAX_ATTEMPTS` provider calls.

  Main declarations:
    * `Delivery.OutboxSafe`
    * `Delivery.Punctual`
    * `Delivery.outboxSafe_of_punctual`
-/

--------
-- What A Step May Do
--------

namespace RegEngine

namespace Remediation

section

/- The outcomes of a row. -/
def OutboxStatus.IsFinal (status : OutboxStatus) : Prop :=
  status = .sent ∨ status = .skipped ∨ status = .failed

namespace Delivery

variable {ω ρ : Type}

/- A drainer works on a row. -/
def HasInHand
    (s : Delivery ω ρ)
    (drainer : ω)
    (id : Nat) : Prop :=
  (s.drainers drainer).busy.map (fun busy => busy.1.id) =
    some id

def OutcomesStay (before after : OutboxTable) : Prop :=
  ∀ id row, before.find id = some row → row.status.IsFinal →
    ∃ row', after.find id = some row' ∧
      row'.status = row.status

/-
  The claims of rows that are due: the attempts that the
  drainer has read are those of the row, and a row that is
  taken over is in nobody's hand, with no provider call that
  its attempts do not count.
-/
def Punctual (s : Delivery ω ρ) : DeliveryAction ω ρ → Prop
| .claim drainer =>
    ∀ due ∈ (s.drainers drainer).batch.head?,
      ∀ row ∈ s.outbox.find due.id, row.isDue s.now →
        due.attempts = row.attempts ∧
          (row.status = .sending →
            s.calls due.id ≤ row.attempts ∧
              ∀ other, ¬ s.HasInHand other due.id)
| _ => True

/- Whether a step is punctual can be decided. -/
instance
    [Fintype ω]
    (s : Delivery ω ρ)
    (a : DeliveryAction ω ρ) :
    Decidable (Punctual s a) := by
  unfold Punctual HasInHand
  split <;> infer_instance

variable [DecidableEq ω] [DecidableEq ρ]

/- A step leaves outcomes alone and makes few calls. -/
def OutboxSafe
    (sha256Hex : String → String)
    (s : Delivery ω ρ)
    (a : DeliveryAction ω ρ) : Prop :=
  ∀ next, s.step sha256Hex a = some next →
    OutcomesStay s.outbox next.outbox ∧
      ∀ id, next.calls id ≤ maxAttempts

end Delivery

--------
-- The Invariant
--------

/- The provider calls that a stage may be ahead by. -/
def Stage.ahead : Stage → Nat
| .done _ => 1
| _ => 0

/- The calls for a row against its attempts. -/
structure OutboxRow.Counts
    (row : OutboxRow)
    (calls : Nat) : Prop where
  bounded : calls ≤ maxAttempts
  queued : row.status = .queued →
    calls ≤ row.attempts ∧ row.attempts < maxAttempts
  sending : row.status = .sending →
    row.attempts < maxAttempts

namespace Delivery

variable {ω ρ : Type}

/- The row that a drainer works on is its own. -/
def InHand
    (s : Delivery ω ρ)
    (due : DueRow)
    (stage : Stage) : Prop :=
  ∃ row, s.outbox.find due.id = some row ∧
    row.status = .sending ∧ row.attempts = due.attempts ∧
      s.calls due.id ≤ due.attempts + stage.ahead

/- What holds of the outbox between two steps. -/
structure OutboxInv (s : Delivery ω ρ) : Prop where
  hands : ∀ drainer due stage,
    (s.drainers drainer).busy = some (due, stage) →
      s.InHand due stage
  alone : ∀ drainer other id, s.HasInHand drainer id →
    s.HasInHand other id → drainer = other
  rows : ∀ id row, s.outbox.find id = some row →
    row.Counts (s.calls id)
  fresh : ∀ id, s.outbox.find id = none → s.calls id = 0

variable {s : Delivery ω ρ}

theorem OutboxInv.bounded
    (hInv : OutboxInv s)
    (id : Nat) :
    s.calls id ≤ maxAttempts := by
  cases hFind : s.outbox.find id with
  | none =>
      rw [hInv.fresh id hFind]
      exact Nat.zero_le maxAttempts
  | some row => exact (hInv.rows id row hFind).bounded

variable {drainer : ω} {id : Nat}

/- A row in hand is being sent. -/
theorem OutboxInv.sending
    (hInv : OutboxInv s)
    (hHand : s.HasInHand drainer id) :
    ∃ row, s.outbox.find id = some row ∧
      row.status = .sending := by
  rcases Option.map_eq_some_iff.mp hHand with
    ⟨⟨due, stage⟩, hBusy, hId⟩
  rcases hInv.hands drainer due stage hBusy with
    ⟨row, hRow, hStatus, -⟩
  rw [← hId]
  exact ⟨row, hRow, hStatus⟩

theorem hasInHand_of_busy
    {due : DueRow}
    {stage : Stage}
    (hBusy : (s.drainers drainer).busy = some (due, stage)) :
    s.HasInHand drainer due.id := by
  rw [HasInHand, hBusy, Option.map_some]

theorem outcomesStay_refl
    (table : OutboxTable) :
    OutcomesStay table table :=
  fun _ row hFind _ => ⟨row, hFind, rfl⟩

/- A row that has no outcome yet changes. -/
theorem outcomesStay_set
    {table : OutboxTable}
    {f : OutboxRow → OutboxRow}
    (hOpen : ∀ row, table.find id = some row →
      ¬ row.status.IsFinal ∨ (f row).status = row.status) :
    OutcomesStay table (table.set id f) := by
  intro other row hFind hFinal
  refine ⟨_, Keyed.find_set_eq_some.mpr ⟨row, hFind, rfl⟩, ?_⟩
  split
  · rename_i hSame
    rw [hSame] at hFind
    rcases hOpen row hFind with hNot | hStatus
    · exact absurd hFinal hNot
    · exact hStatus
  · rfl

end Delivery

end

--------
-- What One Drainer Changes
--------

section

namespace Delivery

variable {ω ρ : Type} {s next : Delivery ω ρ}
  {drainer : ω}

/-
  One drainer goes on, and what it changes is a row that no
  other drainer has in hand.
-/
theorem OutboxInv.change
    (hInv : OutboxInv s)
    (drainer : ω)
    (id : Nat)
    (hDrainers : ∀ other, other ≠ drainer →
      next.drainers other = s.drainers other)
    (hAlone : ∀ other, other ≠ drainer →
      ¬ s.HasInHand other id)
    (hOthers : ∀ other, other ≠ id →
      next.outbox.find other = s.outbox.find other ∧
        next.calls other = s.calls other)
    (hRow : ∀ row, next.outbox.find id = some row →
      row.Counts (next.calls id))
    (hFresh : next.outbox.find id = none →
      next.calls id = 0)
    (hBusy : ∀ due stage,
      (next.drainers drainer).busy = some (due, stage) →
        due.id = id ∧ next.InHand due stage) :
    OutboxInv next := by
  have hHand : ∀ other key, other ≠ drainer →
      next.HasInHand other key → s.HasInHand other key := by
    intro other key hOther hKey
    rw [HasInHand, hDrainers other hOther] at hKey
    exact hKey
  have hOwn : ∀ key, next.HasInHand drainer key →
      key = id := by
    intro key hKey
    rcases Option.map_eq_some_iff.mp hKey with
      ⟨⟨due, stage⟩, hState, hId⟩
    rw [← hId]
    exact (hBusy due stage hState).1
  refine ⟨?_, ?_, ?_, ?_⟩
  · intro other due stage hState
    by_cases hSame : other = drainer
    · rw [hSame] at hState
      exact (hBusy due stage hState).2
    · have hNot : due.id ≠ id := by
        intro hId
        apply hAlone other hSame
        rw [← hId]
        exact hHand other due.id hSame (hasInHand_of_busy hState)
      rw [hDrainers other hSame] at hState
      rcases hInv.hands other due stage hState with
        ⟨row, hFind, hRest⟩
      refine ⟨row, (hOthers due.id hNot).1.trans hFind, ?_⟩
      rw [(hOthers due.id hNot).2]
      exact hRest
  · intro first second key hFirst hSecond
    by_cases hIsFirst : first = drainer
    · by_cases hIsSecond : second = drainer
      · rw [hIsFirst, hIsSecond]
      · rw [hIsFirst] at hFirst
        rw [hOwn key hFirst] at hSecond
        exact absurd (hHand second id hIsSecond hSecond)
          (hAlone second hIsSecond)
    · by_cases hIsSecond : second = drainer
      · rw [hIsSecond] at hSecond
        rw [hOwn key hSecond] at hFirst
        exact absurd (hHand first id hIsFirst hFirst)
          (hAlone first hIsFirst)
      · exact hInv.alone first second key
          (hHand first key hIsFirst hFirst)
          (hHand second key hIsSecond hSecond)
  · intro other row hFind
    by_cases hSame : other = id
    · rw [hSame] at hFind ⊢
      exact hRow row hFind
    · rw [(hOthers other hSame).1] at hFind
      rw [(hOthers other hSame).2]
      exact hInv.rows other row hFind
  · intro other hNone
    by_cases hSame : other = id
    · rw [hSame] at hNone ⊢
      exact hFresh hNone
    · rw [(hOthers other hSame).1] at hNone
      rw [(hOthers other hSame).2]
      exact hInv.fresh other hNone

variable [DecidableEq ω]

/- A drainer that has no row in hand. -/
theorem OutboxInv.idle
    (hInv : OutboxInv s)
    (drainer : ω)
    (batch : List DueRow) :
    OutboxInv (s.put drainer ⟨none, batch⟩) := by
  have hHand : ∀ other id,
      (s.put drainer ⟨none, batch⟩).HasInHand other id →
        s.HasInHand other id := by
    intro other id hKey
    by_cases hSame : other = drainer
    · simp [HasInHand, put, hSame] at hKey
    · simp only [HasInHand, put, Function.update_of_ne hSame]
        at hKey
      exact hKey
  refine ⟨?_, ?_, hInv.rows, hInv.fresh⟩
  · intro other due stage hState
    by_cases hSame : other = drainer
    · simp [put, hSame] at hState
    · simp only [put, Function.update_of_ne hSame] at hState
      exact hInv.hands other due stage hState
  · intro first second id hFirst hSecond
    exact hInv.alone first second id (hHand first id hFirst)
      (hHand second id hSecond)

/- A drainer goes on with the row that it has in hand. -/
theorem OutboxInv.stage
    {due : DueRow}
    {stage : Stage}
    {calls : Nat}
    (hInv : OutboxInv s)
    (hBusy : (s.drainers drainer).busy = some (due, stage))
    (stage' : Stage)
    (hCalls : calls ≤ due.attempts + stage'.ahead)
    (hFew : calls ≤ maxAttempts) :
    OutboxInv ({ s with
      calls := Function.update s.calls due.id calls }.put
        drainer
        ⟨some (due, stage'), (s.drainers drainer).batch⟩) := by
  rcases hInv.hands drainer due stage hBusy with
    ⟨row, hRow, hStatus, hAttempts, -⟩
  apply hInv.change drainer due.id
  · intro other hOther
    exact Function.update_of_ne hOther _ _
  · intro other hOther hHand
    exact hOther (hInv.alone other drainer due.id hHand
      (hasInHand_of_busy hBusy))
  · intro other hOther
    exact ⟨rfl, Function.update_of_ne hOther _ _⟩
  · intro row' hRow'
    have hCounts := hInv.rows due.id row' hRow'
    have hSame : row = row' :=
      Option.some.inj (hRow.symm.trans hRow')
    simp only [put, Function.update_self]
    refine ⟨hFew, ?_, hCounts.sending⟩
    rw [← hSame, hStatus]
    nofun
  · intro hNone
    cases hRow.symm.trans hNone
  · intro due' stage'' hState
    simp only [put, Function.update_self, Option.some.injEq,
      Prod.mk.injEq] at hState
    rw [← hState.1, ← hState.2]
    refine ⟨rfl, row, hRow, hStatus, hAttempts, ?_⟩
    simp only [put, Function.update_self]
    exact hCalls

end Delivery

end

--------
-- The Steps
--------

section

namespace Delivery

variable {ω ρ : Type} {sha256Hex : String → String}
  {s next : Delivery ω ρ} {drainer : ω}

/- A step that leaves outbox, drainers and calls alone. -/
theorem OutboxInv.frame
    (hInv : OutboxInv s)
    (hOutbox : next.outbox = s.outbox)
    (hDrainers : next.drainers = s.drainers)
    (hCalls : next.calls = s.calls) :
    OutboxInv next ∧ OutcomesStay s.outbox next.outbox := by
  refine ⟨⟨?_, ?_, ?_, ?_⟩, ?_⟩
  · intro other due stage hBusy
    rw [hDrainers] at hBusy
    unfold InHand
    rw [hOutbox, hCalls]
    exact hInv.hands other due stage hBusy
  · intro first second id hFirst hSecond
    rw [HasInHand, hDrainers] at hFirst hSecond
    exact hInv.alone first second id hFirst hSecond
  · rw [hOutbox, hCalls]
    exact hInv.rows
  · rw [hOutbox, hCalls]
    exact hInv.fresh
  · rw [hOutbox]
    exact outcomesStay_refl s.outbox

variable {rawToken : String}

theorem createLink_outboxInv
    {caseId tokenId outboxId : Nat}
    {request : LinkRequest}
    (hInv : OutboxInv s)
    (hStep : s.createLink sha256Hex caseId request tokenId
      rawToken outboxId = some next) :
    OutboxInv next ∧ OutcomesStay s.outbox next.outbox := by
  simp only [createLink, Option.bind_eq_bind,
    Option.bind_eq_some_iff] at hStep
  rcases hStep with
    ⟨found, -, fields, -, status, -, tokens, -, hStep⟩
  split at hStep
  · cases hStep
  · rename_i hFree
    have hNone := Keyed.find_eq_none_iff.mpr hFree
    cases hStep
    refine ⟨⟨?_, hInv.alone, ?_, ?_⟩, ?_⟩
    · intro other due stage hBusy
      rcases hInv.hands other due stage hBusy with
        ⟨row, hRow, hRest⟩
      exact ⟨row, (Keyed.find_add_eq_some hNone).mpr
        (.inr hRow), hRest⟩
    · intro id row hFind
      rcases (Keyed.find_add_eq_some hNone).mp hFind with
        ⟨hId, hRow⟩ | hBefore
      · have hCalls : s.calls id = 0 := by
          apply hInv.fresh
          rw [hId]
          exact hNone
        have hQueue : 0 < maxAttempts := by decide
        simp only [hCalls, hRow]
        exact ⟨Nat.zero_le _, fun _ => ⟨Nat.zero_le _, hQueue⟩,
          fun _ => hQueue⟩
      · exact hInv.rows id row hBefore
    · intro id hId
      apply hInv.fresh
      cases hBefore : s.outbox.find id with
      | none => rfl
      | some row =>
          cases hId.symm.trans
            ((Keyed.find_add_eq_some hNone).mpr (.inr hBefore))
    · intro id row hFind _
      exact ⟨row, (Keyed.find_add_eq_some hNone).mpr
        (.inr hFind), rfl⟩

variable [DecidableEq ω]

theorem dueRows_outboxInv
    {batchSize : Nat}
    (hInv : OutboxInv s)
    (hStep : s.dueRows drainer batchSize = some next) :
    OutboxInv next ∧ OutcomesStay s.outbox next.outbox := by
  unfold dueRows at hStep
  split at hStep
  · cases hStep
    exact ⟨hInv.idle drainer _, outcomesStay_refl _⟩
  · cases hStep

/- A row that is due has no outcome. -/
theorem status_of_isDue
    {row : OutboxRow}
    {now : Int}
    (hDue : row.isDue now = true) :
    row.status = .queued ∨ row.status = .sending := by
  unfold OutboxRow.isDue at hDue
  split at hDue
  · exact .inl (by assumption)
  · exact .inr (by assumption)
  · cases hDue

theorem claim_outboxInv
    (hInv : OutboxInv s)
    (hPunctual : Punctual s (.claim drainer))
    (hStep : s.claim drainer = some next) :
    OutboxInv next ∧ OutcomesStay s.outbox next.outbox := by
  unfold claim at hStep
  split at hStep
  · rename_i due rest hBusy hBatch
    split at hStep
    · rename_i hWon
      rcases (Option.any_eq_true _ _).mp hWon with
        ⟨row, hRow, hDue⟩
      have hStatus := status_of_isDue hDue
      simp only [Punctual, hBatch, List.head?_cons,
        Option.mem_some_iff, forall_eq'] at hPunctual
      rcases hPunctual row hRow hDue with
        ⟨hAttempts, hTakeover⟩
      have hCounts := hInv.rows due.id row hRow
      have hCalls : s.calls due.id ≤ row.attempts ∧
          row.attempts < maxAttempts := by
        rcases hStatus with hQueued | hSending
        · exact hCounts.queued hQueued
        · exact ⟨(hTakeover hSending).1,
            hCounts.sending hSending⟩
      cases hStep
      refine ⟨?_, outcomesStay_set ?_⟩
      · apply hInv.change drainer due.id
        · intro other hOther
          exact Function.update_of_ne hOther _ _
        · intro other _ hHand
          rcases hInv.sending hHand with
            ⟨held, hHeld, hSending⟩
          rw [hRow, Option.some.injEq] at hHeld
          rw [← hHeld] at hSending
          exact (hTakeover hSending).2 other hHand
        · intro other hOther
          refine ⟨?_, rfl⟩
          simp only [put, Keyed.find_set, if_neg hOther]
        · intro row' hRow'
          simp only [put, Keyed.find_set, if_pos, hRow,
            Option.map_some, Option.some.injEq] at hRow'
          rw [← hRow']
          exact ⟨hCounts.bounded, by simp, fun _ => hCalls.2⟩
        · intro hNone
          simp [put, Keyed.find_set, hRow] at hNone
        · intro due' stage hState
          simp only [put, Function.update_self,
            Option.some.injEq, Prod.mk.injEq] at hState
          rw [← hState.1, ← hState.2]
          refine ⟨rfl, _, Keyed.find_set_eq_some.mpr
            ⟨row, hRow, rfl⟩, ?_⟩
          rw [if_pos rfl]
          refine ⟨rfl, hAttempts.symm, ?_⟩
          rw [hAttempts]
          exact hCalls.1
      · intro row' hRow'
        rw [hRow, Option.some.injEq] at hRow'
        left
        rw [← hRow']
        intro hFinal
        rcases hStatus with h | h <;>
          simp [OutboxStatus.IsFinal, h] at hFinal
    · cases hStep
      exact ⟨hInv.idle drainer rest, outcomesStay_refl _⟩
  · cases hStep

theorem check_outboxInv
    {suppressed : Bool}
    (hInv : OutboxInv s)
    (hStep : s.check drainer suppressed = some next) :
    OutboxInv next ∧ OutcomesStay s.outbox next.outbox := by
  unfold check at hStep
  split at hStep
  · rename_i due hBusy
    rcases hInv.hands drainer due _ hBusy with
      ⟨row, -, -, -, hCalls⟩
    have hStage := hInv.stage hBusy
      (s.checkStage due suppressed)
      (Nat.le_trans hCalls (Nat.le_add_right _ _))
      (hInv.bounded due.id)
    rw [Function.update_eq_self] at hStage
    cases hStep
    exact ⟨hStage, outcomesStay_refl _⟩
  · cases hStep

theorem remintFails_outboxInv
    (hInv : OutboxInv s)
    (hStep : s.remintFails drainer = some next) :
    OutboxInv next ∧ OutcomesStay s.outbox next.outbox := by
  unfold remintFails at hStep
  split at hStep
  · rename_i due tokenId token hBusy
    rcases hInv.hands drainer due _ hBusy with
      ⟨row, -, -, -, hCalls⟩
    have hStage := hInv.stage hBusy (.done .failing)
      (Nat.le_trans hCalls (Nat.le_add_right _ _))
      (hInv.bounded due.id)
    rw [Function.update_eq_self] at hStage
    cases hStep
    exact ⟨hStage, outcomesStay_refl _⟩
  · cases hStep

theorem send_outboxInv
    {delivered : Bool}
    (hInv : OutboxInv s)
    (hStep : s.send drainer delivered = some next) :
    OutboxInv next ∧ OutcomesStay s.outbox next.outbox := by
  unfold send at hStep
  split at hStep
  · rename_i due hBusy
    rcases hInv.hands drainer due _ hBusy with
      ⟨row, hRow, hStatus, hAttempts, hCalls⟩
    have hLess := (hInv.rows due.id row hRow).sending hStatus
    rw [hAttempts] at hLess
    cases hStep
    refine ⟨hInv.stage hBusy _ ?_ ?_, outcomesStay_refl _⟩
    · exact Nat.add_le_add_right hCalls 1
    · exact Nat.le_trans (Nat.add_le_add_right hCalls 1) hLess
  · cases hStep

omit [DecidableEq ω] in
/- A drainer changes the row that it has in hand. -/
theorem OutboxInv.own
    {due : DueRow}
    {stage : Stage}
    (hInv : OutboxInv s)
    (hBusy : (s.drainers drainer).busy = some (due, stage))
    (hNext : ∀ other, other ≠ drainer →
      next.drainers other = s.drainers other)
    (f : OutboxRow → OutboxRow)
    (hOutbox : next.outbox = s.outbox.set due.id f)
    (hCalls : next.calls = s.calls)
    (hRow : ∀ row, s.outbox.find due.id = some row →
      row.status = .sending → row.attempts = due.attempts →
        (f row).Counts (s.calls due.id))
    (hState : ∀ due' stage',
      (next.drainers drainer).busy = some (due', stage') →
        due'.id = due.id ∧ next.InHand due' stage') :
    OutboxInv next ∧ OutcomesStay s.outbox next.outbox := by
  rcases hInv.hands drainer due stage hBusy with
    ⟨row, hFind, hStatus, hAttempts, -⟩
  constructor
  · apply hInv.change drainer due.id hNext
    · intro other hOther hHand
      exact hOther (hInv.alone other drainer due.id hHand
        (hasInHand_of_busy hBusy))
    · intro other hOther
      rw [hOutbox, hCalls, Keyed.find_set, if_neg hOther]
      exact ⟨rfl, rfl⟩
    · intro row' hRow'
      rw [hOutbox, Keyed.find_set, if_pos rfl, hFind,
        Option.map_some, Option.some.injEq] at hRow'
      rw [hCalls, ← hRow']
      exact hRow row hFind hStatus hAttempts
    · intro hNone
      rw [hOutbox, Keyed.find_set, if_pos rfl, hFind] at hNone
      cases hNone
    · exact hState
  · rw [hOutbox]
    apply outcomesStay_set
    intro row' hRow'
    rw [hFind, Option.some.injEq] at hRow'
    left
    rw [← hRow', hStatus]
    rintro (h | h | h) <;> cases h

theorem remint_outboxInv
    {newId : Nat}
    (hInv : OutboxInv s)
    (hStep : s.remint sha256Hex drainer newId rawToken =
      some next) :
    OutboxInv next ∧ OutcomesStay s.outbox next.outbox := by
  unfold remint at hStep
  split at hStep
  · rename_i due tokenId token hBusy
    simp only [Option.bind_eq_bind,
      Option.bind_eq_some_iff] at hStep
    rcases hStep with ⟨tokens, -, hStep⟩
    rcases hInv.hands drainer due _ hBusy with
      ⟨row, hRow, hStatus, hAttempts, hCalls⟩
    have hCounts := hInv.rows due.id row hRow
    cases hStep
    refine hInv.own hBusy
      (fun other hOther => Function.update_of_ne hOther _ _)
      (fun row => { row with tokenId := some newId }) rfl rfl
      ?_ ?_
    · intro row' hRow' _ _
      rw [hRow, Option.some.injEq] at hRow'
      rw [← hRow']
      exact ⟨hCounts.bounded, hCounts.queued, hCounts.sending⟩
    · intro due' stage' hState
      simp only [put, Function.update_self, Option.some.injEq,
        Prod.mk.injEq] at hState
      rw [← hState.1, ← hState.2]
      refine ⟨rfl, _, Keyed.find_set_eq_some.mpr
        ⟨row, hRow, rfl⟩, ?_⟩
      rw [if_pos rfl]
      exact ⟨hStatus, hAttempts, hCalls⟩
  · cases hStep

theorem finish_outboxInv
    (hInv : OutboxInv s)
    (hStep : s.finish drainer = some next) :
    OutboxInv next ∧ OutcomesStay s.outbox next.outbox := by
  unfold finish at hStep
  split at hStep
  · rename_i due outcome hBusy
    rcases hInv.hands drainer due _ hBusy with
      ⟨row, hRow, -, -, hCalls⟩
    have hFew := hInv.bounded due.id
    cases hStep
    refine hInv.own hBusy
      (fun other hOther => Function.update_of_ne hOther _ _)
      (outcome.finish s.now due) rfl rfl ?_ ?_
    · intro row' _ _ _
      cases outcome with
      | sent => exact ⟨hFew, nofun, nofun⟩
      | skipped reason => exact ⟨hFew, nofun, nofun⟩
      | failing =>
          simp only [Outcome.finish, sendFailure]
          split
          · exact ⟨hFew, nofun, nofun⟩
          · rename_i hMore
            refine ⟨hFew, ?_, nofun⟩
            intro _
            exact ⟨hCalls, Nat.not_le.mp hMore⟩
    · intro due' stage' hState
      simp [put] at hState
  · cases hStep

end Delivery

end

--------
-- Runs
--------

namespace Delivery

variable {ω ρ : Type}

theorem outboxInv_start
    (now : Int)
    (cases : Keyed Nat LinkCase) :
    OutboxInv (start now cases : Delivery ω ρ) := by
  refine ⟨?_, ?_, ?_, fun _ _ => rfl⟩
  · intro drainer due stage hBusy
    cases hBusy
  · intro drainer other id hHand
    cases hHand
  · intro id row hFind
    cases hFind

variable [DecidableEq ω] [DecidableEq ρ]
  {sha256Hex : String → String} {s next : Delivery ω ρ}
  {a : DeliveryAction ω ρ}

/- Every punctual step keeps the invariant and outcomes. -/
theorem step_outboxInv
    (hInv : OutboxInv s)
    (hPunctual : Punctual s a)
    (hStep : s.step sha256Hex a = some next) :
    OutboxInv next ∧ OutcomesStay s.outbox next.outbox := by
  cases a with
  | wait seconds =>
      cases hStep
      exact hInv.frame rfl rfl rfl
  | transition caseId expectedFrom toStatus =>
      simp only [step, moveCase, Option.bind_eq_bind,
        Option.bind_eq_some_iff] at hStep
      rcases hStep with ⟨found, -, status, -, hStep⟩
      cases hStep
      exact hInv.frame rfl rfl rfl
  | createLink caseId request tokenId rawToken outboxId =>
      exact createLink_outboxInv hInv hStep
  | revokeLink caseId =>
      simp only [step, revokeLink, Option.bind_eq_bind,
        Option.bind_eq_some_iff] at hStep
      rcases hStep with ⟨found, -, hStep⟩
      cases hStep
      exact hInv.frame rfl rfl rfl
  | resolveToken request rawToken =>
      cases hStep
      exact hInv.frame rfl rfl rfl
  | exchange request rawSession =>
      simp only [step, exchange] at hStep
      split at hStep
      · cases hStep
      · split at hStep
        · cases hStep
          exact hInv.frame rfl rfl rfl
        · cases hStep
          exact hInv.frame rfl rfl rfl
  | dueRows drainer batchSize =>
      exact dueRows_outboxInv hInv hStep
  | claim drainer => exact claim_outboxInv hInv hPunctual hStep
  | check drainer suppressed => exact check_outboxInv hInv hStep
  | remint drainer newId rawToken =>
      exact remint_outboxInv hInv hStep
  | remintFails drainer => exact remintFails_outboxInv hInv hStep
  | send drainer delivered => exact send_outboxInv hInv hStep
  | finish drainer => exact finish_outboxInv hInv hStep
  | crash drainer =>
      cases hStep
      exact ⟨hInv.idle drainer [], outcomesStay_refl _⟩

/-
  In a run whose claims are punctual outcomes stay, and no row
  makes more provider calls than it may.
-/
theorem outboxSafe_of_punctual
    (sha256Hex : String → String)
    (now : Int)
    (cases : Keyed Nat LinkCase)
    (actions : List (DeliveryAction ω ρ))
    (hPunctual :
      Machine.Meets (step sha256Hex) Punctual
        (start now cases : Delivery ω ρ) actions) :
    Machine.Meets (step sha256Hex) (OutboxSafe sha256Hex)
      (start now cases : Delivery ω ρ) actions := by
  apply Machine.Meets.of_invariant ?_ ?_
    (outboxInv_start now cases) hPunctual
  · intro s a next hInv hPunctual hStep
    exact (step_outboxInv hInv hPunctual hStep).1
  · intro s a hInv hPunctual next hStep
    rcases step_outboxInv hInv hPunctual hStep with
      ⟨hNext, hStay⟩
    exact ⟨hStay, hNext.bounded⟩

/- A case that waits to be sent, and its link. -/
def outboxCases : Keyed Nat LinkCase :=
  Keyed.empty.add 1 ⟨.buyerReview, ["kdes.quantity"]⟩

def outboxLink : LinkRequest :=
  ⟨none, some "supplier@example.com", 72⟩

/-
  A drainer stops after its claim; another takes the row over
  when the claim is stale, fails once, and then delivers.
-/
def recoveredRun : List (DeliveryAction Bool Unit) :=
  [.createLink 1 outboxLink 10 "first" 100,
    .dueRows false 50, .claim false, .crash false, .wait 900,
    .dueRows true 50, .claim true, .check true false,
    .remint true 11 "second", .send true false, .finish true,
    .wait 30, .dueRows true 50, .claim true, .check true false,
    .remint true 12 "third", .send true true, .finish true]

theorem outboxSafe_recoveredRun :
    (Machine.run (step id)
        (start 0 outboxCases : Delivery Bool Unit)
        recoveredRun).isSome = true ∧
      Machine.Meets (step id) (OutboxSafe id)
        (start 0 outboxCases : Delivery Bool Unit)
        recoveredRun :=
  ⟨by decide,
    outboxSafe_of_punctual id 0 outboxCases recoveredRun
      (by decide)⟩

/-
  A provider call that outlives its claim: another drainer
  takes the row over and sends it before the first one fails.
-/
def overtakenRun : List (DeliveryAction Bool Unit) :=
  [.createLink 1 outboxLink 10 "first" 100,
    .dueRows false 50, .claim false, .check false false,
    .remint false 11 "second", .wait 900, .dueRows true 50,
    .claim true, .check true false, .remint true 12 "third",
    .send true true, .finish true, .send false false]

/- The late failure queues the row that was sent. -/
theorem not_outboxSafe_overtakenRun :
    ¬ ∀ (ω ρ : Type) [DecidableEq ω] [DecidableEq ρ]
        (sha256Hex : String → String)
        (now : Int)
        (cases : Keyed Nat LinkCase)
        (actions : List (DeliveryAction ω ρ)),
      Machine.Meets (step sha256Hex) (OutboxSafe sha256Hex)
        (start now cases : Delivery ω ρ) actions := by
  intro hSafe
  have hLast := hSafe Bool Unit id 0 outboxCases
    (overtakenRun ++ [.finish false])
  have hRows :
      ((Machine.run (step id)
        (start 0 outboxCases : Delivery Bool Unit)
        overtakenRun).bind (fun mid =>
          (step id mid (.finish false)).bind (fun next =>
            (mid.outbox.find 100).bind (fun row =>
              (next.outbox.find 100).map (fun row' =>
                (row.status, row'.status)))))) =
        some (.sent, .queued) := by
    decide
  rcases Option.bind_eq_some_iff.mp hRows with
    ⟨mid, hMid, hRows⟩
  rcases Option.bind_eq_some_iff.mp hRows with
    ⟨next, hNext, hRows⟩
  rcases Option.bind_eq_some_iff.mp hRows with
    ⟨row, hRow, hRows⟩
  rcases Option.map_eq_some_iff.mp hRows with
    ⟨row', hRow', hStatus⟩
  rw [Prod.mk.injEq] at hStatus
  rcases (hLast.last hMid next hNext).1 100 row hRow
      (.inl hStatus.1) with ⟨found, hFound, hSame⟩
  rw [hRow', Option.some.injEq] at hFound
  rw [← hFound, hStatus.1, hStatus.2] at hSame
  cases hSame

end Delivery

end Remediation

end RegEngine
