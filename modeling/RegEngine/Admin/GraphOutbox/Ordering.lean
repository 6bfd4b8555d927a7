import RegEngine.Admin.GraphOutbox.Drainer

/-
  The order in which the writes of a tenant reach Neo4j.

  Main declarations:
    * `GraphOutbox.Outbox.AppliedInOrder`
    * `GraphOutbox.appliedInOrder_of_noOvertaking`
    * `GraphOutbox.not_appliedInOrder`
-/

--------
-- Order Of Application
--------

namespace RegEngine

namespace GraphOutbox

/-
  Of two drained rows of a tenant the one enqueued first, with
  the lower id, is applied first.
-/
def Outbox.AppliedInOrder (s : Outbox) : Prop :=
  ∀ first second row row',
    s.rows.find first = some row →
      s.rows.find second = some row' →
        row.status = .drained → row'.status = .drained →
          row.tenantId = row'.tenantId → first < second →
            s.applied.idxOf first < s.applied.idxOf second

/-
  No row is applied while an earlier row of its tenant waits
  for another try.
-/
def Outbox.NoOvertaking (s : Outbox) : OutboxAction → Prop
| .drain .ran =>
    ∀ row ∈ s.claimed.head?, ∀ stored,
      s.rows.find row.id = some stored →
        ∀ earlier other, s.rows.find earlier = some other →
          earlier < row.id →
            other.tenantId = stored.tenantId →
              other.status = .pending → other.attempts = 0
| _ => True

/-
  A row that has never been tried is due when it was enqueued,
  no later than the rows after it, and stands in front of them
  in a batch.
-/
structure Outbox.Queued (s : Outbox) : Prop where
  stamped :
    ∀ id row, s.rows.find id = some row →
      row.enqueuedAt ≤ s.clock ∧
        row.enqueuedAt ≤ row.nextAttemptAt
  untried :
    ∀ id row, s.rows.find id = some row →
      row.status = .pending → row.attempts = 0 →
        row.nextAttemptAt = row.enqueuedAt
  monotone :
    ∀ id id' row row', s.rows.find id = some row →
      s.rows.find id' = some row' → id < id' →
        row.enqueuedAt ≤ row'.enqueuedAt
  inFront :
    ∀ earlier other, s.rows.find earlier = some other →
      other.status = .pending → other.attempts = 0 →
        ∀ front row rest, s.claimed = front ++ row :: rest →
          earlier < row.id → earlier ∈ front.map OutboxRow.id

/-
  The drained rows are those that were applied, and none of
  them has an earlier row of its tenant still to come.
-/
structure Outbox.Settled (s : Outbox) : Prop where
  drained :
    ∀ id, id ∈ s.applied ↔
      ∃ row, s.rows.find id = some row ∧ row.status = .drained
  noneBehind :
    ∀ first second row row', s.rows.find first = some row →
      s.rows.find second = some row' →
        row'.status = .drained →
          row.tenantId = row'.tenantId → first < second →
            row.status ≠ .pending
  inOrder : s.AppliedInOrder

--------
-- The Queue
--------

/- A verdict leaves the time of the commit. -/
theorem enqueuedAt_write
    (verdict : Verdict)
    (row : OutboxRow)
    (now : Int)
    (stored : StoredRow) :
    (verdict.write row now stored).enqueuedAt =
      stored.enqueuedAt := by
  cases verdict <;> rfl

/- A verdict leaves the tenant. -/
theorem tenantId_write
    (verdict : Verdict)
    (row : OutboxRow)
    (now : Int)
    (stored : StoredRow) :
    (verdict.write row now stored).tenantId =
      stored.tenantId := by
  cases verdict <;> rfl

variable {now : Int}

/- A row that a verdict leaves pending has been tried. -/
theorem attempts_write_ne_zero
    {row : OutboxRow}
    {attempt : Attempt}
    {stored : StoredRow}
    (hPending :
      ((drainOne row attempt).write row now stored).status =
        .pending) :
    ((drainOne row attempt).write row now stored).attempts ≠
      0 := by
  rcases drainOne_cases row attempt with
    ⟨hVerdict, -⟩ | ⟨reason, hVerdict⟩ | ⟨reason, hVerdict, -⟩
  · rw [hVerdict] at hPending
    cases hPending
  · rw [hVerdict] at hPending
    cases hPending
  · rw [hVerdict]
    exact Nat.succ_ne_zero _

/- A verdict does not make a row due before its commit. -/
theorem enqueuedAt_le_nextAttemptAt_write
    {stored : StoredRow}
    (hClock : stored.enqueuedAt ≤ now)
    (hNext : stored.enqueuedAt ≤ stored.nextAttemptAt)
    (verdict : Verdict)
    (row : OutboxRow) :
    stored.enqueuedAt ≤
      (verdict.write row now stored).nextAttemptAt := by
  cases verdict with
  | drained => exact hNext
  | failed reason => exact hNext
  | rescheduled attempts reason =>
    change stored.enqueuedAt ≤ now + delayAfter attempts
    omega

variable {s : Outbox}

/- Every step keeps the queue. -/
theorem Outbox.Queued.step
    (hInv : s.Inv)
    (hQueued : s.Queued)
    (a : OutboxAction) :
    (s.step a).Queued := by
  refine Outbox.step_cases a hQueued ?_ ?_ ?_ ?_ ?_
  · intro micros
    refine ⟨?_, hQueued.untried, hQueued.monotone,
      hQueued.inFront⟩
    intro id row hFind
    rcases hQueued.stamped id row hFind with ⟨hClock, hNext⟩
    refine ⟨?_, hNext⟩
    change row.enqueuedAt ≤ s.clock + micros
    omega
  · exact ⟨hQueued.stamped, hQueued.untried, hQueued.monotone,
      hQueued.inFront⟩
  · intro request _
    refine ⟨?_, ?_, ?_, ?_⟩
    · intro id row hFind
      rcases hInv.find_insert.mp hFind with ⟨-, rfl⟩ | hOld
      · exact ⟨le_refl _, le_refl _⟩
      · exact hQueued.stamped id row hOld
    · intro id row hFind hPending hNever
      rcases hInv.find_insert.mp hFind with ⟨-, rfl⟩ | hOld
      · rfl
      · exact hQueued.untried id row hOld hPending hNever
    · intro id id' row row' hFind hFind' hLess
      rcases hInv.find_insert.mp hFind with ⟨rfl, -⟩ | hOld
      · rcases hInv.find_insert.mp hFind' with ⟨rfl, -⟩ | hOld'
        · exact absurd hLess (Nat.lt_irrefl _)
        · exact absurd (hInv.below id' row' hOld') (by omega)
      · rcases hInv.find_insert.mp hFind' with ⟨-, rfl⟩ | hOld'
        · exact (hQueued.stamped id row hOld).1
        · exact hQueued.monotone id id' row row' hOld hOld'
            hLess
    · intro earlier other hFind hPending hNever front row rest
        hClaimed hLess
      rcases hInv.find_insert.mp hFind with ⟨rfl, -⟩ | hOld
      · have hMem : row ∈ s.claimed := by
          rw [show s.claimed = _ from hClaimed]
          simp
        rcases hInv.claimed row hMem with ⟨stored, hStored, -⟩
        exact absurd (hInv.below _ stored hStored) (by omega)
      · exact hQueued.inFront earlier other hOld hPending
          hNever front row rest hClaimed hLess
  · intro batchSize _
    refine ⟨hQueued.stamped, hQueued.untried,
      hQueued.monotone, ?_⟩
    intro earlier other hFind hPending hNever front row rest
      hClaimed hLess
    refine mem_front_of_claimed hClaimed hFind hPending hLess ?_
    intro stored hStored
    calc other.nextAttemptAt
        = other.enqueuedAt :=
          hQueued.untried earlier other hFind hPending hNever
      _ ≤ stored.enqueuedAt :=
          hQueued.monotone _ _ other stored hFind hStored hLess
      _ ≤ stored.nextAttemptAt :=
          (hQueued.stamped _ stored hStored).2
  · intro attempt row rest _ hClaimed
    refine ⟨?_, ?_, ?_, ?_⟩
    · intro id after hFind
      rcases Outbox.find_afterDrain.mp hFind with
        ⟨before, hBefore, rfl⟩
      rcases hQueued.stamped id before hBefore with
        ⟨hClock, hNext⟩
      split
      · rw [enqueuedAt_write]
        exact ⟨hClock,
          enqueuedAt_le_nextAttemptAt_write hClock hNext _ _⟩
      · exact ⟨hClock, hNext⟩
    · intro id after hFind hPending hNever
      rcases Outbox.find_afterDrain.mp hFind with
        ⟨before, hBefore, rfl⟩
      split at hPending
      · rename_i hSame
        rw [if_pos hSame] at hNever
        exact absurd hNever (attempts_write_ne_zero hPending)
      · rename_i hOther
        rw [if_neg hOther] at hNever ⊢
        exact hQueued.untried id before hBefore hPending hNever
    · intro id id' after after' hFind hFind' hLess
      rcases Outbox.find_afterDrain.mp hFind with
        ⟨before, hBefore, rfl⟩
      rcases Outbox.find_afterDrain.mp hFind' with
        ⟨before', hBefore', rfl⟩
      have hKept :=
        hQueued.monotone id id' before before' hBefore
          hBefore' hLess
      split <;> split <;>
        simpa only [enqueuedAt_write] using hKept
    · intro earlier after hFind hPending hNever front other
        others hRest hLess
      rcases Outbox.find_afterDrain.mp hFind with
        ⟨before, hBefore, rfl⟩
      split at hPending
      · rename_i hSame
        rw [if_pos hSame] at hNever
        exact absurd hNever (attempts_write_ne_zero hPending)
      · rename_i hOther
        rw [if_neg hOther] at hNever
        have hAll : s.claimed = (row :: front) ++ other :: others := by
          rw [hClaimed, show rest = _ from hRest]
          rfl
        have hFront :=
          hQueued.inFront earlier before hBefore hPending hNever
            (row :: front) other others hAll hLess
        rw [List.map_cons, List.mem_cons] at hFront
        exact hFront.resolve_left hOther

theorem Outbox.queued_empty : Outbox.empty.Queued :=
  ⟨by simp [Outbox.empty], by simp [Outbox.empty],
    by simp [Outbox.empty], by simp [Outbox.empty]⟩

/- No row that was never tried stands before the next one. -/
theorem Outbox.Queued.tried_of_lt_head
    (hQueued : s.Queued)
    {row : OutboxRow}
    {rest : List OutboxRow}
    (hClaimed : s.claimed = row :: rest)
    {earlier : Nat}
    {other : StoredRow}
    (hFind : s.rows.find earlier = some other)
    (hPending : other.status = .pending)
    (hLess : earlier < row.id) :
    other.attempts ≠ 0 := by
  intro hNever
  have hFront :=
    hQueued.inFront earlier other hFind hPending hNever [] row
      rest hClaimed hLess
  cases hFront

--------
-- Runs In Order
--------

/- Rows that no step of a kind drains stay as they are. -/
theorem Outbox.Settled.of_rows
    {s t : Outbox}
    (hSettled : s.Settled)
    (hRows : t.rows = s.rows)
    (hApplied : t.applied = s.applied) :
    t.Settled := by
  refine ⟨?_, ?_, ?_⟩
  · rw [hRows, hApplied]
    exact hSettled.drained
  · rw [hRows]
    exact hSettled.noneBehind
  · unfold Outbox.AppliedInOrder
    rw [hRows, hApplied]
    exact hSettled.inOrder

/- An insert adds a row that is not drained. -/
theorem Outbox.Settled.insert
    (hInv : s.Inv)
    (hSettled : s.Settled)
    (request : Enqueue) :
    (s.insert request).Settled := by
  refine ⟨?_, ?_, ?_⟩
  · intro id
    change id ∈ s.applied ↔ _
    rw [hSettled.drained]
    constructor
    · rintro ⟨row, hFind, hDrained⟩
      exact ⟨row, hInv.find_insert.mpr (Or.inr hFind), hDrained⟩
    · rintro ⟨row, hFind, hDrained⟩
      rcases hInv.find_insert.mp hFind with ⟨-, rfl⟩ | hOld
      · cases hDrained
      · exact ⟨row, hOld, hDrained⟩
  · intro first second row row' hFind hFind' hDrained hTenant
      hLess
    rcases hInv.find_insert.mp hFind' with ⟨-, rfl⟩ | hOld'
    · cases hDrained
    · rcases hInv.find_insert.mp hFind with ⟨rfl, -⟩ | hOld
      · exact absurd (hInv.below second row' hOld') (by omega)
      · exact hSettled.noneBehind first second row row' hOld
          hOld' hDrained hTenant hLess
  · intro first second row row' hFind hFind' hDrained hDrained'
    rcases hInv.find_insert.mp hFind with ⟨-, rfl⟩ | hOld
    · cases hDrained
    · rcases hInv.find_insert.mp hFind' with ⟨-, rfl⟩ | hOld'
      · cases hDrained'
      · exact hSettled.inOrder first second row row' hOld hOld'
          hDrained hDrained'

/- A verdict drains a pending row when it says so. -/
theorem status_write_eq_drained_iff
    {stored : StoredRow}
    (hPending : stored.status = .pending)
    {verdict : Verdict}
    {row : OutboxRow}
    {now : Int} :
    (verdict.write row now stored).status = .drained ↔
      verdict = .drained := by
  cases verdict with
  | drained => simp [Verdict.write]
  | failed reason => simp [Verdict.write]
  | rescheduled attempts reason =>
    simp [Verdict.write, hPending]

/- A verdict that does not drain its row. -/
theorem Outbox.Settled.afterDrain_other
    (hInv : s.Inv)
    (hSettled : s.Settled)
    {row : OutboxRow}
    {rest : List OutboxRow}
    (hClaimed : s.claimed = row :: rest)
    {verdict : Verdict}
    (hVerdict : verdict ≠ .drained) :
    (s.afterDrain row rest verdict).Settled := by
  rcases hInv.claimed row (by simp [hClaimed]) with
    ⟨stored, hStored, hPending, -⟩
  have hApplied :
      (s.afterDrain row rest verdict).applied = s.applied :=
    if_neg hVerdict
  -- the drained rows are the same, and have the same data
  have hDrained : ∀ id after,
      (s.afterDrain row rest verdict).rows.find id =
          some after →
        after.status = .drained → s.rows.find id = some after := by
    intro id after hFind hStatus
    rcases Outbox.find_afterDrain.mp hFind with
      ⟨before, hBefore, rfl⟩
    by_cases hSame : id = row.id
    · rw [hSame, hStored, Option.some.injEq] at hBefore
      subst hBefore
      rw [if_pos hSame, status_write_eq_drained_iff hPending]
        at hStatus
      exact absurd hStatus hVerdict
    · rw [if_neg hSame]
      exact hBefore
  refine ⟨?_, ?_, ?_⟩
  · intro id
    rw [hApplied, hSettled.drained]
    constructor
    · rintro ⟨before, hFind, hStatus⟩
      refine ⟨before, Outbox.find_afterDrain.mpr
        ⟨before, hFind, ?_⟩, hStatus⟩
      rw [if_neg]
      intro hSame
      rw [hSame, hStored, Option.some.injEq] at hFind
      rw [← hFind, hPending] at hStatus
      cases hStatus
    · rintro ⟨after, hFind, hStatus⟩
      exact ⟨after, hDrained id after hFind hStatus, hStatus⟩
  · intro first second after after' hFind hFind' hStatus hTenant
      hLess
    have hOld' := hDrained second after' hFind' hStatus
    rcases Outbox.find_afterDrain.mp hFind with
      ⟨before, hBefore, rfl⟩
    by_cases hSame : first = row.id
    · rw [hSame, hStored, Option.some.injEq] at hBefore
      subst hBefore
      rw [if_pos hSame, tenantId_write] at hTenant
      rw [← hSame] at hStored
      exact absurd hPending
        (hSettled.noneBehind first second stored after' hStored
          hOld' hStatus hTenant hLess)
    · rw [if_neg hSame] at hTenant ⊢
      exact hSettled.noneBehind first second before after'
        hBefore hOld' hStatus hTenant hLess
  · intro first second after after' hFind hFind' hStatus
      hStatus'
    rw [hApplied]
    exact hSettled.inOrder first second after after'
      (hDrained first after hFind hStatus)
      (hDrained second after' hFind' hStatus') hStatus hStatus'

/- A row whose Cypher runs without overtaking. -/
theorem Outbox.Settled.afterDrain_drained
    (hInv : s.Inv)
    (hQueued : s.Queued)
    (hSettled : s.Settled)
    {row : OutboxRow}
    {rest : List OutboxRow}
    (hClaimed : s.claimed = row :: rest)
    (hAlone : s.NoOvertaking (.drain .ran)) :
    (s.afterDrain row rest .drained).Settled := by
  rcases hInv.claimed row (by simp [hClaimed]) with
    ⟨stored, hStored, hPending, -⟩
  have hApplied :
      (s.afterDrain row rest .drained).applied =
        s.applied ++ [row.id] := by
    simp [Outbox.afterDrain]
  have hNew : row.id ∉ s.applied := by
    intro hMem
    rcases (hSettled.drained _).mp hMem with
      ⟨found, hFound, hStatus⟩
    rw [hStored, Option.some.injEq] at hFound
    rw [← hFound, hPending] at hStatus
    cases hStatus
  have hNoneBefore : ∀ earlier other,
      s.rows.find earlier = some other →
        other.tenantId = stored.tenantId → earlier < row.id →
          other.status ≠ .pending := by
    intro earlier other hFind hTenant hLess hWaits
    exact hQueued.tried_of_lt_head hClaimed hFind hWaits hLess
      (hAlone row (by simp [hClaimed]) stored hStored earlier
        other hFind hLess hTenant hWaits)
  refine ⟨?_, ?_, ?_⟩
  · intro id
    rw [hApplied, List.mem_append, List.mem_singleton,
      hSettled.drained]
    constructor
    · rintro (⟨before, hFind, hStatus⟩ | rfl)
      · refine ⟨_, Outbox.find_afterDrain.mpr
          ⟨before, hFind, rfl⟩, ?_⟩
        split
        · rfl
        · exact hStatus
      · refine ⟨_, Outbox.find_afterDrain.mpr
          ⟨stored, hStored, rfl⟩, ?_⟩
        rw [if_pos rfl]
        rfl
    · rintro ⟨after, hFind, hStatus⟩
      rcases Outbox.find_afterDrain.mp hFind with
        ⟨before, hBefore, rfl⟩
      by_cases hSame : id = row.id
      · exact Or.inr hSame
      · rw [if_neg hSame] at hStatus
        exact Or.inl ⟨before, hBefore, hStatus⟩
  · intro first second after after' hFind hFind' hStatus hTenant
      hLess
    rcases Outbox.find_afterDrain.mp hFind with
      ⟨before, hBefore, rfl⟩
    rcases Outbox.find_afterDrain.mp hFind' with
      ⟨before', hBefore', rfl⟩
    by_cases hFirst : first = row.id
    · rw [if_pos hFirst]
      intro hWaits
      cases hWaits
    · rw [if_neg hFirst] at hTenant ⊢
      by_cases hSecond : second = row.id
      · subst hSecond
        rw [hStored, Option.some.injEq] at hBefore'
        subst hBefore'
        rw [if_pos rfl, tenantId_write] at hTenant
        exact hNoneBefore first before hBefore hTenant hLess
      · rw [if_neg hSecond] at hTenant hStatus
        exact hSettled.noneBehind first second before before'
          hBefore hBefore' hStatus hTenant hLess
  · intro first second after after' hFind hFind' hStatus
      hStatus' hTenant hLess
    rw [hApplied]
    rcases Outbox.find_afterDrain.mp hFind with
      ⟨before, hBefore, rfl⟩
    rcases Outbox.find_afterDrain.mp hFind' with
      ⟨before', hBefore', rfl⟩
    by_cases hFirst : first = row.id
    · -- the row would have been overtaken by the second
      subst hFirst
      rw [hStored, Option.some.injEq] at hBefore
      subst hBefore
      have hOther : second ≠ row.id := Nat.ne_of_gt hLess
      rw [if_neg hOther] at hStatus' hTenant
      rw [if_pos rfl, tenantId_write] at hTenant
      exact absurd hPending
        (hSettled.noneBehind row.id second stored before'
          hStored hBefore' hStatus' hTenant hLess)
    · rw [if_neg hFirst] at hStatus hTenant
      have hMem : first ∈ s.applied :=
        (hSettled.drained first).mpr ⟨before, hBefore, hStatus⟩
      rw [List.idxOf_append_of_mem hMem]
      by_cases hSecond : second = row.id
      · rw [hSecond, List.idxOf_append_of_notMem hNew]
        have hIndex := List.idxOf_lt_length_of_mem hMem
        omega
      · rw [if_neg hSecond] at hStatus' hTenant
        have hMem' : second ∈ s.applied :=
          (hSettled.drained second).mpr
            ⟨before', hBefore', hStatus'⟩
        rw [List.idxOf_append_of_mem hMem']
        exact hSettled.inOrder first second before before'
          hBefore hBefore' hStatus hStatus' hTenant hLess

/- A step without overtaking keeps the rows settled. -/
theorem Outbox.Settled.step
    (hInv : s.Inv)
    (hQueued : s.Queued)
    (hSettled : s.Settled)
    (a : OutboxAction)
    (hAlone : s.NoOvertaking a) :
    (s.step a).Settled := by
  refine Outbox.step_cases a hSettled ?_ ?_ ?_ ?_ ?_
  · intro micros
    exact hSettled.of_rows rfl rfl
  · exact hSettled.of_rows rfl rfl
  · intro request _
    exact hSettled.insert hInv request
  · intro batchSize _
    exact hSettled.of_rows rfl rfl
  · intro attempt row rest hAction hClaimed
    rcases drainOne_cases row attempt with
      ⟨hVerdict, hRan⟩ | ⟨reason, hVerdict⟩ |
        ⟨reason, hVerdict, -⟩
    · rw [hVerdict]
      rw [hAction, hRan] at hAlone
      exact hSettled.afterDrain_drained hInv hQueued hClaimed
        hAlone
    · rw [hVerdict]
      exact hSettled.afterDrain_other hInv hClaimed (by simp)
    · rw [hVerdict]
      exact hSettled.afterDrain_other hInv hClaimed (by simp)

/- Runs without overtaking apply the rows in order. -/
theorem appliedInOrder_of_noOvertaking
    {actions : List OutboxAction}
    (hMeets :
      Machine.Meets (Machine.total Outbox.step)
        Outbox.NoOvertaking Outbox.empty actions) :
    (Outbox.empty.run actions).AppliedInOrder := by
  have hEmpty : Outbox.empty.Settled :=
    ⟨by simp [Outbox.empty], by simp [Outbox.empty],
      by simp [Outbox.AppliedInOrder, Outbox.empty]⟩
  have hKeeps : ∀ (s : Outbox) (a : OutboxAction),
      s.Inv ∧ s.Queued ∧ s.Settled → s.NoOvertaking a →
        (s.step a).Inv ∧ (s.step a).Queued ∧
          (s.step a).Settled := by
    rintro s a ⟨hInv, hQueued, hSettled⟩ hAlone
    exact ⟨hInv.step a, hQueued.step hInv a,
      hSettled.step hInv hQueued a hAlone⟩
  exact (Machine.foldl_invariant hKeeps
    ⟨Outbox.inv_empty, Outbox.queued_empty, hEmpty⟩
    hMeets).2.2.inOrder

/- Where no row waits for another try, none is overtaken. -/
theorem noOvertaking_of_untried
    (hUntried : ∀ entry ∈ s.rows.rows, entry.2.attempts = 0)
    (a : OutboxAction) :
    s.NoOvertaking a := by
  cases a with
  | drain attempt =>
    cases attempt with
    | ran =>
      intro row _ stored _ earlier other hFind _ _ _
      exact hUntried _ (Keyed.find_eq_some_iff.mp hFind)
    | factoryRaised exception => trivial
    | sessionRaised exception => trivial
    | runRaised exception => trivial
  | pass micros => trivial
  | enqueue request => trivial
  | claim batchSize => trivial

def graphWrite (operation : String) : Enqueue where
  tenantId := some "tenant"
  operation := operation
  cypher := "MERGE (n:Supplier {tenant_id: $tenant_id})"
  params := "{}"
  dedupeKey := none
  maxAttempts := 10

/- Two writes that a batch applies one after the other. -/
theorem appliedInOrder_batch :
    (Outbox.empty.run
      [.enqueue (graphWrite "invite_created"), .pass 1,
        .enqueue (graphWrite "cte_event_recorded"),
        .claim 100, .drain .ran, .drain .ran]).AppliedInOrder := by
  refine appliedInOrder_of_noOvertaking ?_
  refine ⟨trivial, ?_⟩
  rintro _ ⟨⟩
  refine ⟨trivial, ?_⟩
  rintro _ ⟨⟩
  refine ⟨trivial, ?_⟩
  rintro _ ⟨⟩
  refine ⟨trivial, ?_⟩
  rintro _ ⟨⟩
  refine ⟨noOvertaking_of_untried (by decide) _, ?_⟩
  rintro _ ⟨⟩
  refine ⟨noOvertaking_of_untried (by decide) _, ?_⟩
  rintro _ ⟨⟩
  trivial

/-
  Neo4j is away for the first of two writes; the second is
  applied in the same batch, the first five seconds later.
-/
def overtakenWrite : List OutboxAction :=
  [.enqueue (graphWrite "invite_created"), .pass 1,
    .enqueue (graphWrite "cte_event_recorded"), .claim 100,
    .drain (.runRaised "unavailable"), .drain .ran,
    .pass 5000000, .claim 100, .drain .ran]

/- The write that was enqueued first is applied last. -/
theorem not_appliedInOrder :
    ¬ ∀ actions,
      (Outbox.empty.run actions).AppliedInOrder := by
  intro hAll
  let s := Outbox.empty.run overtakenWrite
  have hRows :
      ((s.rows.find 0).map (fun row =>
          (row.status, row.tenantId)) =
            some (.drained, some "tenant") ∧
        (s.rows.find 1).map (fun row =>
          (row.status, row.tenantId)) =
            some (.drained, some "tenant")) ∧
        s.applied.idxOf 1 < s.applied.idxOf 0 := by
    decide
  rcases hRows with ⟨⟨hFirst, hSecond⟩, hLater⟩
  rcases Option.map_eq_some_iff.mp hFirst with
    ⟨row, hFind, hRow⟩
  rcases Option.map_eq_some_iff.mp hSecond with
    ⟨row', hFind', hRow'⟩
  rw [Prod.mk.injEq] at hRow hRow'
  have hOrder :=
    hAll overtakenWrite 0 1 row row' hFind hFind' hRow.1 hRow'.1
      (hRow.2.trans hRow'.2.symm) Nat.one_pos
  exact absurd (hOrder.trans hLater) (Nat.lt_irrefl _)

end GraphOutbox

end RegEngine
