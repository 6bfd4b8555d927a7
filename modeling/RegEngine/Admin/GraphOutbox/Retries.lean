import RegEngine.Admin.GraphOutbox.Drainer

/-
  How often the drainer works on a row before the row is
  drained or failed.

  Main declarations:
    * `GraphOutbox.Outbox.Bounded`
    * `GraphOutbox.retriesBounded_of_sparesLastTry`
    * `GraphOutbox.not_retriesBounded`
-/

--------
-- What A Row Keeps
--------

namespace RegEngine

namespace GraphOutbox

/- No row is tried more than `max_attempts` times. -/
def Outbox.Bounded (s : Outbox) : Prop :=
  ∀ id row, s.rows.find id = some row →
    s.tried.count id ≤ row.maxAttempts

/-
  A state further on in a run: attempts never go down, and a
  row that is drained or failed stays so and is not tried
  again.
-/
def Outbox.Follows (before after : Outbox) : Prop :=
  ∀ id row, before.rows.find id = some row →
    ∃ row', after.rows.find id = some row' ∧
      row'.maxAttempts = row.maxAttempts ∧
      row.attempts ≤ row'.attempts ∧
      (row.status ≠ .pending →
        row'.status = row.status ∧
          after.tried.count id = before.tried.count id)

theorem Outbox.Follows.refl
    (s : Outbox) :
    s.Follows s := by
  intro id row hFind
  exact ⟨row, hFind, rfl, Nat.le_refl _, fun _ => ⟨rfl, rfl⟩⟩

theorem Outbox.Follows.trans
    {first second third : Outbox}
    (hFirst : first.Follows second)
    (hSecond : second.Follows third) :
    first.Follows third := by
  intro id row hFind
  rcases hFirst id row hFind with
    ⟨row', hFind', hMax, hAttempts, hEnded⟩
  rcases hSecond id row' hFind' with
    ⟨row'', hFind'', hMax', hAttempts', hEnded'⟩
  refine ⟨row'', hFind'', hMax'.trans hMax,
    hAttempts.trans hAttempts', ?_⟩
  intro hNot
  rcases hEnded hNot with ⟨hStatus, hCount⟩
  have hStill : row'.status ≠ .pending := by
    rw [hStatus]
    exact hNot
  rcases hEnded' hStill with ⟨hStatus', hCount'⟩
  exact ⟨hStatus'.trans hStatus, hCount'.trans hCount⟩

/- A verdict is about a row as it was selected. -/
theorem maxAttempts_write
    (verdict : Verdict)
    (row : OutboxRow)
    (now : Int)
    (stored : StoredRow) :
    (verdict.write row now stored).maxAttempts =
      stored.maxAttempts := by
  cases verdict <;> rfl

/- A verdict never takes attempts back. -/
theorem attempts_le_write
    {stored : StoredRow}
    (id : Nat)
    (attempt : Attempt)
    (now : Int) :
    stored.attempts ≤
      ((drainOne (OutboxRow.ofStored id stored) attempt).write
        (OutboxRow.ofStored id stored) now stored).attempts := by
  rcases drainOne_cases (OutboxRow.ofStored id stored)
    attempt with
    ⟨hVerdict, -⟩ | ⟨reason, hVerdict⟩ | ⟨reason, hVerdict, -⟩
  · rw [hVerdict]
    exact Nat.le_refl _
  · rw [hVerdict]
    exact Nat.le_refl _
  · rw [hVerdict]
    exact Nat.le_succ _

variable {s : Outbox}

/- What every step keeps of a row. -/
theorem Outbox.Inv.follows_step
    (hInv : s.Inv)
    (a : OutboxAction) :
    s.Follows (s.step a) := by
  refine Outbox.step_cases a (Outbox.Follows.refl s) ?_ ?_ ?_
    ?_ ?_
  · intro micros
    exact Outbox.Follows.refl s
  · exact Outbox.Follows.refl s
  · intro request _ id row hFind
    exact ⟨row, hInv.find_insert.mpr (Or.inr hFind), rfl,
      Nat.le_refl _, fun _ => ⟨rfl, rfl⟩⟩
  · intro batchSize _
    exact Outbox.Follows.refl s
  · intro attempt row rest _ hClaimed id before hFind
    rcases hInv.claimed row (by simp [hClaimed]) with
      ⟨stored, hStored, hPending, hRow⟩
    refine ⟨_, Outbox.find_afterDrain.mpr ⟨before, hFind, rfl⟩,
      ?_⟩
    by_cases hSame : id = row.id
    · rw [hSame, hStored, Option.some.injEq] at hFind
      subst hFind
      rw [if_pos hSame, maxAttempts_write]
      refine ⟨rfl, ?_, fun hEnded => absurd hPending hEnded⟩
      rw [hRow]
      exact attempts_le_write _ _ _
    · rw [if_neg hSame]
      refine ⟨rfl, Nat.le_refl _, fun _ => ⟨rfl, ?_⟩⟩
      change (s.tried ++ [row.id]).count id = _
      rw [List.count_append, List.count_singleton,
        if_neg (by simpa using Ne.symm hSame), Nat.add_zero]

/- What a run keeps of a row. -/
theorem Outbox.follows_run
    (hInv : s.Inv)
    (actions : List OutboxAction) :
    s.Follows (s.run actions) := by
  have hKeeps : ∀ (t : Outbox) (a : OutboxAction),
      t.Inv ∧ s.Follows t →
        (t.step a).Inv ∧ s.Follows (t.step a) := by
    rintro t a ⟨hHere, hFollows⟩
    exact ⟨hHere.step a,
      hFollows.trans (hHere.follows_step a)⟩
  exact (Machine.foldl_keeps hKeeps actions
    ⟨hInv, Outbox.Follows.refl s⟩).2

--------
-- The Bound
--------

/-
  The session factory does not raise for a row that has no
  further try.
-/
def Outbox.SparesLastTry (s : Outbox) : OutboxAction → Prop
| .drain (.factoryRaised _) =>
    ∀ row ∈ s.claimed.head?, row.tenantId.isSome = true →
      row.attempts + 1 < row.maxAttempts
| _ => True

/-
  A pending row has been tried as often as its counter says,
  and has a try left; a row without one is no longer pending.
-/
structure Outbox.Counted (s : Outbox) : Prop where
  pending :
    ∀ id row, s.rows.find id = some row →
      row.status = .pending →
        s.tried.count id = row.attempts ∧
          row.attempts < row.maxAttempts
  bounded : s.Bounded

/- A row that has a try left is selected with its own bound. -/
theorem maxAttempts_ofStored
    {stored : StoredRow}
    (hLeft : stored.attempts < stored.maxAttempts)
    (id : Nat) :
    (OutboxRow.ofStored id stored).maxAttempts =
      stored.maxAttempts :=
  if_neg (by omega)

/- A step that spares the last try keeps the count. -/
theorem Outbox.Counted.step
    (hInv : s.Inv)
    (hCounted : s.Counted)
    (a : OutboxAction)
    (hSpares : s.SparesLastTry a) :
    (s.step a).Counted := by
  refine Outbox.step_cases a hCounted ?_ ?_ ?_ ?_ ?_
  · intro micros
    exact ⟨hCounted.pending, hCounted.bounded⟩
  · exact ⟨hCounted.pending, hCounted.bounded⟩
  · intro request hValid
    have hNever : s.tried.count s.nextId = 0 := by
      apply List.count_eq_zero.mpr
      intro hTried
      exact absurd (hInv.triedBelow _ hTried) (by omega)
    have hMax : 0 < (request.row s.clock).maxAttempts := by
      have hOne : 1 ≤ request.maxAttempts := by
        simp only [Enqueue.isValid, Bool.and_eq_true,
          decide_eq_true_eq] at hValid
        exact hValid.2
      change 0 < request.maxAttempts.toNat
      omega
    refine ⟨?_, ?_⟩
    · intro id row hFind hPending
      rcases hInv.find_insert.mp hFind with ⟨rfl, rfl⟩ | hOld
      · exact ⟨hNever, hMax⟩
      · exact hCounted.pending id row hOld hPending
    · intro id row hFind
      rcases hInv.find_insert.mp hFind with ⟨rfl, rfl⟩ | hOld
      · exact hNever.le.trans (Nat.zero_le _)
      · exact hCounted.bounded id row hOld
  · intro batchSize _
    exact ⟨hCounted.pending, hCounted.bounded⟩
  · intro attempt row rest hAction hClaimed
    rcases hInv.claimed row (by simp [hClaimed]) with
      ⟨stored, hStored, hPending, hRow⟩
    rcases hCounted.pending _ _ hStored hPending with
      ⟨hCount, hLeft⟩
    have hAttempts : row.attempts = stored.attempts := by
      rw [hRow]
      rfl
    have hMax : row.maxAttempts = stored.maxAttempts := by
      rw [hRow]
      exact maxAttempts_ofStored hLeft _
    have hTried : ∀ id,
        (s.tried ++ [row.id]).count id =
          s.tried.count id + if id = row.id then 1 else 0 := by
      intro id
      rw [List.count_append, List.count_singleton]
      by_cases hSame : id = row.id
      · rw [if_pos hSame, if_pos (by simp [hSame])]
      · rw [if_neg hSame, if_neg (by simpa using Ne.symm hSame)]
    refine ⟨?_, ?_⟩
    · intro id after hFind hStill
      change (s.tried ++ [row.id]).count id = _ ∧ _
      rw [hTried]
      rcases Outbox.find_afterDrain.mp hFind with
        ⟨before, hBefore, rfl⟩
      by_cases hSame : id = row.id
      · subst hSame
        rw [hStored, Option.some.injEq] at hBefore
        subst hBefore
        rw [if_pos rfl] at hStill ⊢
        rw [if_pos rfl]
        -- only a row that is put off is still pending
        rcases drainOne_cases row attempt with
          ⟨hVerdict, -⟩ | ⟨reason, hVerdict⟩ |
            ⟨reason, hVerdict, hTry⟩
        · rw [hVerdict] at hStill
          cases hStill
        · rw [hVerdict] at hStill
          cases hStill
        · rw [hVerdict]
          refine ⟨by rw [hCount, ← hAttempts]; rfl, ?_⟩
          change row.attempts + 1 < stored.maxAttempts
          rw [← hMax]
          rcases hTry with hTry | ⟨hTenant, exception, hRaised⟩
          · exact hTry
          · rw [hAction, hRaised] at hSpares
            exact hSpares row (by simp [hClaimed]) hTenant
      · rw [if_neg hSame] at hStill ⊢
        rw [if_neg hSame]
        exact hCounted.pending id before hBefore hStill
    · intro id after hFind
      change (s.tried ++ [row.id]).count id ≤ _
      rw [hTried]
      rcases Outbox.find_afterDrain.mp hFind with
        ⟨before, hBefore, rfl⟩
      by_cases hSame : id = row.id
      · subst hSame
        rw [hStored, Option.some.injEq] at hBefore
        subst hBefore
        rw [if_pos rfl, if_pos rfl, maxAttempts_write, hCount]
        exact hLeft
      · rw [if_neg hSame, if_neg hSame]
        exact hCounted.bounded id before hBefore

/-
  The bound over a run: in each of its states no row has been
  tried too often, and each state follows those before it.
-/
def RetriesBounded (actions : List OutboxAction) : Prop :=
  (∀ before, before <+: actions →
      (Outbox.empty.run before).Bounded) ∧
    ∀ before later, before <+: later → later <+: actions →
      (Outbox.empty.run before).Follows
        (Outbox.empty.run later)

/- A run in which the factory spares last tries is bounded. -/
theorem retriesBounded_of_sparesLastTry
    {actions : List OutboxAction}
    (hMeets :
      Machine.Meets (Machine.total Outbox.step)
        Outbox.SparesLastTry Outbox.empty actions) :
    RetriesBounded actions := by
  constructor
  · rintro before ⟨rest, rfl⟩
    have hCounted : Outbox.empty.Counted :=
      ⟨by simp [Outbox.empty], by
        simp [Outbox.Bounded, Outbox.empty]⟩
    have hKeeps : ∀ (s : Outbox) (a : OutboxAction),
        s.Inv ∧ s.Counted → s.SparesLastTry a →
          (s.step a).Inv ∧ (s.step a).Counted := by
      rintro s a ⟨hInv, hHere⟩ hSpares
      exact ⟨hInv.step a, hHere.step hInv a hSpares⟩
    exact (Machine.foldl_invariant hKeeps
      ⟨Outbox.inv_empty, hCounted⟩ hMeets.initial).2.bounded
  · rintro before later ⟨more, rfl⟩ -
    have hInv : (Outbox.empty.run before).Inv :=
      Machine.foldl_keeps (fun s a hHere => hHere.step a)
        before Outbox.inv_empty
    have hRun :
        Outbox.empty.run (before ++ more) =
          (Outbox.empty.run before).run more :=
      List.foldl_append
    rw [hRun]
    exact Outbox.follows_run hInv more

/- A write of a tenant with one try. -/
def singleTry : Enqueue where
  tenantId := some "tenant"
  operation := "invite_created"
  cypher := "MERGE (n:Invite \x7btenant_id: $tenant_id\x7d)"
  params := "\x7b\x7d"
  dedupeKey := none
  maxAttempts := 1

/- A row that the drainer gives up after its only try. -/
theorem retriesBounded_failedRun :
    RetriesBounded
      [.enqueue singleTry, .claim 100,
        .drain (.runRaised "unavailable"), .pass 5000000,
        .claim 100] :=
  retriesBounded_of_sparesLastTry (by
    refine ⟨trivial, ?_⟩
    rintro _ ⟨⟩
    refine ⟨trivial, ?_⟩
    rintro _ ⟨⟩
    refine ⟨trivial, ?_⟩
    rintro _ ⟨⟩
    refine ⟨trivial, ?_⟩
    rintro _ ⟨⟩
    exact ⟨trivial, fun _ _ => trivial⟩)

/-
  The factory raises, and five seconds later it raises again.
-/
def refusedTwice : List OutboxAction :=
  [.enqueue singleTry, .claim 100,
    .drain (.factoryRaised "driver closed"), .pass 5000000,
    .claim 100, .drain (.factoryRaised "driver closed")]

/- A row with one try is tried twice. -/
theorem not_retriesBounded :
    ¬ ∀ actions, RetriesBounded actions := by
  intro hAll
  have hCounts :
      ((Outbox.empty.run refusedTwice).rows.find 0).map
          StoredRow.maxAttempts = some 1 ∧
        (Outbox.empty.run refusedTwice).tried.count 0 = 2 := by
    decide
  rcases Option.map_eq_some_iff.mp hCounts.1 with
    ⟨row, hFind, hMax⟩
  have hBound :=
    (hAll refusedTwice).1 refusedTwice List.prefix_rfl 0 row
      hFind
  rw [hCounts.2, hMax] at hBound
  exact absurd hBound (by decide)

end GraphOutbox

end RegEngine
