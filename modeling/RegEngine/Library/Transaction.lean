import RegEngine.Library.Outcome

/-
  Transactions of calls on a state: a call that raises, or a
  rollback, leaves the state as it was before the transaction.
  A session keeps its writes apart until it is closed, while
  others may commit.

  Main declarations:
    * `Transaction`
    * `Transaction.runAll`
    * `Session`
-/

/- A transaction: its calls, and whether it is committed. -/
structure Transaction (α : Type) where
  calls : List α
  commits : Bool

namespace Transaction

variable {σ α ε : Type}

/- The state after a transaction. -/
def run
    (call : σ → α → Except ε σ)
    (s : σ)
    (transaction : Transaction α) : σ :=
  if transaction.commits then
    match transaction.calls.foldlM call s with
    | .ok final => final
    | .error _ => s
  else
    s

/- The state after some transactions. -/
def runAll
    (call : σ → α → Except ε σ)
    (s : σ)
    (transactions : List (Transaction α)) : σ :=
  transactions.foldl (run call) s

/- Every call meets a condition in the state it is made in. -/
def CallsMeet
    (call : σ → α → Except ε σ)
    (P : σ → α → Prop) : σ → List α → Prop
| _, [] => True
| s, a :: rest =>
    P s a ∧ ∀ next, call s a = .ok next →
      CallsMeet call P next rest

/- Every call of some transactions meets a condition. -/
def AllMeet
    (call : σ → α → Except ε σ)
    (P : σ → α → Prop) : σ → List (Transaction α) → Prop
| _, [] => True
| s, transaction :: rest =>
    CallsMeet call P s transaction.calls ∧
      AllMeet call P (run call s transaction) rest

/- Whether calls meet a condition can be decided. -/
instance decidableCallsMeet
    (call : σ → α → Except ε σ)
    (P : σ → α → Prop)
    [∀ s a, Decidable (P s a)] :
    ∀ s calls, Decidable (CallsMeet call P s calls)
| _, [] => isTrue trivial
| s, a :: rest =>
    match hCall : call s a with
    | .error _ =>
        decidable_of_iff (P s a) (by simp [CallsMeet, hCall])
    | .ok next =>
        have := decidableCallsMeet call P next rest
        decidable_of_iff (P s a ∧ CallsMeet call P next rest)
          (by simp [CallsMeet, hCall])

/- Whether transactions meet a condition can be decided. -/
instance decidableAllMeet
    (call : σ → α → Except ε σ)
    (P : σ → α → Prop)
    [∀ s a, Decidable (P s a)] :
    ∀ s transactions, Decidable (AllMeet call P s transactions)
| _, [] => isTrue trivial
| s, transaction :: rest =>
    have := decidableAllMeet call P (run call s transaction) rest
    decidable_of_iff
      (CallsMeet call P s transaction.calls ∧
        AllMeet call P (run call s transaction) rest)
      Iff.rfl

variable {call : σ → α → Except ε σ} {P : σ → α → Prop}
  {Inv : σ → Prop}

/- What every call keeps, calls in turn keep. -/
theorem foldlM_call_invariant
    (hCall :
      ∀ s a next, Inv s → P s a → call s a = .ok next →
        Inv next)
    {s final : σ}
    {calls : List α}
    (hInit : Inv s)
    (hMeet : CallsMeet call P s calls)
    (hRun : calls.foldlM call s = .ok final) :
    Inv final := by
  induction calls generalizing s with
  | nil =>
      rw [List.foldlM_nil] at hRun
      rw [← Outcome.pure_eq_ok.mp hRun]
      exact hInit
  | cons a rest ih =>
      rcases Outcome.foldlM_cons_eq_ok.mp hRun with
        ⟨next, hNext, hRest⟩
      exact ih (hCall s a next hInit hMeet.1 hNext)
        (hMeet.2 next hNext) hRest

variable {s : σ}

/- What every call keeps, a transaction keeps. -/
theorem run_invariant
    (hCall :
      ∀ s a next, Inv s → P s a → call s a = .ok next →
        Inv next)
    {transaction : Transaction α}
    (hInit : Inv s)
    (hMeet : CallsMeet call P s transaction.calls) :
    Inv (run call s transaction) := by
  unfold run
  split
  · split
    · rename_i final hRun
      exact foldlM_call_invariant hCall hInit hMeet hRun
    · exact hInit
  · exact hInit

/- What every call keeps holds after every run. -/
theorem runAll_invariant
    (hCall :
      ∀ s a next, Inv s → P s a → call s a = .ok next →
        Inv next)
    {transactions : List (Transaction α)}
    (hInit : Inv s)
    (hMeet : AllMeet call P s transactions) :
    Inv (runAll call s transactions) := by
  induction transactions generalizing s with
  | nil => exact hInit
  | cons transaction rest ih =>
      exact ih (run_invariant hCall hInit hMeet.1) hMeet.2

theorem runAll_append
    (call : σ → α → Except ε σ)
    (s : σ)
    (before after : List (Transaction α)) :
    runAll call s (before ++ after) =
      runAll call (runAll call s before) after :=
  List.foldl_append

/- Calls without a condition meet it. -/
theorem allMeet_true
    (call : σ → α → Except ε σ)
    (s : σ)
    (transactions : List (Transaction α)) :
    AllMeet call (fun _ _ => True) s transactions := by
  have hCalls :
      ∀ (calls : List α) (s : σ),
        CallsMeet call (fun _ _ => True) s calls := by
    intro calls
    induction calls with
    | nil => exact fun _ => trivial
    | cons a rest ih =>
        exact fun _ => ⟨trivial, fun next _ => ih next⟩
  induction transactions generalizing s with
  | nil => exact trivial
  | cons transaction rest ih =>
      exact ⟨hCalls transaction.calls s, ih _⟩

/- What every call keeps in any case, every run keeps. -/
theorem runAll_keeps
    (hCall :
      ∀ s a next, Inv s → call s a = .ok next → Inv next)
    (hInit : Inv s)
    (transactions : List (Transaction α)) :
    Inv (runAll call s transactions) :=
  runAll_invariant
    (fun s a next hInv _ hNext => hCall s a next hInv hNext)
    hInit (allMeet_true call s transactions)

end Transaction

--------
-- Sessions
--------

/- What is committed, and the writes of a session so far. -/
structure Session (σ : Type) where
  committed : σ
  pending : List (σ → σ)

namespace Session

variable {σ : Type}

/- A session without writes. -/
def start (committed : σ) : Session σ := ⟨committed, []⟩

/- The state that the session sees. -/
def seen (session : Session σ) : σ :=
  session.pending.foldl (fun s write => write s)
    session.committed

def write (session : Session σ) (f : σ → σ) : Session σ :=
  { session with pending := session.pending ++ [f] }

/- Others commit. -/
def elapse (session : Session σ) (others : σ → σ) :
    Session σ :=
  { session with committed := others session.committed }

/- The state after a commit or a rollback. -/
def close (session : Session σ) (commits : Bool) : σ :=
  if commits then session.seen else session.committed

end Session
