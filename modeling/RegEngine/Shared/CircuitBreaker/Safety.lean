import Mathlib.Tactic.Linarith
import RegEngine.Shared.CircuitBreaker

/-
  What a circuit breaker promises: no call is admitted in the
  recovery time after a failure that opened the circuit, few
  calls are admitted while it is half open, and it is closed
  only after as many of these have succeeded.  The first holds
  in every run; the others in every run in which the callers
  start no more calls than that and each success is of a call
  of the period, on a breaker with no count from before.

  Main declarations:
    * `CircuitBreaker.Safe`
    * `CircuitBreaker.safe_of_orderly`
    * `CircuitBreaker.not_safe`
-/

--------
-- What A Step May Do
--------

namespace RegEngine

namespace CircuitBreaker

section

variable {ι κ : Type} [DecidableEq ι] [DecidableEq κ]

/- What holds of a step and of the state that it leads to. -/
structure StepSafe
    (config : Config)
    (s : State ι κ)
    (a : Action ι κ)
    (next : State ι κ) : Prop where
  recovery : ∀ breaker call now,
    a = .start breaker call now → next.flights call ≠ none →
      ∀ t ∈ s.history.openedAt,
        t + config.recoveryTimeout ≤ now
  admitted :
    next.circuit config = .halfOpen →
      (next.history.admitted : Int) ≤ config.halfOpenMaxCalls
  recovered :
    s.circuit config = .halfOpen →
      next.circuit config = .closed →
        config.halfOpenMaxCalls ≤ next.history.succeeded

/- A step is safe if it can be taken. -/
def Safe
    (config : Config)
    (s : State ι κ)
    (a : Action ι κ) : Prop :=
  ∀ next, step config s a = some next →
    StepSafe config s a next

/-
  What the callers do while the circuit is half open: they
  start no more calls than the period allows, and a success is
  of a call that was admitted in the period, on a breaker that
  has counted no other success.
-/
def FitsPeriod (config : Config) (s : State ι κ) :
    Action ι κ → Prop
| .start _ _ now =>
    s.circuitAt config now = .halfOpen →
      (s.history.admitted : Int) < config.halfOpenMaxCalls
| .success call now =>
    s.circuitAt config now = .halfOpen →
      ∀ flight ∈ s.flights call,
        flight.period = some s.history.period ∧
          (s.breakers flight.breaker).halfOpenCalls ≤
            s.history.succeeded
| .failure _ _ => True

instance
    (config : Config)
    (s : State ι κ)
    (a : Action ι κ) :
    Decidable (FitsPeriod config s a) := by
  unfold FitsPeriod
  split <;> infer_instance

/-
  The callers fit the period, and the keys of the store live
  as long as the recovery time and as the period.
-/
structure Orderly
    (config : Config)
    (s : State ι κ)
    (a : Action ι κ) : Prop where
  lasting : ∀ ttl ∈ config.backend.keyTtl,
    config.recoveryTimeout ≤ ttl
  some_call : 1 ≤ config.halfOpenMaxCalls
  kept :
    s.circuit config = .halfOpen →
      s.circuitAt config a.now = .halfOpen
  calls : FitsPeriod config s a

instance
    (config : Config)
    (s : State ι κ)
    (a : Action ι κ) :
    Decidable (Orderly config s a) :=
  decidable_of_iff
    ((∀ ttl ∈ config.backend.keyTtl,
        config.recoveryTimeout ≤ ttl) ∧
      1 ≤ config.halfOpenMaxCalls ∧
      (s.circuit config = .halfOpen →
        s.circuitAt config a.now = .halfOpen) ∧
      FitsPeriod config s a)
    ⟨fun h => ⟨h.1, h.2.1, h.2.2.1, h.2.2.2⟩,
      fun h => ⟨h.lasting, h.some_call, h.kept, h.calls⟩⟩

end

--------
-- The Store In Time
--------

section

variable {backend : Backend} {store : Store} {now t : Rat}

/- Keys live for some time. -/
theorem keyTtl_pos
    {ttl : Rat}
    (hTtl : ttl ∈ backend.keyTtl) :
    0 < ttl := by
  cases backend with
  | memory => cases hTtl
  | redis =>
    cases hTtl
    decide

variable {α : Type} {earlier : Rat}

/- A key is alive when it is set. -/
theorem alive_now
    (value : α) :
    Key.Alive backend now ⟨value, now⟩ := by
  intro ttl hTtl
  have hPos := keyTtl_pos hTtl
  dsimp only
  linarith

theorem alive_of_le
    {key : Key α}
    (hLe : earlier ≤ now)
    (hAlive : key.Alive backend now) :
    key.Alive backend earlier := by
  intro ttl hTtl
  exact lt_of_le_of_lt hLe (hAlive ttl hTtl)

theorem getState_setState
    (value : CircuitState) :
    (store.setState now value).getState backend now = value :=
  if_pos (alive_now value)

/- The state depends on its key alone. -/
theorem getState_eq
    {other : Store}
    (hState : other.state = store.state) :
    other.getState backend now = store.getState backend now := by
  rw [Store.getState, Store.getState, hState]

/- A circuit that is found half open was half open before. -/
theorem halfOpen_of_le
    (hLe : earlier ≤ now)
    (hState : store.getState backend now = .halfOpen) :
    store.getState backend earlier = .halfOpen := by
  unfold Store.getState Store.read at hState ⊢
  cases hKey : store.state with
  | none =>
    rw [hKey] at hState
    cases hState
  | some key =>
    rw [hKey] at hState
    dsimp only at hState ⊢
    by_cases hAlive : key.Alive backend now
    · rw [if_pos hAlive] at hState
      rw [if_pos (alive_of_le hLe hAlive)]
      exact hState
    · rw [if_neg hAlive] at hState
      cases hState

/- The circuit was opened at a time or later, and not since. -/
structure Shut (store : Store) (t : Rat) : Prop where
  state : ∃ u, store.state = some ⟨.opened, u⟩ ∧ t ≤ u
  lastFailure : ∃ v w,
    store.lastFailure = some ⟨v, w⟩ ∧ t ≤ v ∧ t ≤ w

/- In the recovery time it is found open. -/
theorem Shut.reads
    {timeout : Rat}
    (hShut : Shut store t)
    (hLasting : ∀ ttl ∈ backend.keyTtl, timeout ≤ ttl)
    (hNow : now < t + timeout) :
    store.getState backend now = .opened ∧
      now - store.getLastFailureTime backend now < timeout := by
  rcases hShut.state with ⟨u, hState, hU⟩
  rcases hShut.lastFailure with ⟨v, w, hFailure, hV, hW⟩
  have hStateAlive :
      Key.Alive backend now ⟨CircuitState.opened, u⟩ := by
    intro ttl hTtl
    have hLe := hLasting ttl hTtl
    dsimp only
    linarith
  have hFailureAlive : Key.Alive backend now ⟨v, w⟩ := by
    intro ttl hTtl
    have hLe := hLasting ttl hTtl
    dsimp only
    linarith
  constructor
  · unfold Store.getState Store.read
    rw [hState]
    exact if_pos hStateAlive
  · unfold Store.getLastFailureTime Store.read
    rw [hFailure]
    dsimp only
    rw [if_pos hFailureAlive]
    linarith

end

--------
-- What The Steps Do
--------

section

variable {config : Config} {now : Rat}
  {breaker : Breaker} {store : Store}

/- What reading the state may do. -/
theorem readState_cases
    (config : Config)
    (now : Rat)
    (breaker : Breaker)
    (store : Store) :
    (readState config now breaker store =
        (store.getState config.backend now, breaker, store) ∧
      (store.getState config.backend now = .opened →
        now - store.getLastFailureTime config.backend now <
          config.recoveryTimeout)) ∨
    (store.getState config.backend now = .opened ∧
      config.recoveryTimeout ≤
        now - store.getLastFailureTime config.backend now ∧
      readState config now breaker store =
        (.halfOpen, { breaker with halfOpenCalls := 0 },
          store.setState now .halfOpen)) := by
  unfold readState
  cases hState : store.getState config.backend now with
  | opened =>
    by_cases hElapsed : config.recoveryTimeout ≤
        now - store.getLastFailureTime config.backend now
    · right
      exact ⟨rfl, hElapsed, if_pos hElapsed⟩
    · left
      exact ⟨if_neg hElapsed, fun _ => lt_of_not_ge hElapsed⟩
  | closed => exact Or.inl ⟨rfl, nofun⟩
  | halfOpen => exact Or.inl ⟨rfl, nofun⟩

theorem recordSuccess_cases
    (config : Config)
    (now : Rat)
    (breaker : Breaker)
    (store : Store) :
    (store.getState config.backend now = .halfOpen ∧
      config.halfOpenMaxCalls ≤ breaker.halfOpenCalls + 1 ∧
      (recordSuccess config now breaker store).2 =
        (store.setState now .closed).resetFailures) ∨
    ((recordSuccess config now breaker store).2.state =
        store.state ∧
      (recordSuccess config now breaker store).2.lastFailure =
        store.lastFailure) := by
  unfold recordSuccess
  cases hState : store.getState config.backend now with
  | halfOpen =>
    dsimp only
    split
    · rename_i hMax
      exact Or.inl ⟨rfl, hMax, rfl⟩
    · exact Or.inr ⟨rfl, rfl⟩
  | closed => exact Or.inr ⟨rfl, rfl⟩
  | opened => exact Or.inr ⟨rfl, rfl⟩

theorem recordFailure_cases
    (config : Config)
    (now : Rat)
    (breaker : Breaker)
    (store : Store) :
    (recordFailure config now breaker store).2.lastFailure =
        some ⟨now, now⟩ ∧
    ((recordFailure config now breaker store).2.state =
        some ⟨.opened, now⟩ ∨
      ((recordFailure config now breaker store).2.state =
          store.state ∧
        store.getState config.backend now ≠ .halfOpen)) := by
  have hSame :
      (((store.incrFailure config.backend now).setLastFailureTime
        now now).getState config.backend now) =
        store.getState config.backend now :=
    getState_eq rfl
  unfold recordFailure
  dsimp only
  rw [hSame]
  split
  · exact ⟨rfl, Or.inl rfl⟩
  · rename_i hState
    split
    · exact ⟨rfl, Or.inl rfl⟩
    · exact ⟨rfl, Or.inr ⟨rfl, hState⟩⟩

end

--------
-- The Invariant
--------

section

variable {ι κ : Type} {config : Config} {s next : State ι κ}

/- What holds of the circuit between two steps. -/
structure Inv (config : Config) (s : State ι κ) : Prop where
  past : ∀ t ∈ s.history.openedAt, t ≤ s.clock
  window : ∀ t ∈ s.history.openedAt,
    s.clock < t + config.recoveryTimeout → Shut s.store t
  admitted :
    s.circuit config = .halfOpen →
      (s.history.admitted : Int) ≤ config.halfOpenMaxCalls

theorem inv_start (config : Config) (clock : Rat) :
    Inv config (State.start clock : State ι κ) := by
  refine ⟨?_, ?_, ?_⟩
  · intro t hOpened
    cases hOpened
  · intro t hOpened
    cases hOpened
  · intro hCircuit
    cases hCircuit

/- A state whose store is as shut, at a later time. -/
theorem Inv.later
    (hInv : Inv config s)
    (hClock : s.clock ≤ next.clock)
    (hOpened : next.history.openedAt = s.history.openedAt)
    (hShut : ∀ t ∈ s.history.openedAt,
      next.clock < t + config.recoveryTimeout →
        Shut s.store t → Shut next.store t)
    (hAdmitted :
      next.circuit config = .halfOpen →
        (next.history.admitted : Int) ≤
          config.halfOpenMaxCalls) :
    Inv config next := by
  refine ⟨?_, ?_, hAdmitted⟩
  · intro t hMem
    rw [hOpened] at hMem
    exact (hInv.past t hMem).trans hClock
  · intro t hMem hNow
    rw [hOpened] at hMem
    exact hShut t hMem hNow
      (hInv.window t hMem (lt_of_le_of_lt hClock hNow))

variable {now : Rat}

/- An open circuit in its recovery time is found open. -/
theorem Inv.recovery
    (hInv : Inv config s)
    (hLasting : ∀ ttl ∈ config.backend.keyTtl,
      config.recoveryTimeout ≤ ttl)
    (hClock : s.clock ≤ now)
    {t : Rat}
    (hOpened : t ∈ s.history.openedAt)
    (hNow : now < t + config.recoveryTimeout) :
    s.circuitAt config now = .opened ∧
      now - s.store.getLastFailureTime config.backend now <
        config.recoveryTimeout :=
  (hInv.window t hOpened
    (lt_of_le_of_lt hClock hNow)).reads hLasting hNow

theorem openedAt_onAdmitted
    (history : History)
    (before after : CircuitState) :
    (history.onAdmitted before after).openedAt =
      history.openedAt := by
  unfold History.onAdmitted
  split
  · split <;> rfl
  · rfl

variable [DecidableEq ι] [DecidableEq κ]

/- What the start of a call may do. -/
theorem stepStart_cases
    (config : Config)
    (s : State ι κ)
    (breaker : ι)
    (call : κ)
    (now : Rat) :
    (stepStart config s breaker call now).clock = now ∧
    (((stepStart config s breaker call now).store = s.store ∧
        (stepStart config s breaker call now).history =
          s.history ∧
        (stepStart config s breaker call now).flights =
          s.flights) ∨
      (s.circuitAt config now ≠ .opened ∧
        (stepStart config s breaker call now).store = s.store ∧
        (stepStart config s breaker call now).history =
          s.history.onAdmitted (s.circuitAt config now)
            (s.circuitAt config now)) ∨
      (s.circuitAt config now = .opened ∧
        config.recoveryTimeout ≤
          now - s.store.getLastFailureTime config.backend now ∧
        (stepStart config s breaker call now).store =
          s.store.setState now .halfOpen ∧
        (stepStart config s breaker call now).history =
          s.history.onAdmitted .opened .halfOpen)) := by
  unfold stepStart checkState
  dsimp only
  rcases readState_cases config now
      ⟨(s.breakers breaker).halfOpenCalls,
        (s.breakers breaker).successCount,
        (s.breakers breaker).totalCalls + 1⟩
      s.store with
    ⟨hRead, -⟩ | ⟨hOpened, hElapsed, hRead⟩
  · rw [hRead]
    dsimp only
    by_cases hOpened :
        s.store.getState config.backend now = .opened
    · rw [hOpened]
      exact ⟨rfl, Or.inl ⟨rfl, rfl, rfl⟩⟩
    · rw [if_pos (bne_iff_ne.mpr hOpened)]
      exact ⟨rfl, Or.inr (Or.inl ⟨hOpened, rfl, rfl⟩)⟩
  · rw [hRead]
    refine ⟨rfl, Or.inr (Or.inr ⟨hOpened, hElapsed, rfl, ?_⟩)⟩
    change s.history.onAdmitted (s.circuitAt config now)
      ((s.store.setState now .halfOpen).getState config.backend
        now) = _
    rw [getState_setState, State.circuitAt, hOpened]

theorem stepStart_inv
    {breaker : ι}
    {call : κ}
    (hInv : Inv config s)
    (hOrderly : Orderly config s (.start breaker call now))
    (hClock : s.clock ≤ now)
    (hNew : s.flights call = none) :
    Inv config (stepStart config s breaker call now) ∧
      StepSafe config s (.start breaker call now)
        (stepStart config s breaker call now) := by
  have hKept :
      s.circuit config = .halfOpen →
        s.circuitAt config now = .halfOpen :=
    hOrderly.kept
  have hWindow : ∀ t ∈ s.history.openedAt,
      now < t + config.recoveryTimeout →
        s.circuitAt config now = .opened ∧
          now - s.store.getLastFailureTime config.backend now <
            config.recoveryTimeout :=
    fun t hOpened hNow =>
      hInv.recovery hOrderly.lasting hClock hOpened hNow
  rcases stepStart_cases config s breaker call now with
    ⟨hNow, ⟨hStore, hHistory, hFlights⟩ |
      ⟨hOpen, hStore, hHistory⟩ |
      ⟨hOpen, hElapsed, hStore, hHistory⟩⟩
  · have hCircuit :
        (stepStart config s breaker call now).circuit config =
          s.circuitAt config now := by
      rw [State.circuit, hStore, hNow]
      rfl
    have hAdmitted :
        (stepStart config s breaker call now).circuit config =
            .halfOpen →
          ((stepStart config s breaker call
            now).history.admitted : Int) ≤
            config.halfOpenMaxCalls := by
      rw [hCircuit, hHistory]
      intro hHalf
      exact hInv.admitted (halfOpen_of_le hClock hHalf)
    refine ⟨?_, ?_, hAdmitted, ?_⟩
    · apply hInv.later (hNow.symm ▸ hClock)
        (congrArg History.openedAt hHistory) _ hAdmitted
      intro t _ _ hShut
      rw [hStore]
      exact hShut
    · rintro _ _ _ ⟨⟩ hIn
      rw [hFlights] at hIn
      exact absurd hNew hIn
    · intro hHalf hClosed
      rw [hCircuit, hKept hHalf] at hClosed
      cases hClosed
  · have hCircuit :
        (stepStart config s breaker call now).circuit config =
          s.circuitAt config now := by
      rw [State.circuit, hStore, hNow]
      rfl
    have hAdmitted :
        (stepStart config s breaker call now).circuit config =
            .halfOpen →
          ((stepStart config s breaker call
            now).history.admitted : Int) ≤
            config.halfOpenMaxCalls := by
      rw [hCircuit, hHistory]
      intro hHalf
      have hLess := hOrderly.calls hHalf
      rw [hHalf, History.onAdmitted, if_pos rfl, if_pos rfl]
      push_cast
      omega
    have hOpened :
        (stepStart config s breaker call now).history.openedAt =
          s.history.openedAt := by
      rw [hHistory, openedAt_onAdmitted]
    refine ⟨?_, ?_, hAdmitted, ?_⟩
    · apply hInv.later (hNow.symm ▸ hClock) hOpened _ hAdmitted
      intro t _ _ hShut
      rw [hStore]
      exact hShut
    · rintro _ _ _ ⟨⟩ - t hT
      by_contra hLate
      exact hOpen (hWindow t hT (not_le.mp hLate)).1
    · intro hHalf hClosed
      rw [hCircuit, hKept hHalf] at hClosed
      cases hClosed
  · have hCircuit :
        (stepStart config s breaker call now).circuit config =
          .halfOpen := by
      rw [State.circuit, hStore, hNow, getState_setState]
    have hOne :
        ((stepStart config s breaker call
          now).history.admitted : Int) ≤
          config.halfOpenMaxCalls := by
      rw [hHistory]
      exact hOrderly.some_call
    have hOver : ∀ t ∈ s.history.openedAt,
        t + config.recoveryTimeout ≤ now := by
      intro t hT
      by_contra hLate
      have hEarly := (hWindow t hT (not_le.mp hLate)).2
      exact absurd hElapsed (not_le.mpr hEarly)
    have hOpened :
        (stepStart config s breaker call now).history.openedAt =
          s.history.openedAt := by
      rw [hHistory]
      rfl
    refine ⟨?_, ?_, fun _ => hOne, ?_⟩
    · apply hInv.later (hNow.symm ▸ hClock) hOpened _
        (fun _ => hOne)
      intro t hT hEarly _
      rw [hNow] at hEarly
      exact absurd (hOver t hT) (not_le.mpr hEarly)
    · rintro _ _ _ ⟨⟩ -
      exact hOver
    · intro _ hClosed
      rw [hCircuit] at hClosed
      cases hClosed

variable {flight : Flight ι}

/- A call succeeds. -/
theorem stepSuccess_inv
    {call : κ}
    (hInv : Inv config s)
    (hOrderly : Orderly config s (.success call now))
    (hClock : s.clock ≤ now)
    (hFlight : s.flights call = some flight) :
    Inv config (stepSuccess config s call flight now) ∧
      StepSafe config s (.success call now)
        (stepSuccess config s call flight now) := by
  have hKept :
      s.circuit config = .halfOpen →
        s.circuitAt config now = .halfOpen :=
    hOrderly.kept
  have hOpened :
      (stepSuccess config s call flight now).history.openedAt =
        s.history.openedAt := by
    change (s.history.onSuccess _ _).openedAt = _
    unfold History.onSuccess
    split <;> rfl
  have hCount :
      (stepSuccess config s call flight now).history.admitted =
        s.history.admitted := by
    change (s.history.onSuccess _ _).admitted = _
    unfold History.onSuccess
    split <;> rfl
  rcases recordSuccess_cases config now
      (s.breakers flight.breaker) s.store with
    ⟨hHalf, hMax, hStore⟩ | ⟨hState, hFailure⟩
  · have hCircuit :
        (stepSuccess config s call flight now).circuit config =
          .closed := by
      change (recordSuccess config now
        (s.breakers flight.breaker) s.store).2.getState
          config.backend now = _
      rw [hStore]
      exact @getState_setState _ s.store now .closed
    have hAdmitted :
        (stepSuccess config s call flight now).circuit config =
            .halfOpen →
          ((stepSuccess config s call flight
            now).history.admitted : Int) ≤
            config.halfOpenMaxCalls := by
      intro hNot
      rw [hCircuit] at hNot
      cases hNot
    refine ⟨?_, nofun, hAdmitted, ?_⟩
    · apply hInv.later hClock hOpened _ hAdmitted
      intro t hT hEarly _
      have hFound := (hInv.recovery hOrderly.lasting hClock hT
        hEarly).1
      rw [State.circuitAt, hHalf] at hFound
      cases hFound
    · intro _ _
      rcases hOrderly.calls hHalf flight hFlight with
        ⟨hPeriod, hLe⟩
      have hMore :
          (stepSuccess config s call flight
            now).history.succeeded = s.history.succeeded + 1 := by
        change (s.history.onSuccess _ _).succeeded = _
        rw [History.onSuccess, if_pos ⟨hHalf, hPeriod⟩]
      rw [hMore]
      push_cast
      omega
  · have hCircuit :
        (stepSuccess config s call flight now).circuit config =
          s.circuitAt config now :=
      getState_eq hState
    have hAdmitted :
        (stepSuccess config s call flight now).circuit config =
            .halfOpen →
          ((stepSuccess config s call flight
            now).history.admitted : Int) ≤
            config.halfOpenMaxCalls := by
      rw [hCircuit, hCount]
      intro hHalf
      exact hInv.admitted (halfOpen_of_le hClock hHalf)
    refine ⟨?_, nofun, hAdmitted, ?_⟩
    · apply hInv.later hClock hOpened _ hAdmitted
      rintro t - - ⟨hShut, hLast⟩
      exact ⟨hState.symm ▸ hShut, hFailure.symm ▸ hLast⟩
    · intro hHalf hClosed
      rw [hCircuit, hKept hHalf] at hClosed
      cases hClosed

/- A call fails. -/
theorem stepFailure_inv
    {call : κ}
    (hInv : Inv config s)
    (hOrderly : Orderly config s (.failure call now))
    (hClock : s.clock ≤ now) :
    Inv config (stepFailure config s call flight now) ∧
      StepSafe config s (.failure call now)
        (stepFailure config s call flight now) := by
  have hKept :
      s.circuit config = .halfOpen →
        s.circuitAt config now = .halfOpen :=
    hOrderly.kept
  rcases recordFailure_cases config now
      (s.breakers flight.breaker) s.store with
    ⟨hFailure, hState⟩
  have hLast : ∀ t, t ≤ now → ∃ v w,
      (stepFailure config s call flight now).store.lastFailure =
        some ⟨v, w⟩ ∧ t ≤ v ∧ t ≤ w :=
    fun t hLe => ⟨now, now, hFailure, hLe, hLe⟩
  have hPast : ∀ t ∈ s.history.openedAt, t ≤ now :=
    fun t hT => (hInv.past t hT).trans hClock
  -- Either the failure opens the circuit, or it was not half
  -- open and stays as it was.
  rcases hState with hOpens | ⟨hState, hNotHalf⟩
  · have hCircuit :
        (stepFailure config s call flight now).circuit config =
          .opened := by
      change (recordFailure config now
        (s.breakers flight.breaker) s.store).2.getState
          config.backend now = _
      have hOpened :
          (s.store.setState now .opened).getState config.backend
            now = .opened :=
        getState_setState .opened
      rw [← hOpened]
      exact getState_eq hOpens
    have hShut : ∀ t, t ≤ now →
        Shut (stepFailure config s call flight now).store t :=
      fun t hLe => ⟨⟨now, hOpens, hLe⟩, hLast t hLe⟩
    have hOpenedAt : ∀ t ∈
        (stepFailure config s call flight now).history.openedAt,
        t ≤ now := by
      intro t hT
      change t ∈ (s.history.onFailure now _ _).openedAt at hT
      unfold History.onFailure at hT
      split at hT
      · cases hT
        exact le_refl now
      · exact hPast t hT
    refine ⟨⟨hOpenedAt, ?_, ?_⟩, nofun, ?_, ?_⟩
    · intro t hT _
      exact hShut t (hOpenedAt t hT)
    · intro hHalf
      rw [hCircuit] at hHalf
      cases hHalf
    · intro hHalf
      rw [hCircuit] at hHalf
      cases hHalf
    · intro _ hClosed
      rw [hCircuit] at hClosed
      cases hClosed
  · have hCircuit :
        (stepFailure config s call flight now).circuit config =
          s.circuitAt config now :=
      getState_eq hState
    have hAdmitted :
        (stepFailure config s call flight now).circuit config =
            .halfOpen →
          ((stepFailure config s call flight
            now).history.admitted : Int) ≤
            config.halfOpenMaxCalls := by
      rw [hCircuit]
      intro hHalf
      exact absurd hHalf hNotHalf
    have hOpened :
        (stepFailure config s call flight now).history.openedAt =
          s.history.openedAt := by
      change (s.history.onFailure now _
        ((stepFailure config s call flight now).circuit
          config)).openedAt = _
      rw [hCircuit, History.onFailure, if_neg]
      rintro ⟨hNot, hSame⟩
      exact hNot hSame
    refine ⟨?_, nofun, hAdmitted, ?_⟩
    · apply hInv.later hClock hOpened _ hAdmitted
      rintro t hT - ⟨hShut, -⟩
      exact ⟨hState.symm ▸ hShut, hLast t (hPast t hT)⟩
    · intro hHalf _
      exact absurd (hKept hHalf) hNotHalf

/- A step under the condition is safe and keeps the invariant. -/
theorem step_inv
    {a : Action ι κ}
    (hInv : Inv config s)
    (hOrderly : Orderly config s a)
    (hStep : step config s a = some next) :
    Inv config next ∧ StepSafe config s a next := by
  unfold step at hStep
  split at hStep
  · rename_i hClock
    cases a with
    | start breaker call now =>
      dsimp only at hStep
      split at hStep
      · rename_i hNew
        cases hStep
        exact stepStart_inv hInv hOrderly hClock hNew
      · cases hStep
    | success call now =>
      rcases Option.map_eq_some_iff.mp hStep with
        ⟨flight, hFlight, rfl⟩
      exact stepSuccess_inv hInv hOrderly hClock hFlight
    | failure call now =>
      rcases Option.map_eq_some_iff.mp hStep with
        ⟨flight, -, rfl⟩
      exact stepFailure_inv hInv hOrderly hClock
  · cases hStep

end

--------
-- Runs
--------

variable {ι κ : Type} [DecidableEq ι] [DecidableEq κ]

/-
  In a run whose steps all meet the condition, every step is
  safe.
-/
theorem safe_of_orderly
    (config : Config)
    (clock : Rat)
    (actions : List (Action ι κ))
    (hMeets :
      Machine.Meets (step config) (Orderly config)
        (State.start clock) actions) :
    Machine.Meets (step config) (Safe config)
      (State.start clock) actions := by
  have hKept :
      ∀ (s : State ι κ) a next, Inv config s →
        Orderly config s a → step config s a = some next →
          Inv config next := by
    intro s a next hInv hOrderly hStep
    exact (step_inv hInv hOrderly hStep).1
  have hHere :
      ∀ (s : State ι κ) a, Inv config s →
        Orderly config s a → Safe config s a := by
    intro s a hInv hOrderly next hStep
    exact (step_inv hInv hOrderly hStep).2
  exact Machine.Meets.of_invariant hKept hHere
    (inv_start config clock) hMeets

/- A breaker that one failure opens, and one success closes. -/
def oneCall : Config :=
  ⟨.memory, 1, 30, 1⟩

/- A call fails, and the one after the recovery time succeeds. -/
def recovers : List (Action Unit Nat) :=
  [.start () 0 0, .failure 0 1, .start () 1 31, .success 1 32]

/- A run in which one call tries the circuit and closes it. -/
theorem safe_recovers :
    Machine.Meets (step oneCall) (Safe oneCall)
      (State.start 0) recovers :=
  safe_of_orderly oneCall 0 recovers (by decide +kernel)

/- One call is admitted in the half-open period. -/
def oneTried : List (Action Unit Nat) :=
  [.start () 0 0, .failure 0 1, .start () 1 31]

/- The same, with a call from before the failure in flight. -/
def oneSlow : List (Action Unit Nat) :=
  [.start () 0 0, .start () 1 0, .failure 0 1, .start () 2 31]

/-
  The breaker does not count the calls that it admits, and it
  counts every success that it hears of.
-/
theorem not_safe :
    ¬ Machine.Meets (step oneCall) (Safe oneCall)
        (State.start 0) (oneTried ++ [.start () 2 31]) ∧
      ¬ Machine.Meets (step oneCall) (Safe oneCall)
        (State.start 0) (oneSlow ++ [.success 1 32]) := by
  have hCrowded :
      ((Machine.run (step oneCall) (State.start 0)
          (oneTried ++ [.start () 2 31])).map (fun s =>
        (s.circuit oneCall, s.history.admitted))) =
        some (.halfOpen, 2) := by
    decide +kernel
  have hHalf :
      ((Machine.run (step oneCall) (State.start 0)
          oneSlow).map (State.circuit oneCall)) =
        some .halfOpen := by
    decide +kernel
  have hClosed :
      ((Machine.run (step oneCall) (State.start 0)
          (oneSlow ++ [.success 1 32])).map (fun s =>
        (s.circuit oneCall, s.history.succeeded))) =
        some (.closed, 0) := by
    decide +kernel
  constructor
  · intro hMeets
    rcases Option.map_eq_some_iff.mp hCrowded with
      ⟨final, hRun, hFinal⟩
    rcases Machine.run_concat_eq_some.mp hRun with
      ⟨mid, hMid, hStep⟩
    rcases Prod.mk.inj hFinal with ⟨hCircuit, hAdmitted⟩
    have hFew := (hMeets.last hMid final hStep).admitted hCircuit
    rw [hAdmitted] at hFew
    exact absurd hFew (by decide)
  · intro hMeets
    rcases Option.map_eq_some_iff.mp hClosed with
      ⟨final, hRun, hFinal⟩
    rcases Machine.run_concat_eq_some.mp hRun with
      ⟨mid, hMid, hStep⟩
    rcases Prod.mk.inj hFinal with ⟨hCircuit, hSucceeded⟩
    rw [hMid, Option.map_some, Option.some.injEq] at hHalf
    have hMany :=
      (hMeets.last hMid final hStep).recovered hHalf hCircuit
    rw [hSucceeded] at hMany
    exact absurd hMany (by decide)

end CircuitBreaker

end RegEngine
