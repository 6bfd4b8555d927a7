import Mathlib.Algebra.Order.Ring.Rat
import Mathlib.Logic.Function.Basic
import RegEngine.Library.Machine

/-
  The circuit breaker (`shared/circuit_breaker.py`) and its
  stores (`shared/circuit_breaker_store.py`): several breakers
  of one name share a store and a clock, and the calls that
  they protect start and end in any order.

  Times are in seconds.  Logging is left out, and so are the
  manual reset and exceptions that are not counted: a call that
  raises one never reports.

  Main declarations:
    * `CircuitBreaker.Store`
    * `CircuitBreaker.Breaker`
    * `CircuitBreaker.recordFailure`
    * `CircuitBreaker.step`
-/

--------
-- The Store
--------

namespace RegEngine

namespace CircuitBreaker

/- `CircuitState`. -/
inductive CircuitState where
  | closed
  | opened
  | halfOpen
  deriving DecidableEq

/- `CIRCUIT_BREAKER_BACKEND`. -/
inductive Backend where
  | memory
  | redis
  deriving DecidableEq

/- `_KEY_TTL`, where keys expire. -/
def Backend.keyTtl : Backend → Option Rat
| .memory => none
| .redis => some 3600

/- A key of the store: its value, and when it was set. -/
structure Key (α : Type) where
  value : α
  setAt : Rat
  deriving DecidableEq

def Key.Alive
    {α : Type}
    (backend : Backend)
    (now : Rat)
    (key : Key α) : Prop :=
  ∀ ttl ∈ backend.keyTtl, now < key.setAt + ttl

instance
    {α : Type}
    (backend : Backend)
    (now : Rat)
    (key : Key α) :
    Decidable (key.Alive backend now) := by
  unfold Key.Alive
  infer_instance

/- The keys of one circuit. -/
structure Store where
  state : Option (Key CircuitState)
  failures : Option (Key Nat)
  lastFailure : Option (Key Rat)
  deriving DecidableEq

namespace Store

def empty : Store :=
  ⟨none, none, none⟩

/- The value of a key, unless there is none. -/
def read
    {α : Type}
    (backend : Backend)
    (now : Rat)
    (default : α)
    (key : Option (Key α)) : α :=
  match key with
  | some key => if key.Alive backend now then key.value else default
  | none => default

def getState (backend : Backend) (now : Rat) (store : Store) :
    CircuitState :=
  read backend now .closed store.state

def setState (now : Rat) (value : CircuitState) (store : Store) :
    Store :=
  { store with state := some ⟨value, now⟩ }

def getFailureCount
    (backend : Backend)
    (now : Rat)
    (store : Store) : Nat :=
  read backend now 0 store.failures

def incrFailure (backend : Backend) (now : Rat) (store : Store) :
    Store :=
  { store with
    failures :=
      some ⟨store.getFailureCount backend now + 1, now⟩ }

def resetFailures (store : Store) : Store :=
  { store with failures := none }

def getLastFailureTime
    (backend : Backend)
    (now : Rat)
    (store : Store) : Rat :=
  read backend now 0 store.lastFailure

def setLastFailureTime (now t : Rat) (store : Store) : Store :=
  { store with lastFailure := some ⟨t, now⟩ }

end Store

--------
-- The Breaker
--------

/- The parameters that breakers of one name share. -/
structure Config where
  backend : Backend
  failureThreshold : Int
  recoveryTimeout : Rat
  halfOpenMaxCalls : Int

/- The local counters of a breaker. -/
structure Breaker where
  halfOpenCalls : Int
  successCount : Nat
  totalCalls : Nat
  deriving DecidableEq

def Breaker.new : Breaker :=
  ⟨0, 0, 0⟩

/- `_transition_to`. -/
def transitionTo
    (now : Rat)
    (newState : CircuitState)
    (breaker : Breaker)
    (store : Store) : Breaker × Store :=
  match newState with
  | .halfOpen =>
      ({ breaker with halfOpenCalls := 0 },
        store.setState now .halfOpen)
  | .closed =>
      (breaker, (store.setState now .closed).resetFailures)
  | .opened => (breaker, store.setState now .opened)

/- `state`, with the transition it may make. -/
def readState
    (config : Config)
    (now : Rat)
    (breaker : Breaker)
    (store : Store) : CircuitState × Breaker × Store :=
  match store.getState config.backend now with
  | .opened =>
      if config.recoveryTimeout ≤
          now - store.getLastFailureTime config.backend now then
        (.halfOpen, transitionTo now .halfOpen breaker store)
      else (.opened, breaker, store)
  | state => (state, breaker, store)

/-
  `_total_calls += 1` and `_check_state`: whether the call is
  admitted, or refused with a `CircuitOpenError`.
-/
def checkState
    (config : Config)
    (now : Rat)
    (breaker : Breaker)
    (store : Store) : Bool × Breaker × Store :=
  let counted :=
    { breaker with totalCalls := breaker.totalCalls + 1 }
  let result := readState config now counted store
  (result.1 != .opened, result.2)

/- `_record_success`. -/
def recordSuccess
    (config : Config)
    (now : Rat)
    (breaker : Breaker)
    (store : Store) : Breaker × Store :=
  let counted :=
    { breaker with successCount := breaker.successCount + 1 }
  match store.getState config.backend now with
  | .halfOpen =>
      let tried :=
        { counted with halfOpenCalls := counted.halfOpenCalls + 1 }
      if config.halfOpenMaxCalls ≤ tried.halfOpenCalls then
        transitionTo now .closed tried store
      else (tried, store)
  | .closed => (counted, store.resetFailures)
  | .opened => (counted, store)

/- `_record_failure`. -/
def recordFailure
    (config : Config)
    (now : Rat)
    (breaker : Breaker)
    (store : Store) : Breaker × Store :=
  let failed :=
    (store.incrFailure config.backend now).setLastFailureTime now
      now
  let count := failed.getFailureCount config.backend now
  if failed.getState config.backend now = .halfOpen then
    transitionTo now .opened breaker failed
  else if config.failureThreshold ≤ count then
    transitionTo now .opened breaker failed
  else (breaker, failed)

--------
-- The Steps
--------

/-
  A call that was admitted and has not reported: its breaker,
  and the half-open period that it was admitted in, if any.
-/
structure Flight (ι : Type) where
  breaker : ι
  period : Option Nat
  deriving DecidableEq

/-
  What no breaker keeps: the half-open periods so far, the
  calls admitted in the last one, how many of these have
  succeeded, and when a failure last opened the circuit.
-/
structure History where
  period : Nat
  admitted : Nat
  succeeded : Nat
  openedAt : Option Rat
  deriving DecidableEq

/- Breakers `ι` that protect calls `κ`. -/
structure State (ι κ : Type) where
  clock : Rat
  store : Store
  breakers : ι → Breaker
  flights : κ → Option (Flight ι)
  history : History

/- Nothing was called yet. -/
def State.start {ι κ : Type} (clock : Rat) : State ι κ where
  clock := clock
  store := Store.empty
  breakers := fun _ => Breaker.new
  flights := fun _ => none
  history := ⟨0, 0, 0, none⟩

/- A call starts on a breaker, or reports to it. -/
inductive Action (ι κ : Type) where
  | start (breaker : ι) (call : κ) (now : Rat)
  | success (call : κ) (now : Rat)
  | failure (call : κ) (now : Rat)

def Action.now {ι κ : Type} : Action ι κ → Rat
| .start _ _ now => now
| .success _ now => now
| .failure _ now => now

namespace History

def onAdmitted
    (history : History)
    (before after : CircuitState) : History :=
  if after = .halfOpen then
    if before = .halfOpen then
      { history with admitted := history.admitted + 1 }
    else
      { history with
        period := history.period + 1
        admitted := 1
        succeeded := 0 }
  else history

/- A call of some period succeeded. -/
def onSuccess
    (history : History)
    (before : CircuitState)
    (period : Option Nat) : History :=
  if before = .halfOpen ∧ period = some history.period then
    { history with succeeded := history.succeeded + 1 }
  else history

/- A call failed. -/
def onFailure
    (history : History)
    (now : Rat)
    (before after : CircuitState) : History :=
  if before ≠ .opened ∧ after = .opened then
    { history with openedAt := some now }
  else history

end History

variable {ι κ : Type} [DecidableEq ι] [DecidableEq κ]

/- A breaker and the store after a step of the breaker. -/
def State.put
    (s : State ι κ)
    (now : Rat)
    (breaker : ι)
    (result : Breaker × Store) : State ι κ :=
  { s with
    clock := now
    breakers := Function.update s.breakers breaker result.1
    store := result.2 }

/- The circuit, as the breakers would read it. -/
def State.circuit (config : Config) (s : State ι κ) :
    CircuitState :=
  s.store.getState config.backend s.clock

/- The circuit as a step finds it. -/
def State.circuitAt
    (config : Config)
    (s : State ι κ)
    (now : Rat) : CircuitState :=
  s.store.getState config.backend now

def stepStart
    (config : Config)
    (s : State ι κ)
    (breaker : ι)
    (call : κ)
    (now : Rat) : State ι κ :=
  let result := checkState config now (s.breakers breaker) s.store
  let next := s.put now breaker result.2
  if result.1 then
    let history :=
      s.history.onAdmitted (s.circuitAt config now)
        (next.circuit config)
    { next with
      history := history
      flights := Function.update s.flights call (some
        { breaker := breaker
          period :=
            if next.circuit config = .halfOpen then
              some history.period
            else none }) }
  else next

/- A call in flight reports. -/
def stepSuccess
    (config : Config)
    (s : State ι κ)
    (call : κ)
    (flight : Flight ι)
    (now : Rat) : State ι κ :=
  let next := s.put now flight.breaker
    (recordSuccess config now (s.breakers flight.breaker) s.store)
  { next with
    flights := Function.update s.flights call none
    history :=
      s.history.onSuccess (s.circuitAt config now) flight.period }

def stepFailure
    (config : Config)
    (s : State ι κ)
    (call : κ)
    (flight : Flight ι)
    (now : Rat) : State ι κ :=
  let next := s.put now flight.breaker
    (recordFailure config now (s.breakers flight.breaker) s.store)
  { next with
    flights := Function.update s.flights call none
    history :=
      s.history.onFailure now (s.circuitAt config now)
        (next.circuit config) }

/-
  A step; the clock never goes back, a call starts once and
  reports once.
-/
def step
    (config : Config)
    (s : State ι κ)
    (a : Action ι κ) : Option (State ι κ) :=
  if s.clock ≤ a.now then
    match a with
    | .start breaker call now =>
        match s.flights call with
        | none => some (stepStart config s breaker call now)
        | some _ => none
    | .success call now =>
        (s.flights call).map (fun flight =>
          stepSuccess config s call flight now)
    | .failure call now =>
        (s.flights call).map (fun flight =>
          stepFailure config s call flight now)
  else none

end CircuitBreaker

end RegEngine
