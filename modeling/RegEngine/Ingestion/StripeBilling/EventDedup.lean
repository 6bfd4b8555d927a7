import Mathlib.Logic.Function.Basic
import RegEngine.Library.Machine

/-
  The deliveries of one Stripe event
  (`stripe_billing/webhooks.py`, `_process_stripe_webhook`, and
  the dedup claim of `stripe_billing/state.py`): each one claims
  the event, runs the handler, and releases the claim when the
  handler raises.

  Main declarations:
    * `StripeBilling.Deliveries`
    * `StripeBilling.sound_of_unobserved`
    * `StripeBilling.not_sound`
-/

--------
-- Deliveries
--------

namespace RegEngine

namespace StripeBilling

section

/- `_EVENT_DEDUP_TTL_SECONDS`. -/
def eventDedupTtlSeconds : Nat :=
  24 * 60 * 60

/-
  The dedup key of the event. Redis holds a constant; whose
  `SET` it was is recorded, and no step asks for it.
-/
structure EventClaim (ω : Type) where
  owner : ω
  expiresAt : Nat
  deriving DecidableEq

/- What has become of a delivery. -/
inductive Phase (ω : Type) where
  | waiting
  | refused
  | duplicate (owner : ω)
  | running (claimedAt : Nat)
  | failing (claimedAt : Nat)
  | failed
  | died
  | processed (claimedAt : Nat)
  deriving DecidableEq

/- The clock in seconds, the dedup key, the deliveries. -/
structure Deliveries (ω : Type) where
  clock : Nat
  claim : Option (EventClaim ω)
  phase : ω → Phase ω

/-
  What happens: a delivery is turned away before the dedup
  gate (signature, rate limit) or comes to it; its handler
  completes, raises, or dies with its process; a claim is
  released after the handler has raised.
-/
inductive DeliveryAction (ω : Type) where
  | pass (seconds : Nat)
  | refuse (delivery : ω)
  | arrive (delivery : ω)
  | complete (delivery : ω)
  | fail (delivery : ω)
  | release (delivery : ω)
  | die (delivery : ω)
  deriving DecidableEq

variable {ω : Type}

/- The dedup key, unless it has expired. -/
def Deliveries.liveClaim (s : Deliveries ω) :
    Option (EventClaim ω) :=
  s.claim.filter (fun claim => s.clock < claim.expiresAt)

variable [DecidableEq ω]

/- A delivery comes to another phase. -/
def Deliveries.move
    (s : Deliveries ω)
    (delivery : ω)
    (phase : Phase ω) : Deliveries ω :=
  { s with phase := Function.update s.phase delivery phase }

/-
  `_mark_event_seen`: `SET NX EX`, or nothing at all for an
  event without an id.
-/
def Deliveries.markEventSeen
    (s : Deliveries ω)
    (eventId : String)
    (delivery : ω) : Deliveries ω :=
  if eventId = "" then
    s.move delivery (.running s.clock)
  else
    match s.liveClaim with
    | some claim => s.move delivery (.duplicate claim.owner)
    | none =>
        { s.move delivery (.running s.clock) with
          claim := some
            ⟨delivery, s.clock + eventDedupTtlSeconds⟩ }

/- `_release_event_claim`: it deletes whatever is there. -/
def Deliveries.releaseEventClaim
    (s : Deliveries ω)
    (eventId : String)
    (delivery : ω) : Deliveries ω :=
  if eventId = "" then
    s.move delivery .failed
  else
    { s.move delivery .failed with claim := none }

def Deliveries.step
    (eventId : String)
    (s : Deliveries ω) : DeliveryAction ω → Deliveries ω
| .pass seconds => { s with clock := s.clock + seconds }
| .refuse delivery =>
    match s.phase delivery with
    | .waiting => s.move delivery .refused
    | _ => s
| .arrive delivery =>
    match s.phase delivery with
    | .waiting => s.markEventSeen eventId delivery
    | _ => s
| .complete delivery =>
    match s.phase delivery with
    | .running claimedAt =>
        s.move delivery (.processed claimedAt)
    | _ => s
| .fail delivery =>
    match s.phase delivery with
    | .running claimedAt => s.move delivery (.failing claimedAt)
    | _ => s
| .release delivery =>
    match s.phase delivery with
    | .failing _ => s.releaseEventClaim eventId delivery
    | _ => s
| .die delivery =>
    match s.phase delivery with
    | .running _ => s.move delivery .died
    | .failing _ => s.move delivery .died
    | _ => s

def Deliveries.run
    (eventId : String)
    (s : Deliveries ω)
    (actions : List (DeliveryAction ω)) : Deliveries ω :=
  actions.foldl (Deliveries.step eventId) s

/- No delivery has come yet. -/
def Deliveries.start : Deliveries ω where
  clock := 0
  claim := none
  phase := fun _ => .waiting

end

--------
-- What The Answers Say
--------

section

variable {ω : Type}

/- The delivery is not under way. -/
def Phase.isFinished : Phase ω → Bool
| .running _ => false
| .failing _ => false
| _ => true

/- The delivery was answered with success. -/
def Phase.isAcknowledged : Phase ω → Bool
| .duplicate _ => true
| .processed _ => true
| _ => false

/-
  When all deliveries have finished, an event that was
  acknowledged was processed; and it was processed once in a
  dedup period.
-/
structure Deliveries.Sound (s : Deliveries ω) : Prop where
  processed :
    (∀ delivery, (s.phase delivery).isFinished = true) →
      (∃ delivery, (s.phase delivery).isAcknowledged = true) →
        ∃ delivery claimedAt,
          s.phase delivery = .processed claimedAt
  once :
    ∀ first second claimedAt claimedAt',
      s.phase first = .processed claimedAt →
        s.phase second = .processed claimedAt' →
          first ≠ second →
            claimedAt + eventDedupTtlSeconds ≤ claimedAt' ∨
              claimedAt' + eventDedupTtlSeconds ≤ claimedAt

/-
  No delivery is answered as the duplicate of a handler run
  that has failed or then fails, and a run that failed does
  not find the claim of another one when it lets go of its
  own.
-/
def Deliveries.Unobserved (s : Deliveries ω) :
    DeliveryAction ω → Prop
| .arrive delivery =>
    s.phase delivery = .waiting →
      ∀ claim ∈ s.liveClaim, ∃ claimedAt,
        s.phase claim.owner = .running claimedAt ∨
          s.phase claim.owner = .processed claimedAt
| .fail delivery =>
    ∀ other, s.phase other ≠ .duplicate delivery
| .die delivery =>
    ∀ other, s.phase other ≠ .duplicate delivery
| .release delivery =>
    (∃ claimedAt, s.phase delivery = .failing claimedAt) →
      ∀ claim ∈ s.liveClaim, claim.owner = delivery
| _ => True

/- The time of the claim of a handler that may still count. -/
def Phase.claimedAt? : Phase ω → Option Nat
| .running claimedAt => some claimedAt
| .failing claimedAt => some claimedAt
| .processed claimedAt => some claimedAt
| _ => none

/-
  The dedup key is that of the one delivery whose claim has
  not expired, claims lie a dedup period apart, and duplicates
  are those of a run that has not failed.
-/
structure Deliveries.Inv (s : Deliveries ω) : Prop where
  past :
    ∀ delivery claimedAt,
      (s.phase delivery).claimedAt? = some claimedAt →
        claimedAt ≤ s.clock
  held :
    ∀ delivery claimedAt,
      (s.phase delivery).claimedAt? = some claimedAt →
        s.clock < claimedAt + eventDedupTtlSeconds →
          s.claim =
            some ⟨delivery, claimedAt + eventDedupTtlSeconds⟩
  apart :
    ∀ first second claimedAt claimedAt',
      (s.phase first).claimedAt? = some claimedAt →
        (s.phase second).claimedAt? = some claimedAt' →
          first ≠ second →
            claimedAt + eventDedupTtlSeconds ≤ claimedAt' ∨
              claimedAt' + eventDedupTtlSeconds ≤ claimedAt
  observed :
    ∀ delivery owner, s.phase delivery = .duplicate owner →
      ∃ claimedAt, s.phase owner = .running claimedAt ∨
        s.phase owner = .processed claimedAt

/- The invariant says what the answers promise. -/
theorem Deliveries.Inv.sound
    {s : Deliveries ω}
    (hInv : s.Inv) :
    s.Sound := by
  constructor
  · rintro hFinished ⟨delivery, hAcknowledged⟩
    cases hPhase : s.phase delivery with
    | duplicate owner =>
      rcases hInv.observed delivery owner hPhase with
        ⟨claimedAt, hRunning | hProcessed⟩
      · have hOwner := hFinished owner
        rw [hRunning] at hOwner
        cases hOwner
      · exact ⟨owner, claimedAt, hProcessed⟩
    | processed claimedAt => exact ⟨delivery, claimedAt, hPhase⟩
    | waiting =>
      rw [hPhase] at hAcknowledged
      cases hAcknowledged
    | refused =>
      rw [hPhase] at hAcknowledged
      cases hAcknowledged
    | running claimedAt =>
      rw [hPhase] at hAcknowledged
      cases hAcknowledged
    | failing claimedAt =>
      rw [hPhase] at hAcknowledged
      cases hAcknowledged
    | failed =>
      rw [hPhase] at hAcknowledged
      cases hAcknowledged
    | died =>
      rw [hPhase] at hAcknowledged
      cases hAcknowledged
  · intro first second claimedAt claimedAt' hFirst hSecond
    apply hInv.apart first second
    · rw [hFirst]
      rfl
    · rw [hSecond]
      rfl

end

--------
-- What A Step Keeps
--------

section

variable {ω : Type} [DecidableEq ω]

/- The phases after one delivery has come to another one. -/
theorem Deliveries.phase_move
    (s : Deliveries ω)
    (delivery other : ω)
    (phase : Phase ω) :
    (s.move delivery phase).phase other =
      if other = delivery then phase else s.phase other :=
  Function.update_apply _ _ _ _

variable {delivery : ω} {s : Deliveries ω}

/- A claim of a counting handler that is live is the key. -/
omit [DecidableEq ω] in
theorem Deliveries.Inv.liveClaim_eq
    (hInv : s.Inv)
    {claimedAt : Nat}
    (hPhase : (s.phase delivery).claimedAt? = some claimedAt)
    (hLive : s.clock < claimedAt + eventDedupTtlSeconds) :
    s.liveClaim =
      some ⟨delivery, claimedAt + eventDedupTtlSeconds⟩ := by
  rw [Deliveries.liveClaim, hInv.held delivery claimedAt hPhase
    hLive]
  simpa using hLive

/- A delivery that has no duplicates, or may have them. -/
theorem Deliveries.Inv.move
    (hInv : s.Inv)
    {phase : Phase ω}
    (hClaimed : ∀ claimedAt,
      phase.claimedAt? = some claimedAt →
        (s.phase delivery).claimedAt? = some claimedAt)
    (hObserved : ∀ other,
      s.phase other = .duplicate delivery →
        ∃ claimedAt, phase = .running claimedAt ∨
          phase = .processed claimedAt)
    (hOwner : ∀ owner, phase = .duplicate owner →
      owner ≠ delivery ∧ ∃ claimedAt,
        s.phase owner = .running claimedAt ∨
          s.phase owner = .processed claimedAt) :
    (s.move delivery phase).Inv := by
  have hBefore : ∀ other claimedAt,
      ((s.move delivery phase).phase other).claimedAt? =
          some claimedAt →
        (s.phase other).claimedAt? = some claimedAt := by
    intro other claimedAt hOther
    rw [Deliveries.phase_move] at hOther
    by_cases hSame : other = delivery
    · rw [if_pos hSame] at hOther
      rw [hSame]
      exact hClaimed claimedAt hOther
    · rw [if_neg hSame] at hOther
      exact hOther
  refine ⟨?_, ?_, ?_, ?_⟩
  · intro other claimedAt hOther
    exact hInv.past other claimedAt (hBefore _ _ hOther)
  · intro other claimedAt hOther
    exact hInv.held other claimedAt (hBefore _ _ hOther)
  · intro first second claimedAt claimedAt' hFirst hSecond
    exact hInv.apart first second claimedAt claimedAt'
      (hBefore _ _ hFirst) (hBefore _ _ hSecond)
  · intro other owner hOther
    simp only [Deliveries.phase_move] at hOther ⊢
    by_cases hSame : other = delivery
    · rw [if_pos hSame] at hOther
      rcases hOwner owner hOther with ⟨hNe, hOwned⟩
      rw [if_neg hNe]
      exact hOwned
    · rw [if_neg hSame] at hOther
      by_cases hIts : owner = delivery
      · rw [hIts] at hOther
        rw [if_pos hIts]
        exact hObserved other hOther
      · rw [if_neg hIts]
        exact hInv.observed other owner hOther

/- The first delivery to come takes the key. -/
theorem Deliveries.Inv.claim
    (hInv : s.Inv)
    (hWaiting : s.phase delivery = .waiting)
    (hFree : s.liveClaim = none) :
    Deliveries.Inv
      { s.move delivery (.running s.clock) with
        claim := some
          ⟨delivery, s.clock + eventDedupTtlSeconds⟩ } := by
  have hOver : ∀ other claimedAt,
      (s.phase other).claimedAt? = some claimedAt →
        claimedAt + eventDedupTtlSeconds ≤ s.clock := by
    intro other claimedAt hOther
    apply Nat.le_of_not_lt
    intro hLive
    rw [hInv.liveClaim_eq hOther hLive] at hFree
    cases hFree
  refine ⟨?_, ?_, ?_, ?_⟩
  · intro other claimedAt hOther
    simp only [Deliveries.phase_move] at hOther
    split at hOther
    · exact Nat.le_of_eq (Option.some.inj hOther).symm
    · exact hInv.past other claimedAt hOther
  · intro other claimedAt hOther hLive
    simp only [Deliveries.phase_move] at hOther
    split at hOther
    · rename_i hSame
      rw [hSame, ← Option.some.inj hOther]
    · have hPast := hOver other claimedAt hOther
      change s.clock < _ at hLive
      omega
  · intro first second claimedAt claimedAt' hFirst hSecond hNe
    simp only [Deliveries.phase_move] at hFirst hSecond
    split at hFirst
    · rename_i hOne
      split at hSecond
      · rename_i hTwo
        exact absurd (hOne.trans hTwo.symm) hNe
      · right
        rw [← Option.some.inj hFirst]
        exact hOver second claimedAt' hSecond
    · split at hSecond
      · left
        rw [← Option.some.inj hSecond]
        exact hOver first claimedAt hFirst
      · exact hInv.apart first second claimedAt claimedAt'
          hFirst hSecond hNe
  · intro other owner hOther
    simp only [Deliveries.phase_move] at hOther ⊢
    split at hOther
    · cases hOther
    · rcases hInv.observed other owner hOther with
        ⟨claimedAt, hOwned⟩
      have hNe : owner ≠ delivery := by
        intro hSame
        rw [hSame, hWaiting] at hOwned
        rcases hOwned with hOwned | hOwned
        · cases hOwned
        · cases hOwned
      rw [if_neg hNe]
      exact ⟨claimedAt, hOwned⟩

/- Every step that is not observed keeps the invariant. -/
theorem Deliveries.Inv.step
    {eventId : String}
    (hId : eventId ≠ "")
    (hInv : s.Inv)
    {a : DeliveryAction ω}
    (hUnobserved : s.Unobserved a) :
    (s.step eventId a).Inv := by
  have hNoDuplicates : ∀ {delivery : ω},
      (∀ claimedAt, s.phase delivery ≠ .running claimedAt ∧
        s.phase delivery ≠ .processed claimedAt) →
      ∀ other, s.phase other ≠ .duplicate delivery := by
    intro delivery hNot other hOther
    rcases hInv.observed other delivery hOther with
      ⟨claimedAt, hRunning | hProcessed⟩
    · exact (hNot claimedAt).1 hRunning
    · exact (hNot claimedAt).2 hProcessed
  cases a with
  | pass seconds =>
    refine ⟨?_, ?_, hInv.apart, hInv.observed⟩
    · intro delivery claimedAt hPhase
      exact Nat.le_add_right_of_le
        (hInv.past delivery claimedAt hPhase)
    · intro delivery claimedAt hPhase hLive
      exact hInv.held delivery claimedAt hPhase
        (Nat.lt_of_le_of_lt (Nat.le_add_right _ _) hLive)
  | refuse delivery =>
    simp only [Deliveries.step]
    split
    · rename_i hWaiting
      refine hInv.move ?_ ?_ ?_
      · intro claimedAt hPhase
        cases hPhase
      · intro other hOther
        exact absurd hOther
          (hNoDuplicates (by simp [hWaiting]) other)
      · intro owner hPhase
        cases hPhase
    · exact hInv
  | arrive delivery =>
    simp only [Deliveries.step]
    split
    · rename_i hWaiting
      rw [Deliveries.markEventSeen, if_neg hId]
      split
      · rename_i claim hLive
        have hOwned := hUnobserved hWaiting claim hLive
        refine hInv.move ?_ ?_ ?_
        · intro claimedAt hPhase
          cases hPhase
        · intro other hOther
          exact absurd hOther
            (hNoDuplicates (by simp [hWaiting]) other)
        · intro owner hPhase
          rw [Phase.duplicate.injEq] at hPhase
          subst hPhase
          refine ⟨?_, hOwned⟩
          intro hSame
          rcases hOwned with ⟨claimedAt, hOwned⟩
          rw [hSame, hWaiting] at hOwned
          rcases hOwned with hOwned | hOwned
          · cases hOwned
          · cases hOwned
      · rename_i hFree
        exact hInv.claim hWaiting hFree
    · exact hInv
  | complete delivery =>
    simp only [Deliveries.step]
    split
    · rename_i claimedAt hRunning
      refine hInv.move ?_ ?_ ?_
      · intro claimedAt' hPhase
        rw [hRunning]
        exact hPhase
      · intro other _
        exact ⟨claimedAt, Or.inr rfl⟩
      · intro owner hPhase
        cases hPhase
    · exact hInv
  | fail delivery =>
    simp only [Deliveries.step]
    split
    · rename_i claimedAt hRunning
      refine hInv.move ?_ ?_ ?_
      · intro claimedAt' hPhase
        rw [hRunning]
        exact hPhase
      · intro other hOther
        exact absurd hOther (hUnobserved other)
      · intro owner hPhase
        cases hPhase
    · exact hInv
  | release delivery =>
    simp only [Deliveries.step]
    split
    · rename_i claimedAt hFailing
      rw [Deliveries.releaseEventClaim, if_neg hId]
      have hMoved : (s.move delivery .failed).Inv := by
        refine hInv.move ?_ ?_ ?_
        · intro claimedAt' hPhase
          cases hPhase
        · intro other hOther
          exact absurd hOther
            (hNoDuplicates (by simp [hFailing]) other)
        · intro owner hPhase
          cases hPhase
      refine ⟨hMoved.past, ?_, hMoved.apart, hMoved.observed⟩
      -- any other live claim would have been the key
      intro other claimedAt' hOther hLive
      exfalso
      simp only [Deliveries.phase_move] at hOther
      split at hOther
      · cases hOther
      · rename_i hNe
        have hKey := hInv.liveClaim_eq hOther hLive
        exact hNe
          (hUnobserved ⟨claimedAt, hFailing⟩ _ hKey)
    · exact hInv
  | die delivery =>
    have hDied : (s.move delivery .died).Inv := by
      refine hInv.move ?_ ?_ ?_
      · intro claimedAt' hPhase
        cases hPhase
      · intro other hOther
        exact absurd hOther (hUnobserved other)
      · intro owner hPhase
        cases hPhase
    simp only [Deliveries.step]
    split
    · exact hDied
    · exact hDied
    · exact hInv

/- Before the first delivery. -/
omit [DecidableEq ω] in
theorem Deliveries.inv_start :
    (Deliveries.start : Deliveries ω).Inv := by
  refine ⟨?_, ?_, ?_, ?_⟩
  · intro delivery claimedAt hPhase
    cases hPhase
  · intro delivery claimedAt hPhase
    cases hPhase
  · intro first second claimedAt claimedAt' hFirst
    cases hFirst
  · intro delivery owner hPhase
    cases hPhase

end

--------
-- Runs
--------

/-
  Answers are sound in every run of the deliveries of an event
  with an id that is not observed.
-/
theorem sound_of_unobserved
    {ω : Type}
    [DecidableEq ω]
    {eventId : String}
    (hId : eventId ≠ "")
    {actions : List (DeliveryAction ω)}
    (hMeets :
      Machine.Meets (Machine.total (Deliveries.step eventId))
        Deliveries.Unobserved Deliveries.start actions) :
    (Deliveries.start.run eventId actions).Sound :=
  (Machine.foldl_invariant
    (fun _ _ hInv hUnobserved => hInv.step hId hUnobserved)
    Deliveries.inv_start hMeets).sound

/-
  A delivery whose handler raises, and the one that Stripe
  makes up for it.
-/
theorem sound_retriedRun :
    (Deliveries.start.run "evt_1"
      [.arrive false, .fail false, .release false,
        .arrive true, .complete true]).Sound := by
  refine sound_of_unobserved (by decide) ?_
  refine ⟨?_, ?_⟩
  · intro _ claim hLive
    cases hLive
  rintro _ ⟨⟩
  have hUnseen : ∀ other : Bool,
      (Deliveries.start.run "evt_1" [.arrive false]).phase
        other ≠ .duplicate false := by
    decide
  refine ⟨hUnseen, ?_⟩
  rintro _ ⟨⟩
  refine ⟨?_, ?_⟩
  · intro _ claim hLive
    have hKey :
        ((Deliveries.start.run "evt_1"
          [.arrive false, .fail false]).liveClaim).map
            EventClaim.owner = some false := by
      decide
    change (Deliveries.start.run "evt_1"
      [.arrive false, .fail false]).liveClaim = some claim
        at hLive
    rw [hLive] at hKey
    exact Option.some.inj hKey
  rintro _ ⟨⟩
  refine ⟨?_, ?_⟩
  · intro _ claim hLive
    cases hLive
  rintro _ ⟨⟩
  exact ⟨trivial, fun _ _ => trivial⟩

/-
  The second delivery comes while the handler of the first is
  running; that handler raises.
-/
def observedRun : List (DeliveryAction Bool) :=
  [.arrive false, .arrive true, .fail false, .release false]

/- The event was acknowledged and never processed. -/
theorem not_sound :
    ¬ ∀ actions : List (DeliveryAction Bool),
      (Deliveries.start.run "evt_1" actions).Sound := by
  intro hAll
  have hFinished : ∀ delivery,
      ((Deliveries.start.run "evt_1" observedRun).phase
        delivery).isFinished = true := by
    decide
  have hAcknowledged : ∃ delivery,
      ((Deliveries.start.run "evt_1" observedRun).phase
        delivery).isAcknowledged = true := by
    decide
  rcases (hAll observedRun).processed hFinished hAcknowledged
    with ⟨delivery, claimedAt, hProcessed⟩
  have hNone : ∀ delivery,
      ((Deliveries.start.run "evt_1" observedRun).phase
        delivery).claimedAt? = none := by
    decide
  have hHere := hNone delivery
  rw [hProcessed] at hHere
  cases hHere

end StripeBilling

end RegEngine
