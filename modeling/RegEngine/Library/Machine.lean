import Mathlib.Data.List.Basic

/-
  Machines that take labelled steps, where a step that is not
  enabled gives nothing, and what every step of a run keeps.

  Main declarations:
    * `Machine.run`
    * `Machine.Meets`
    * `Machine.final_iff_meets`
-/

namespace Machine

variable {σ α : Type}

/- The state after a list of steps that are all enabled. -/
def run (step : σ → α → Option σ) : σ → List α → Option σ
| s, [] => some s
| s, a :: rest =>
    match step s a with
    | some next => run step next rest
    | none => none

theorem run_nil
    (step : σ → α → Option σ)
    (s : σ) :
    run step s [] = some s :=
  rfl

theorem run_cons
    (step : σ → α → Option σ)
    (s : σ)
    (a : α)
    (rest : List α) :
    run step s (a :: rest) =
      match step s a with
      | some next => run step next rest
      | none => none :=
  rfl

/- Every step of a run meets a condition in its state. -/
def Meets
    (step : σ → α → Option σ)
    (P : σ → α → Prop) : σ → List α → Prop
| _, [] => True
| s, a :: rest =>
    P s a ∧ ∀ next, step s a = some next →
      Meets step P next rest

/- Whether a run meets a condition can be decided. -/
instance decidableMeets
    (step : σ → α → Option σ)
    (P : σ → α → Prop)
    [∀ s a, Decidable (P s a)] :
    ∀ s actions, Decidable (Meets step P s actions)
| _, [] => isTrue trivial
| s, a :: rest =>
    match hStep : step s a with
    | none =>
        decidable_of_iff (P s a) (by simp [Meets, hStep])
    | some next =>
        have := decidableMeets step P next rest
        decidable_of_iff (P s a ∧ Meets step P next rest)
          (by simp [Meets, hStep])

/- A run that takes one more step. -/
theorem run_cons_eq_some
    {step : σ → α → Option σ}
    {s final : σ}
    {a : α}
    {rest : List α} :
    run step s (a :: rest) = some final ↔
      ∃ next, step s a = some next ∧
        run step next rest = some final := by
  rw [run_cons]
  cases step s a with
  | none => simp
  | some next => simp

/- A run, and one more step at its end. -/
theorem run_concat_eq_some
    {step : σ → α → Option σ}
    {s final : σ}
    {before : List α}
    {a : α} :
    run step s (before ++ [a]) = some final ↔
      ∃ mid, run step s before = some mid ∧
        step mid a = some final := by
  induction before generalizing s with
  | nil =>
      rw [List.nil_append, run_cons_eq_some]
      simp [run_nil]
  | cons first rest ih =>
      rw [List.cons_append, run_cons_eq_some]
      simp only [ih, run_cons_eq_some]
      constructor
      · rintro ⟨next, hNext, mid, hMid, hLast⟩
        exact ⟨mid, ⟨next, hNext, hMid⟩, hLast⟩
      · rintro ⟨mid, ⟨next, hNext, hMid⟩, hLast⟩
        exact ⟨next, hNext, mid, hMid, hLast⟩

variable {P : σ → α → Prop} {actions : List α} {s : σ}

/-
  An invariant that every step under the condition keeps
  holds after every run whose steps meet the condition.
-/
theorem run_invariant
    {step : σ → α → Option σ}
    {Inv : σ → Prop}
    (hStep :
      ∀ s a next, Inv s → P s a → step s a = some next →
        Inv next)
    {s final : σ}
    (hInit : Inv s)
    (hMeets : Meets step P s actions)
    (hRun : run step s actions = some final) :
    Inv final := by
  induction actions generalizing s with
  | nil =>
      rw [← Option.some.inj hRun]
      exact hInit
  | cons a rest ih =>
      rw [run_cons_eq_some] at hRun
      rcases hRun with ⟨next, hNext, hRest⟩
      exact ih (hStep s a next hInit hMeets.1 hNext)
        (hMeets.2 next hNext) hRest

/-
  What a condition on the steps gives where an invariant
  holds, it gives along every run.
-/
theorem Meets.of_invariant
    {step : σ → α → Option σ}
    {P Q : σ → α → Prop}
    {Inv : σ → Prop}
    (hStep :
      ∀ s a next, Inv s → P s a → step s a = some next →
        Inv next)
    (hHere : ∀ s a, Inv s → P s a → Q s a)
    (hInit : Inv s)
    (hMeets : Meets step P s actions) :
    Meets step Q s actions := by
  induction actions generalizing s with
  | nil => trivial
  | cons a rest ih =>
      refine ⟨hHere s a hInit hMeets.1, ?_⟩
      intro next hNext
      exact ih (hStep s a next hInit hMeets.1 hNext)
        (hMeets.2 next hNext)

/- A run whose steps meet a condition, at its last step. -/
theorem Meets.last
    {step : σ → α → Option σ}
    {s mid : σ}
    {before : List α}
    {a : α}
    (hMeets : Meets step P s (before ++ [a]))
    (hRun : run step s before = some mid) :
    P mid a := by
  induction before generalizing s with
  | nil =>
      rw [← Option.some.inj hRun]
      exact hMeets.1
  | cons first rest ih =>
      rw [run_cons_eq_some] at hRun
      rcases hRun with ⟨next, hNext, hRest⟩
      exact ih (hMeets.2 next hNext) hRest

/- The first steps of a run whose steps meet a condition. -/
theorem Meets.initial
    {step : σ → α → Option σ}
    {before rest : List α}
    (hMeets : Meets step P s (before ++ rest)) :
    Meets step P s before := by
  induction before generalizing s with
  | nil => trivial
  | cons a before ih =>
      exact ⟨hMeets.1, fun next hNext =>
        ih (hMeets.2 next hNext)⟩

/- What every step keeps holds after every run. -/
theorem run_keeps
    {step : σ → α → Option σ}
    {Inv : σ → Prop}
    (hStep :
      ∀ s a next, Inv s → step s a = some next → Inv next)
    {s final : σ}
    (hInit : Inv s)
    (hRun : run step s actions = some final) :
    Inv final := by
  induction actions generalizing s with
  | nil =>
      rw [← Option.some.inj hRun]
      exact hInit
  | cons a rest ih =>
      rw [run_cons_eq_some] at hRun
      rcases hRun with ⟨next, hNext, hRest⟩
      exact ih (hStep s a next hInit hNext) hRest

--------
-- Machines without Guards
--------

/- A machine whose steps are always enabled. -/
def total (step : σ → α → σ) (s : σ) (a : α) : Option σ :=
  some (step s a)

theorem run_total
    (step : σ → α → σ)
    (s : σ)
    (actions : List α) :
    run (total step) s actions =
      some (actions.foldl step s) := by
  induction actions generalizing s with
  | nil => rfl
  | cons a rest ih => exact ih (step s a)

theorem meets_total_cons
    {step : σ → α → σ}
    {a : α}
    {rest : List α} :
    Meets (total step) P s (a :: rest) ↔
      P s a ∧ Meets (total step) P (step s a) rest := by
  simp [Meets, total]

/- An invariant of the steps under a condition, as above. -/
theorem foldl_invariant
    {step : σ → α → σ}
    {Inv : σ → Prop}
    (hStep : ∀ s a, Inv s → P s a → Inv (step s a))
    (hInit : Inv s)
    (hMeets : Meets (total step) P s actions) :
    Inv (actions.foldl step s) := by
  refine run_invariant ?_ hInit hMeets
    (run_total step s actions)
  intro s a next hInv hP hNext
  rw [total, Option.some.injEq] at hNext
  rw [← hNext]
  exact hStep s a hInv hP

/- What every step keeps, as above. -/
theorem foldl_keeps
    {step : σ → α → σ}
    {Inv : σ → Prop}
    (hStep : ∀ s a, Inv s → Inv (step s a))
    (actions : List α)
    (hInit : Inv s) :
    Inv (actions.foldl step s) := by
  refine run_keeps ?_ hInit (run_total step s actions)
  intro s a next hInv hNext
  rw [total, Option.some.injEq] at hNext
  rw [← hNext]
  exact hStep s a hInv

/- The last steps of a run whose steps meet a condition. -/
theorem Meets.final
    {step : σ → α → σ}
    {before rest : List α}
    (hMeets : Meets (total step) P s (before ++ rest)) :
    Meets (total step) P (before.foldl step s) rest := by
  induction before generalizing s with
  | nil => exact hMeets
  | cons a before ih =>
      exact ih (meets_total_cons.mp hMeets).2

/-
  What relates the state before a step under the condition to
  the one after it relates any two states of a run.
-/
theorem foldl_related
    {step : σ → α → σ}
    {Inv : σ → Prop}
    {R : σ → σ → Prop}
    (hRefl : ∀ s, R s s)
    (hTrans : ∀ {s t u}, R s t → R t u → R s u)
    (hStep :
      ∀ s a, Inv s → P s a → Inv (step s a) ∧ R s (step s a))
    (hInit : Inv s)
    (hMeets : Meets (total step) P s actions)
    {before later : List α}
    (hBefore : before <+: later)
    (hLater : later <+: actions) :
    R (before.foldl step s) (later.foldl step s) := by
  rcases hLater with ⟨rest, rfl⟩
  rcases hBefore with ⟨between, rfl⟩
  have hMid : Inv (before.foldl step s) := by
    refine foldl_invariant (fun t a hInv hP =>
      (hStep t a hInv hP).1) hInit ?_
    exact hMeets.initial.initial
  have hKeeps : ∀ t a,
      Inv t ∧ R (before.foldl step s) t → P t a →
        Inv (step t a) ∧ R (before.foldl step s) (step t a) := by
    rintro t a ⟨hInv, hRelated⟩ hP
    rcases hStep t a hInv hP with ⟨hNext, hHere⟩
    exact ⟨hNext, hTrans hRelated hHere⟩
  rw [List.foldl_append]
  exact (foldl_invariant hKeeps ⟨hMid, hRefl _⟩
    hMeets.initial.final).2

/-
  When the condition is exactly what a step needs to keep the
  invariant, the invariant holds in every state of a run just
  when the steps of the run meet the condition.
-/
theorem always_iff_meets
    {step : σ → α → σ}
    {Inv : σ → Prop}
    (hStep : ∀ s a, Inv s → (Inv (step s a) ↔ P s a))
    (actions : List α)
    (hInit : Inv s) :
    (∀ before, before <+: actions →
      Inv (before.foldl step s)) ↔
      Meets (total step) P s actions := by
  induction actions generalizing s with
  | nil =>
      constructor
      · intro _
        trivial
      · intro _ before hPrefix
        rw [List.prefix_nil.mp hPrefix]
        exact hInit
  | cons a rest ih =>
      rw [meets_total_cons]
      constructor
      · intro hAlways
        have hNext : Inv (step s a) :=
          hAlways [a] ⟨rest, rfl⟩
        refine ⟨(hStep s a hInit).mp hNext, ?_⟩
        refine (ih hNext).mp ?_
        intro before hPrefix
        exact hAlways (a :: before)
          (List.cons_prefix_cons.mpr ⟨rfl, hPrefix⟩)
      · rintro ⟨hP, hMeets⟩ before hPrefix
        have hNext := (hStep s a hInit).mpr hP
        cases before with
        | nil => exact hInit
        | cons first before =>
            rcases List.cons_prefix_cons.mp hPrefix with
              ⟨rfl, hRest⟩
            exact (ih hNext).mpr hMeets before hRest

/-
  An invariant that is never won back holds at the end of a
  run just when the steps of the run meet the condition.
-/
theorem final_iff_meets
    {step : σ → α → σ}
    {Inv : σ → Prop}
    (hStep : ∀ s a, Inv s → (Inv (step s a) ↔ P s a))
    (hBack : ∀ s a, Inv (step s a) → Inv s)
    (actions : List α)
    (hInit : Inv s) :
    Inv (actions.foldl step s) ↔
      Meets (total step) P s actions := by
  have hEarlier : ∀ (rest : List α) (t : σ),
      Inv (rest.foldl step t) → Inv t := by
    intro rest
    induction rest with
    | nil => exact fun t hInv => hInv
    | cons a rest ih =>
        exact fun t hInv => hBack t a (ih (step t a) hInv)
  rw [← always_iff_meets hStep actions hInit]
  constructor
  · rintro hFinal before ⟨rest, rfl⟩
    rw [List.foldl_append] at hFinal
    exact hEarlier rest _ hFinal
  · intro hAlways
    exact hAlways actions (List.prefix_refl actions)

/-
  When the condition is exactly what a step needs to relate
  the state before it to the one after it, any two states of a
  run are related just when the steps of the run meet the
  condition.
-/
theorem related_iff_meets
    {step : σ → α → σ}
    {R : σ → σ → Prop}
    (hRefl : ∀ s, R s s)
    (hTrans : ∀ {s t u}, R s t → R t u → R s u)
    (hStep : ∀ s a, R s (step s a) ↔ P s a)
    (s : σ)
    (actions : List α) :
    (∀ before later, before <+: later → later <+: actions →
      R (before.foldl step s) (later.foldl step s)) ↔
      Meets (total step) P s actions := by
  induction actions generalizing s with
  | nil =>
      constructor
      · intro _
        trivial
      · intro _ before later hBefore hLater
        rw [List.prefix_nil.mp hLater] at hBefore
        rw [List.prefix_nil.mp hBefore,
          List.prefix_nil.mp hLater]
        exact hRefl s
  | cons a rest ih =>
      rw [meets_total_cons]
      constructor
      · intro hAll
        refine ⟨(hStep s a).mp ?_, (ih (step s a)).mp ?_⟩
        · exact hAll [] [a] List.nil_prefix ⟨rest, rfl⟩
        · intro before later hBefore hLater
          exact hAll (a :: before) (a :: later)
            (List.cons_prefix_cons.mpr ⟨rfl, hBefore⟩)
            (List.cons_prefix_cons.mpr ⟨rfl, hLater⟩)
      · rintro ⟨hP, hMeets⟩ before later hBefore hLater
        have hRest := (ih (step s a)).mpr hMeets
        cases later with
        | nil =>
            rw [List.prefix_nil.mp hBefore]
            exact hRefl s
        | cons b later' =>
            rcases List.cons_prefix_cons.mp hLater with
              ⟨rfl, hLater'⟩
            cases before with
            | nil =>
                exact hTrans ((hStep s b).mpr hP)
                  (hRest [] later' List.nil_prefix hLater')
            | cons c before' =>
                rcases List.cons_prefix_cons.mp hBefore with
                  ⟨rfl, hBefore'⟩
                exact hRest before' later' hBefore' hLater'

end Machine
