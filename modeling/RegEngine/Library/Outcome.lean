import Mathlib.Data.List.Basic
import Mathlib.Data.List.Forall2

/-
  Computations that return a value or raise an error: how a
  sequence of them returns, and loops over a list.

  Main declarations:
    * `Outcome.ofOption`
    * `Outcome.bind_eq_ok`
    * `Outcome.foldlM_cons_eq_ok`
-/

namespace Outcome

variable {ε α β : Type}

/- The value there is, or an error. -/
def ofOption (raised : ε) : Option α → Except ε α
| none => .error raised
| some a => .ok a

/- A value is returned when there is one. -/
theorem ofOption_eq_ok
    {raised : ε}
    {x : Option α}
    {a : α} :
    ofOption raised x = .ok a ↔ x = some a := by
  cases x <;> simp [ofOption]

variable {f : α → Except ε β} {x : Except ε α} {xs : List α}
variable {ys : List β} {P : ε → Prop}

/- A sequence returns when both its parts do. -/
theorem bind_eq_ok
    {b : β} :
    (x >>= f) = .ok b ↔
      ∃ a, x = .ok a ∧ f a = .ok b := by
  cases x with
  | error raised => simp [bind, Except.bind]
  | ok a => simp [bind, Except.bind]

/- A returned value is returned. -/
theorem pure_eq_ok
    {a b : α} :
    (pure a : Except ε α) = .ok b ↔ a = b := by
  simp [pure, Except.pure]

/- A mapped computation returns when the computation does. -/
theorem map_eq_ok
    {f : α → β}
    {b : β} :
    x.map f = .ok b ↔ ∃ a, x = .ok a ∧ f a = b := by
  cases x with
  | error raised => simp [Except.map]
  | ok a => simp [Except.map]

/- A computation that is `ok` returns a value. -/
theorem exists_eq_ok
    (hOk : x.isOk = true) :
    ∃ a, x = .ok a := by
  cases x with
  | error raised => exact Bool.noConfusion hOk
  | ok a => exact ⟨a, rfl⟩

/- Checks on a list pass when the first and the rest do. -/
theorem forM_cons_eq_ok
    {f : α → Except ε Unit}
    {x : α}
    {xs : List α} :
    (x :: xs).forM f = .ok () ↔
      f x = .ok () ∧ xs.forM f = .ok () := by
  change (f x >>= fun _ => xs.forM f) = .ok () ↔ _
  rw [bind_eq_ok]
  constructor
  · rintro ⟨⟨⟩, hFirst, hRest⟩
    exact ⟨hFirst, hRest⟩
  · rintro ⟨hFirst, hRest⟩
    exact ⟨(), hFirst, hRest⟩

/- A loop returns when its first round and the rest do. -/
theorem foldlM_cons_eq_ok
    {f : β → α → Except ε β}
    {init final : β}
    {x : α}
    {rest : List α} :
    (x :: rest).foldlM f init = .ok final ↔
      ∃ next, f init x = .ok next ∧
        rest.foldlM f next = .ok final := by
  rw [List.foldlM_cons, bind_eq_ok]

/-
  A loop returns well when it starts well and every item is
  good, if that is so of each round.
-/
theorem foldlM_ok_and_iff
    {f : β → α → Except ε β}
    {P : β → Prop}
    {Q : α → Prop}
    (hRound :
      ∀ b x, (∃ b', f b x = .ok b' ∧ P b') ↔ P b ∧ Q x)
    (xs : List α)
    (init : β) :
    (∃ final, xs.foldlM f init = .ok final ∧ P final) ↔
      P init ∧ ∀ x ∈ xs, Q x := by
  induction xs generalizing init with
  | nil => simp [pure, Except.pure]
  | cons x rest ih =>
      have hSplit :
          (∃ final, (x :: rest).foldlM f init = .ok final ∧
              P final) ↔
            ∃ next, f init x = .ok next ∧
              (P next ∧ ∀ y ∈ rest, Q y) := by
        constructor
        · rintro ⟨final, hLoop, hFinal⟩
          rcases foldlM_cons_eq_ok.mp hLoop with
            ⟨next, hNext, hRest⟩
          exact ⟨next, hNext, (ih next).mp ⟨final, hRest, hFinal⟩⟩
        · rintro ⟨next, hNext, hGood⟩
          rcases (ih next).mpr hGood with ⟨final, hRest, hFinal⟩
          exact ⟨final,
            foldlM_cons_eq_ok.mpr ⟨next, hNext, hRest⟩, hFinal⟩
      rw [hSplit, List.forall_mem_cons, ← and_assoc,
        ← hRound init x]
      constructor
      · rintro ⟨next, hNext, hP, hRest⟩
        exact ⟨⟨next, hNext, hP⟩, hRest⟩
      · rintro ⟨⟨next, hNext, hP⟩, hRest⟩
        exact ⟨next, hNext, hP, hRest⟩

variable {y : β}

/- A map gives each item its own result. -/
theorem forall₂_of_mapM
    (hMap : xs.mapM f = .ok ys) :
    List.Forall₂ (fun x y => f x = .ok y) xs ys := by
  induction xs generalizing ys with
  | nil =>
      rw [List.mapM_nil] at hMap
      rw [← pure_eq_ok.mp hMap]
      exact List.Forall₂.nil
  | cons first rest ih =>
      rw [List.mapM_cons] at hMap
      rcases bind_eq_ok.mp hMap with ⟨head, hHead, hMap⟩
      rcases bind_eq_ok.mp hMap with ⟨tail, hTail, hMap⟩
      rw [← pure_eq_ok.mp hMap]
      exact List.Forall₂.cons hHead (ih hTail)

/- What a map returns comes from the items of its list. -/
theorem mem_mapM
    (hMap : xs.mapM f = .ok ys)
    (hMem : y ∈ ys) :
    ∃ x ∈ xs, f x = .ok y := by
  have hEach := forall₂_of_mapM hMap
  clear hMap
  induction hEach with
  | nil => simp at hMem
  | cons hHead _ ih =>
      rcases List.mem_cons.mp hMem with rfl | hRest
      · exact ⟨_, by simp, hHead⟩
      · rcases ih hRest with ⟨x, hX, hEq⟩
        exact ⟨x, by simp [hX], hEq⟩

/- A map that returns returns on every item of its list. -/
theorem exists_of_mapM_eq_ok
    {x : α}
    (hMap : xs.mapM f = .ok ys)
    (hMem : x ∈ xs) :
    ∃ y ∈ ys, f x = .ok y := by
  have hEach := forall₂_of_mapM hMap
  clear hMap
  induction hEach with
  | nil => simp at hMem
  | cons hHead _ ih =>
      rcases List.mem_cons.mp hMem with rfl | hRest
      · exact ⟨_, by simp, hHead⟩
      · rcases ih hRest with ⟨y, hY, hEq⟩
        exact ⟨y, by simp [hY], hEq⟩

/- Two pairings of lists make one. -/
theorem forall₂_compose
    {γ : Type}
    {R : α → β → Prop}
    {S : β → γ → Prop}
    {T : α → γ → Prop}
    {zs : List γ}
    (hStep : ∀ x y z, R x y → S y z → T x z)
    (hFirst : List.Forall₂ R xs ys)
    (hSecond : List.Forall₂ S ys zs) :
    List.Forall₂ T xs zs := by
  induction hFirst generalizing zs with
  | nil =>
      cases hSecond
      exact List.Forall₂.nil
  | cons hHead hTail ih =>
      cases hSecond with
      | cons hNext hRest =>
          exact List.Forall₂.cons (hStep _ _ _ hHead hNext)
            (ih hRest)

/- What a map returns stands beside the item it is from. -/
theorem mem_zip_mapM
    {x : α}
    (hMap : xs.mapM f = .ok ys)
    (hMem : (x, y) ∈ xs.zip ys) :
    f x = .ok y :=
  List.forall₂_zip (forall₂_of_mapM hMap) hMem

/- A map whose items all return returns. -/
theorem exists_mapM_eq_ok
    (hAll : ∀ x ∈ xs, ∃ y, f x = .ok y) :
    ∃ ys, xs.mapM f = .ok ys := by
  induction xs with
  | nil => exact ⟨[], rfl⟩
  | cons x rest ih =>
      rcases hAll x (by simp) with ⟨y, hY⟩
      rcases ih (fun z hZ => hAll z (by simp [hZ])) with
        ⟨ys, hYs⟩
      refine ⟨y :: ys, ?_⟩
      rw [List.mapM_cons, hY, hYs]
      rfl

/- A map with an item that raises raises. -/
theorem exists_mapM_eq_error
    (hSome : ∃ x ∈ xs, ∃ raised, f x = .error raised) :
    ∃ raised, xs.mapM f = .error raised := by
  cases hMap : xs.mapM f with
  | error raised => exact ⟨raised, rfl⟩
  | ok ys =>
      rcases hSome with ⟨x, hX, raised, hRaised⟩
      rcases exists_of_mapM_eq_ok hMap hX with ⟨y, -, hY⟩
      rw [hRaised] at hY
      simp at hY

/- Values are not changed on the way to an exception. -/
theorem mapM_map_of_raises
    (g : α → β → β)
    (hSome : ∃ x ∈ xs, ∃ raised, f x = .error raised) :
    xs.mapM (fun x => (f x).map (g x)) = xs.mapM f := by
  induction xs with
  | nil => simp at hSome
  | cons x rest ih =>
      rw [List.mapM_cons, List.mapM_cons]
      cases hFirst : f x with
      | error raised => rfl
      | ok y =>
          have hRest :
              ∃ z ∈ rest, ∃ raised, f z = .error raised := by
            simpa [hFirst] using hSome
          rcases exists_mapM_eq_error hRest with
            ⟨raised, hRaised⟩
          rw [ih hRest, hRaised]
          rfl

/- Changed values are the same when none is changed. -/
theorem mapM_map_eq_iff
    (g : α → β → β)
    (hAll : ∀ x ∈ xs, ∃ y, f x = .ok y) :
    xs.mapM (fun x => (f x).map (g x)) = xs.mapM f ↔
      ∀ x ∈ xs, ∀ y, f x = .ok y → g x y = y := by
  induction xs with
  | nil => simp
  | cons x rest ih =>
      have hRest : ∀ z ∈ rest, ∃ y, f z = .ok y :=
        fun z hZ => hAll z (by simp [hZ])
      rcases hAll x (by simp) with ⟨y, hY⟩
      rcases exists_mapM_eq_ok hRest with ⟨ys, hYs⟩
      have hMapped :
          ∀ z ∈ rest, ∃ w, (f z).map (g z) = .ok w := by
        intro z hZ
        rcases hRest z hZ with ⟨w, hW⟩
        exact ⟨g z w, by rw [hW]; rfl⟩
      rcases exists_mapM_eq_ok hMapped with ⟨zs, hZs⟩
      have hTail := ih hRest
      rw [hYs, hZs, Except.ok.injEq] at hTail
      rw [List.mapM_cons, List.mapM_cons, hY, hYs, hZs,
        List.forall_mem_cons, ← hTail]
      simp [Except.map, bind, Except.bind, pure, Except.pure,
        hY]

/- A computation raises only exceptions of a kind. -/
def RaisesOnly (P : ε → Prop) (x : Except ε α) : Prop :=
  ∀ raised, x = .error raised → P raised

/- What returns raises nothing. -/
theorem raisesOnly_ok
    (P : ε → Prop)
    (a : α) :
    RaisesOnly P (.ok a) := by
  intro raised hRaised
  simp at hRaised

/- A sequence raises what its parts raise. -/
theorem RaisesOnly.bind
    (hFirst : RaisesOnly P x)
    (hRest : ∀ a, x = .ok a → RaisesOnly P (f a)) :
    RaisesOnly P (x >>= f) := by
  cases x with
  | error raised =>
      intro other hOther
      simp only [Bind.bind, Except.bind,
        Except.error.injEq] at hOther
      exact hFirst other (by rw [hOther])
  | ok a => exact hRest a rfl

/- A mapped computation raises what the computation raises. -/
theorem RaisesOnly.map
    (hFirst : RaisesOnly P x)
    (f : α → β) :
    RaisesOnly P (x.map f) := by
  cases x with
  | error raised =>
      intro other hOther
      simp only [Except.map, Except.error.injEq] at hOther
      exact hFirst other (by rw [hOther])
  | ok a => exact raisesOnly_ok P (f a)

/- A loop raises what its rounds raise. -/
theorem raisesOnly_foldlM
    {f : β → α → Except ε β}
    (hRound : ∀ b x, RaisesOnly P (f b x))
    (xs : List α)
    (init : β) :
    RaisesOnly P (xs.foldlM f init) := by
  induction xs generalizing init with
  | nil => exact raisesOnly_ok P init
  | cons x rest ih =>
      rw [List.foldlM_cons]
      exact (hRound init x).bind (fun next _ => ih next)

theorem raisesOnly_mapM
    (hItem : ∀ x, RaisesOnly P (f x))
    (xs : List α) :
    RaisesOnly P (xs.mapM f) := by
  induction xs with
  | nil => exact raisesOnly_ok P []
  | cons x rest ih =>
      rw [List.mapM_cons]
      refine (hItem x).bind (fun y _ => ?_)
      exact ih.bind (fun ys _ => raisesOnly_ok P (y :: ys))

end Outcome
