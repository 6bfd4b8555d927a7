import RegEngine.Library.Outcome

/-
  Regions of a state: parts that can be read and written by
  themselves. A step that reads a view of the state and writes
  one region leaves every independent region as it was.

  Main declarations:
    * `Region`
    * `Region.Independent`
    * `Region.Acts.foldlM`
-/

--------
-- Regions
--------

/- A part of a state, with its read and its write. -/
structure Region (σ α : Type) where
  get : σ → α
  set : σ → α → σ
  get_set : ∀ s a, get (set s a) = a
  set_get : ∀ s, set s (get s) = s
  set_set : ∀ s a b, set (set s a) b = set s b

namespace Region

variable {σ α β ν : Type}

/- A view that does not see the writes of a region. -/
def Blind
    (r : Region σ α)
    (view : σ → ν) : Prop :=
  ∀ s a, view (r.set s a) = view s

/- Two regions that can be written in either order. -/
def Independent
    (r : Region σ α)
    (q : Region σ β) : Prop :=
  ∀ s a b, r.set (q.set s b) a = q.set (r.set s a) b

/- A write of one region is not seen in the other. -/
theorem Independent.blind
    {r : Region σ α}
    {q : Region σ β}
    (hIndep : r.Independent q) :
    r.Blind q.get := by
  intro s a
  have hComm := hIndep s a (q.get s)
  rw [q.set_get] at hComm
  rw [hComm, q.get_set]

end Region

--------
-- Steps On A Region
--------

namespace Region

variable {σ α ν ω γ ε : Type}

/-
  A step that reads a view and a region and writes the region
  alone.
-/
def Acts
    (r : Region σ α)
    (view : σ → ν)
    (f : σ → Except ε σ) : Prop :=
  ∃ g : ν → α → Except ε α,
    ∀ s, f s = (g (view s) (r.get s)).map (r.set s)

variable {r : Region σ α} {view : σ → ν}
variable {s s' : σ} {f h : σ → Except ε σ}

/- A step changes nothing outside its region. -/
theorem Acts.eq_set
    {f : σ → Except ε σ}
    (hActs : r.Acts view f)
    (hStep : f s = .ok s') :
    ∃ a, s' = r.set s a := by
  rcases hActs with ⟨g, hEq⟩
  rw [hEq] at hStep
  cases hRun : g (view s) (r.get s) with
  | error raised => simp [hRun, Except.map] at hStep
  | ok a =>
      simp only [hRun, Except.map, Except.ok.injEq] at hStep
      exact ⟨a, hStep.symm⟩

/- A step keeps every view that is blind to its region. -/
theorem Acts.keeps
    {other : σ → ω}
    {f : σ → Except ε σ}
    (hActs : r.Acts view f)
    (hBlind : r.Blind other)
    (hStep : f s = .ok s') :
    other s' = other s := by
  rcases hActs.eq_set hStep with ⟨a, hSet⟩
  rw [hSet, hBlind]

/- The step that changes nothing acts on every region. -/
theorem acts_ok
    (r : Region σ α)
    (view : σ → ν) :
    r.Acts view (fun s => (.ok s : Except ε σ)) := by
  refine ⟨fun _ a => .ok a, ?_⟩
  intro s
  simp [Except.map, r.set_get]

/- Steps that compute the same act alike. -/
theorem Acts.congr
    (hActs : r.Acts view h)
    (hSame : ∀ s, f s = h s) :
    r.Acts view f := by
  rcases hActs with ⟨g, hEq⟩
  exact ⟨g, fun s => (hSame s).trans (hEq s)⟩

/- Two steps on a region make one. -/
theorem Acts.bind
    (hFirst : r.Acts view f)
    (hSecond : r.Acts view h)
    (hBlind : r.Blind view) :
    r.Acts view (fun s => f s >>= h) := by
  rcases hFirst with ⟨g, hEq⟩
  rcases hSecond with ⟨k, hEq'⟩
  refine ⟨fun v a => g v a >>= k v, ?_⟩
  intro s
  simp only [hEq]
  cases g (view s) (r.get s) with
  | error raised => rfl
  | ok a =>
      change h (r.set s a) = (k (view s) a).map (r.set s)
      rw [hEq', hBlind, r.get_set]
      congr 1
      funext b
      exact r.set_set s a b

/- A loop of steps on a region acts on it. -/
theorem Acts.foldlM
    {f : σ → γ → Except ε σ}
    (hActs : ∀ x, r.Acts view (fun s => f s x))
    (hBlind : r.Blind view)
    (xs : List γ) :
    r.Acts view (fun s => xs.foldlM f s) := by
  induction xs with
  | nil => exact acts_ok r view
  | cons x rest ih =>
      simp only [List.foldlM_cons]
      exact (hActs x).bind ih hBlind

end Region

--------
-- Steps That Commute
--------

namespace Region

variable {σ α β ν ω γ ε : Type}

/-
  Two steps that return the same in either order. Which of two
  errors is raised first does not matter.
-/
def Commute (f g : σ → Except ε σ) : Prop :=
  ∀ s s', (f s >>= g) = .ok s' ↔ (g s >>= f) = .ok s'

variable {f g : σ → Except ε σ} {r : Region σ α} {view : σ → ν}

/- What a step on a region and one after it return. -/
theorem Acts.bind_eq_ok
    {run : ν → α → Except ε α}
    {s s' : σ}
    (hEq : ∀ s, f s = (run (view s) (r.get s)).map (r.set s)) :
    (f s >>= g) = .ok s' ↔
      ∃ a, run (view s) (r.get s) = .ok a ∧
        g (r.set s a) = .ok s' := by
  simp only [hEq, Outcome.bind_eq_ok, Outcome.map_eq_ok]
  constructor
  · rintro ⟨t, ⟨a, hRun, rfl⟩, hNext⟩
    exact ⟨a, hRun, hNext⟩
  · rintro ⟨a, hRun, hNext⟩
    exact ⟨r.set s a, ⟨a, hRun, rfl⟩, hNext⟩

/- Steps on independent regions commute. -/
theorem Acts.commute
    {q : Region σ β}
    {other : σ → ω}
    (hFirst : r.Acts view f)
    (hSecond : q.Acts other g)
    (hIndep : r.Independent q)
    (hView : q.Blind view)
    (hOther : r.Blind other) :
    Commute f g := by
  have hBlind : r.Blind q.get := hIndep.blind
  have hBlind' : q.Blind r.get :=
    Independent.blind (fun s b a => (hIndep s a b).symm)
  rcases hFirst with ⟨run, hRun⟩
  rcases hSecond with ⟨run', hRun'⟩
  intro s s'
  rw [Acts.bind_eq_ok hRun, Acts.bind_eq_ok hRun']
  simp only [hRun, hRun', Outcome.map_eq_ok, hBlind s,
    hBlind' s, hView s, hOther s]
  constructor
  · rintro ⟨a, hA, b, hB, rfl⟩
    exact ⟨b, hB, a, hA, hIndep s a b⟩
  · rintro ⟨b, hB, a, hA, rfl⟩
    exact ⟨a, hA, b, hB, (hIndep s a b).symm⟩

/- The order of two steps is a matter of taste. -/
theorem Commute.symm
    (hComm : Commute f g) :
    Commute g f :=
  fun s s' => (hComm s s').symm

/- Two steps that commute with a third do so together. -/
theorem Commute.bind
    {f g h : σ → Except ε σ}
    (hFirst : Commute f h)
    (hSecond : Commute g h) :
    Commute (fun s => f s >>= g) h := by
  intro s s'
  have hMove :
      ∀ t, (g t >>= h) = .ok s' ↔ (h t >>= g) = .ok s' :=
    fun t => hSecond t s'
  calc
    ((f s >>= g) >>= h) = .ok s' ↔
        ∃ t, f s = .ok t ∧ (g t >>= h) = .ok s' := by
      rw [bind_assoc, Outcome.bind_eq_ok]
    _ ↔ ∃ t, f s = .ok t ∧ (h t >>= g) = .ok s' := by
      simp only [hMove]
    _ ↔ ∃ u, (f s >>= h) = .ok u ∧ g u = .ok s' := by
      rw [← Outcome.bind_eq_ok, ← bind_assoc,
        Outcome.bind_eq_ok]
    _ ↔ ∃ u, (h s >>= f) = .ok u ∧ g u = .ok s' := by
      simp only [hFirst s]
    _ ↔ (h s >>= fun u => f u >>= g) = .ok s' := by
      rw [← Outcome.bind_eq_ok, bind_assoc]

/- A loop of steps commutes with what its steps commute with. -/
theorem Commute.foldlM
    {f : σ → γ → Except ε σ}
    {g : σ → Except ε σ}
    (hComm : ∀ x, Commute (fun s => f s x) g)
    (xs : List γ) :
    Commute (fun s => xs.foldlM f s) g := by
  induction xs with
  | nil =>
      intro s s'
      simp only [List.foldlM_nil, pure_bind, bind_pure]
  | cons x rest ih =>
      simp only [List.foldlM_cons]
      exact (hComm x).bind ih

/-
  Two loops over one list, whose steps commute, make one loop
  that takes both steps at every item.
-/
theorem foldlM_fuse
    {f g : σ → γ → Except ε σ}
    (hComm :
      ∀ x y, Commute (fun s => f s x) (fun s => g s y))
    (xs : List γ)
    (s s' : σ) :
    (xs.foldlM f s >>= fun t => xs.foldlM g t) = .ok s' ↔
      xs.foldlM (fun t x => f t x >>= fun u => g u x) s =
        .ok s' := by
  induction xs generalizing s with
  | nil => simp only [List.foldlM_nil, pure_bind]
  | cons x rest ih =>
      have hLoop :
          Commute (fun s => rest.foldlM f s)
            (fun s => g s x) :=
        Commute.foldlM (fun y => hComm y x) rest
      have hMove :
          ∀ t,
            (rest.foldlM f t >>= fun u =>
                g u x >>= fun v => rest.foldlM g v) = .ok s' ↔
              ∃ u, g t x = .ok u ∧
                (rest.foldlM f u >>= fun v =>
                  rest.foldlM g v) = .ok s' := by
        intro t
        rw [← bind_assoc, Outcome.bind_eq_ok]
        simp only [hLoop t]
        rw [← Outcome.bind_eq_ok, bind_assoc,
          Outcome.bind_eq_ok]
      simp only [List.foldlM_cons, bind_assoc]
      rw [Outcome.bind_eq_ok, Outcome.bind_eq_ok]
      simp only [hMove, ih, Outcome.bind_eq_ok]

/- Loops over one list whose steps return the same. -/
theorem foldlM_congr_ok
    {f g : σ → γ → Except ε σ}
    (hSame : ∀ x s s', f s x = .ok s' ↔ g s x = .ok s')
    (xs : List γ)
    (s s' : σ) :
    xs.foldlM f s = .ok s' ↔ xs.foldlM g s = .ok s' := by
  induction xs generalizing s with
  | nil => rfl
  | cons x rest ih =>
      simp only [List.foldlM_cons, Outcome.bind_eq_ok, hSame,
        ih]

end Region
