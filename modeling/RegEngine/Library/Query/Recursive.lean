import Mathlib.Data.List.Dedup
import Mathlib.Logic.Relation

/-
  Recursive queries: the rounds of `WITH RECURSIVE` with
  `UNION`, each of them on the rows that the one before it
  added, and the closure that they compute.

  Main declarations:
    * `Query.recursiveUnion`
    * `Query.mem_recursiveUnion_iff`
-/

namespace Query

variable {α : Type} [DecidableEq α]

/- The rows that a round adds to the result. -/
def fresh
    (step : List α → List α)
    (working result : List α) : List α :=
  (step working).dedup.filter (fun row => row ∉ result)

/-
  The working rows are replaced by the fresh ones until there
  are none, in at most so many rounds.
-/
def recursiveUnion
    (step : List α → List α) :
    Nat → List α → List α → List α
| 0, _, result => result
| rounds + 1, working, result =>
    if working = [] then result
    else
      recursiveUnion step rounds (fresh step working result)
        (result ++ fresh step working result)

omit [DecidableEq α] in
/- A closed list holds what its rows lead to. -/
theorem mem_of_closed
    {Step : α → α → Prop}
    {rows : List α}
    (hClosed : ∀ x ∈ rows, ∀ y, Step x y → y ∈ rows)
    {x y : α}
    (hMem : x ∈ rows)
    (hReach : Relation.ReflTransGen Step x y) :
    y ∈ rows := by
  induction hReach with
  | refl => exact hMem
  | tail _ hStep ih => exact hClosed _ ih _ hStep

theorem mem_fresh
    {step : List α → List α}
    {working result : List α}
    {row : α} :
    row ∈ fresh step working result ↔
      row ∈ step working ∧ row ∉ result := by
  unfold fresh
  rw [List.mem_filter, List.mem_dedup, decide_eq_true_eq]

/-
  What a round works on: all rows outside it are expanded, and
  every row of it has so few rounds left before its rank is
  beyond the bound.
-/
structure Frontier
    (Step : α → α → Prop)
    (rank : α → Nat)
    (bound rounds : Nat)
    (working result : List α) : Prop where
  mem : ∀ x ∈ working, x ∈ result
  expanded :
    ∀ x ∈ result, x ∉ working →
      ∀ y, Step x y → y ∈ result
  rank_le : ∀ x ∈ result, rank x ≤ bound
  left : ∀ x ∈ working, bound < rank x + rounds

section

variable {step : List α → List α} {Step : α → α → Prop}
variable {rank : α → Nat} {bound : Nat}
variable {rounds : Nat} {working result : List α}

/- A round leaves the frontier of the next one. -/
theorem Frontier.next
    (hStep :
      ∀ rows y, y ∈ step rows ↔ ∃ x ∈ rows, Step x y)
    (hRank :
      ∀ x y, Step x y →
        rank x < rank y ∧ rank y ≤ bound)
    (hFrontier :
      Frontier Step rank bound (rounds + 1) working result) :
    Frontier Step rank bound rounds
      (fresh step working result)
      (result ++ fresh step working result) := by
  constructor
  · intro x hMem
    exact List.mem_append_right _ hMem
  · intro x hMem hOld y hXY
    have hResult : x ∈ result := by
      rcases List.mem_append.mp hMem with hHere | hFresh
      · exact hHere
      · exact absurd hFresh hOld
    rw [List.mem_append]
    by_cases hWorking : x ∈ working
    · by_cases hSeen : y ∈ result
      · exact Or.inl hSeen
      · exact Or.inr (Iff.mpr mem_fresh
          ⟨(hStep working y).mpr ⟨x, hWorking, hXY⟩, hSeen⟩)
    · exact Or.inl
        (hFrontier.expanded x hResult hWorking y hXY)
  · intro x hMem
    rcases List.mem_append.mp hMem with hHere | hFresh
    · exact hFrontier.rank_le x hHere
    · rcases (hStep _ _).mp (Iff.mp mem_fresh hFresh).1 with
        ⟨w, -, hWX⟩
      exact (hRank w x hWX).2
  · intro x hMem
    rcases (hStep _ _).mp (Iff.mp mem_fresh hMem).1 with
      ⟨w, hWorking, hWX⟩
    have hLeft := hFrontier.left w hWorking
    have hLess := (hRank w x hWX).1
    omega

/- With enough rounds the result is closed. -/
theorem recursiveUnion_closed
    (hStep :
      ∀ rows y, y ∈ step rows ↔ ∃ x ∈ rows, Step x y)
    (hRank :
      ∀ x y, Step x y →
        rank x < rank y ∧ rank y ≤ bound)
    (hFrontier :
      Frontier Step rank bound rounds working result) :
    (∀ x ∈ result,
      x ∈ recursiveUnion step rounds working result) ∧
    ∀ x ∈ recursiveUnion step rounds working result,
      ∀ y, Step x y →
        y ∈ recursiveUnion step rounds working result := by
  induction rounds generalizing working result with
  | zero =>
    refine ⟨fun x hMem => hMem, ?_⟩
    intro x hMem y hXY
    refine hFrontier.expanded x hMem ?_ y hXY
    intro hWorking
    have hLeft := hFrontier.left x hWorking
    have hLe := hFrontier.rank_le x hMem
    omega
  | succ rounds ih =>
    rw [recursiveUnion]
    split
    · rename_i hEmpty
      refine ⟨fun x hMem => hMem, ?_⟩
      intro x hMem y hXY
      refine hFrontier.expanded x hMem ?_ y hXY
      rw [hEmpty]
      exact List.not_mem_nil
    · rcases ih (hFrontier.next hStep hRank) with
        ⟨hKept, hClosed⟩
      exact ⟨fun x hMem =>
        hKept x (List.mem_append_left _ hMem), hClosed⟩

/- The result holds nothing that its rows do not lead to. -/
theorem recursiveUnion_sound
    (hStep :
      ∀ rows y, y ∈ step rows ↔ ∃ x ∈ rows, Step x y)
    {seeds : List α}
    (hWorking : ∀ x ∈ working, x ∈ result)
    (hResult :
      ∀ y ∈ result,
        ∃ x ∈ seeds, Relation.ReflTransGen Step x y) :
    ∀ y ∈ recursiveUnion step rounds working result,
      ∃ x ∈ seeds, Relation.ReflTransGen Step x y := by
  induction rounds generalizing working result with
  | zero => exact hResult
  | succ rounds ih =>
    rw [recursiveUnion]
    split
    · exact hResult
    · apply ih
      · intro x hMem
        exact List.mem_append_right _ hMem
      · intro y hMem
        rcases List.mem_append.mp hMem with hHere | hFresh
        · exact hResult y hHere
        · rcases (hStep _ _).mp (Iff.mp mem_fresh hFresh).1 with
            ⟨w, hW, hWY⟩
          rcases hResult w (hWorking w hW) with
            ⟨x, hSeed, hReach⟩
          exact ⟨x, hSeed, hReach.tail hWY⟩

/-
  When every step raises a rank that is bounded, one round more
  than the bound is enough: the result is the closure of the
  seeds.
-/
theorem mem_recursiveUnion_iff
    (hStep :
      ∀ rows y, y ∈ step rows ↔ ∃ x ∈ rows, Step x y)
    (hRank :
      ∀ x y, Step x y →
        rank x < rank y ∧ rank y ≤ bound)
    {seeds : List α}
    (hSeeds : ∀ x ∈ seeds, rank x ≤ bound)
    {y : α} :
    y ∈ recursiveUnion step (bound + 1) seeds seeds ↔
      ∃ x ∈ seeds, Relation.ReflTransGen Step x y := by
  have hFrontier :
      Frontier Step rank bound (bound + 1) seeds seeds := by
    refine ⟨fun x hMem => hMem, ?_, hSeeds, ?_⟩
    · intro x hMem hOutside
      exact absurd hMem hOutside
    · intro x _
      omega
  rcases recursiveUnion_closed hStep hRank hFrontier with
    ⟨hKept, hClosed⟩
  constructor
  · exact recursiveUnion_sound hStep (fun x hMem => hMem)
      (fun x hMem => ⟨x, hMem, .refl⟩) y
  · rintro ⟨x, hMem, hReach⟩
    exact mem_of_closed hClosed (hKept x hMem) hReach

end

end Query
