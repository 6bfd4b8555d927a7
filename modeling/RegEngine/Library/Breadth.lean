import Mathlib.Data.Nat.Find
import RegEngine.Library.Worklist

/-
  Searching a graph breadth first, with a bound on the depth:
  what holds of the nodes visited and of the queue of nodes
  and depths while the search goes on.

  Main declarations:
    * `Breadth.Distance`
    * `Breadth.Frontier`
    * `Breadth.Frontier.visit`
-/

--------
-- Distances
--------

namespace Breadth

open Reachability (Steps)

variable {α : Type} {Edge : α → α → Prop} {n m : Nat} {x y : α}

/- A shortest walk has so many steps. -/
def Distance
    (Edge : α → α → Prop)
    (n : Nat)
    (x y : α) : Prop :=
  Steps Edge n x y ∧ ∀ m < n, ¬ Steps Edge m x y

/- No walk is shorter than the distance. -/
theorem Distance.le
    (hDistance : Distance Edge n x y)
    (hSteps : Steps Edge m x y) :
    n ≤ m := by
  by_contra hLess
  exact hDistance.2 m (Nat.lt_of_not_le hLess) hSteps

theorem Distance.eq
    (hDistance : Distance Edge n x y)
    (hOther : Distance Edge m x y) :
    n = m :=
  Nat.le_antisymm (hDistance.le hOther.1)
    (hOther.le hDistance.1)

/- A walk of some number of steps reaches its end. -/
theorem reaches_iff_steps :
    Relation.ReflTransGen Edge x y ↔
      ∃ n, Steps Edge n x y := by
  constructor
  · intro hReach
    induction hReach with
    | refl => exact ⟨0, rfl⟩
    | tail _ hEdge ih =>
      rcases ih with ⟨n, hSteps⟩
      exact ⟨n + 1, _, hSteps, hEdge⟩
  · rintro ⟨n, hSteps⟩
    induction n generalizing y with
    | zero =>
      rw [show x = y from hSteps]
    | succ n ih =>
      rcases hSteps with ⟨z, hFirst, hLast⟩
      exact .tail (ih hFirst) hLast

end Breadth

--------
-- The Frontier
--------

namespace Breadth

open Reachability (Steps)

variable {α : Type}

/-
  The nodes visited lie within the bound, and what follows them
  was visited or is in the queue, at its depth or deeper by
  one; unless a node was cut off at the bound.
-/
structure Frontier
    (Edge : α → α → Prop)
    (seed : α)
    (bound : Nat)
    (cut : Prop)
    (visited : List α)
    (queue : List (α × Nat)) : Prop where
  start : seed ∈ visited ∨ (seed, 0) ∈ queue
  steps : ∀ entry ∈ queue, Steps Edge entry.2 seed entry.1
  sorted :
    queue.Pairwise (fun a b => a.2 ≤ b.2 ∧ b.2 ≤ a.2 + 1)
  distance :
    ∀ x ∈ visited, ∃ k < bound, Distance Edge k seed x
  closed :
    ∀ x ∈ visited, ∀ k, Distance Edge k seed x →
      ∀ y, Edge x y →
        y ∈ visited ∨ (∃ j ≤ k + 1, (y, j) ∈ queue) ∨
          (cut ∧ bound ≤ k + 1)

end Breadth

--------
-- Steps Of The Search
--------

namespace Breadth

open Reachability (Steps)

variable {α : Type} {Edge : α → α → Prop}
variable {seed x y : α} {bound n k : Nat} {cut : Prop}
variable {visited : List α} {queue new : List (α × Nat)}

/- The search starts with the seed alone in the queue. -/
theorem Frontier.init :
    Frontier Edge seed bound False [] [(seed, 0)] where
  start := Or.inr List.mem_cons_self
  steps := by
    intro entry hMem
    rw [List.mem_singleton.mp hMem]
    rfl
  sorted := List.pairwise_singleton _ _
  distance := by
    intro x hMem
    cases hMem
  closed := by
    intro x hMem
    cases hMem

namespace Frontier

/-
  A node within the bound that was not visited has a node of
  no greater depth before it in the queue.
-/
theorem exists_queued
    (hFrontier :
      Frontier Edge seed bound cut visited queue)
    (hSteps : Steps Edge n seed y)
    (hBound : n < bound)
    (hNew : y ∉ visited) :
    ∃ entry ∈ queue, entry.2 ≤ n := by
  induction n generalizing y with
  | zero =>
    have hSeed : seed = y := hSteps
    subst hSeed
    rcases hFrontier.start with hVisited | hQueued
    · exact absurd hVisited hNew
    · exact ⟨_, hQueued, Nat.le_refl _⟩
  | succ n ih =>
    rcases hSteps with ⟨z, hFirst, hEdge⟩
    by_cases hVisited : z ∈ visited
    · rcases hFrontier.distance z hVisited with
        ⟨k, -, hDistance⟩
      have hLe := hDistance.le hFirst
      rcases hFrontier.closed z hVisited k hDistance y hEdge with
        hY | ⟨j, hJ, hQueued⟩ | ⟨-, hCut⟩
      · exact absurd hY hNew
      · exact ⟨_, hQueued, by
          change j ≤ n + 1
          omega⟩
      · omega
    · rcases ih hFirst (by omega) hVisited with
        ⟨entry, hMem, hLe⟩
      exact ⟨entry, hMem, by omega⟩

/- The depth of a node that comes up first is its distance. -/
theorem distance_head
    (hFrontier :
      Frontier Edge seed bound cut visited ((x, k) :: queue))
    (hNew : x ∉ visited)
    (hBound : k < bound) :
    Distance Edge k seed x := by
  refine ⟨hFrontier.steps _ List.mem_cons_self, ?_⟩
  intro m hLess hSteps
  rcases hFrontier.exists_queued hSteps (by omega) hNew with
    ⟨entry, hMem, hLe⟩
  rcases List.mem_cons.mp hMem with rfl | hLater
  · have hDepth : k ≤ m := hLe
    omega
  · have hSorted :=
      (List.pairwise_cons.mp hFrontier.sorted).1 entry hLater
    have hDepth : k ≤ entry.2 := hSorted.1
    omega

/- A node that was visited may be taken from the queue. -/
theorem skip
    (hFrontier :
      Frontier Edge seed bound cut visited ((x, k) :: queue))
    (hOld : x ∈ visited) :
    Frontier Edge seed bound cut visited queue where
  start := by
    rcases hFrontier.start with hVisited | hQueued
    · exact Or.inl hVisited
    · rcases List.mem_cons.mp hQueued with hHead | hLater
      · cases hHead
        exact Or.inl hOld
      · exact Or.inr hLater
  steps := fun entry hMem =>
    hFrontier.steps entry (List.mem_cons_of_mem _ hMem)
  sorted := (List.pairwise_cons.mp hFrontier.sorted).2
  distance := hFrontier.distance
  closed := by
    intro z hZ j hDistance y hEdge
    rcases hFrontier.closed z hZ j hDistance y hEdge with
      hY | ⟨i, hI, hQueued⟩ | hCut
    · exact Or.inl hY
    · rcases List.mem_cons.mp hQueued with hHead | hLater
      · cases hHead
        exact Or.inl hOld
      · exact Or.inr (Or.inl ⟨i, hI, hLater⟩)
    · exact Or.inr (Or.inr hCut)

/- So may a node at the bound; the search is cut there. -/
theorem cutOff
    (hFrontier :
      Frontier Edge seed bound cut visited ((x, k) :: queue))
    (hPositive : 0 < bound)
    (hBound : bound ≤ k) :
    Frontier Edge seed bound True visited queue where
  start := by
    rcases hFrontier.start with hVisited | hQueued
    · exact Or.inl hVisited
    · rcases List.mem_cons.mp hQueued with hHead | hLater
      · cases hHead
        omega
      · exact Or.inr hLater
  steps := fun entry hMem =>
    hFrontier.steps entry (List.mem_cons_of_mem _ hMem)
  sorted := (List.pairwise_cons.mp hFrontier.sorted).2
  distance := hFrontier.distance
  closed := by
    intro z hZ j hDistance y hEdge
    rcases hFrontier.closed z hZ j hDistance y hEdge with
      hY | ⟨i, hI, hQueued⟩ | hCut
    · exact Or.inl hY
    · rcases List.mem_cons.mp hQueued with hHead | hLater
      · cases hHead
        exact Or.inr (Or.inr ⟨trivial, by omega⟩)
      · exact Or.inr (Or.inl ⟨i, hI, hLater⟩)
    · exact Or.inr (Or.inr ⟨trivial, hCut.2⟩)

/-
  A node is visited when what follows it is put at the end of
  the queue, one deeper.
-/
theorem visit
    (hFrontier :
      Frontier Edge seed bound cut visited ((x, k) :: queue))
    (hNew : x ∉ visited)
    (hBound : k < bound)
    (hQueue : ∀ entry ∈ new, entry.2 = k + 1 ∧ Edge x entry.1)
    (hNext : ∀ y, Edge x y →
      y ∈ visited ++ [x] ∨ (y, k + 1) ∈ new) :
    Frontier Edge seed bound cut (visited ++ [x])
      (queue ++ new) where
  start := by
    rcases hFrontier.start with hVisited | hQueued
    · exact Or.inl (List.mem_append_left _ hVisited)
    · rcases List.mem_cons.mp hQueued with hHead | hLater
      · cases hHead
        exact Or.inl
          (List.mem_append_right _ List.mem_cons_self)
      · exact Or.inr (List.mem_append_left _ hLater)
  steps := by
    intro entry hMem
    rcases List.mem_append.mp hMem with hOld | hAdded
    · exact hFrontier.steps entry (List.mem_cons_of_mem _ hOld)
    · rcases hQueue entry hAdded with ⟨hDepth, hEdge⟩
      rw [hDepth]
      exact ⟨x, hFrontier.steps _ List.mem_cons_self, hEdge⟩
  sorted := by
    have hSorted := List.pairwise_cons.mp hFrontier.sorted
    refine List.pairwise_append.mpr ⟨hSorted.2, ?_, ?_⟩
    · apply List.pairwise_of_forall_mem_list
      intro a hA b hB
      rw [(hQueue a hA).1, (hQueue b hB).1]
      omega
    · intro a hA b hB
      have hHead := hSorted.1 a hA
      rw [(hQueue b hB).1]
      dsimp only at hHead
      omega
  distance := by
    intro z hZ
    rcases List.mem_append.mp hZ with hOld | hOnly
    · exact hFrontier.distance z hOld
    · rw [List.mem_singleton.mp hOnly]
      exact ⟨k, hBound, hFrontier.distance_head hNew hBound⟩
  closed := by
    intro z hZ j hDistance y hEdge
    rcases List.mem_append.mp hZ with hOld | hOnly
    · rcases hFrontier.closed z hOld j hDistance y hEdge with
        hY | ⟨i, hI, hQueued⟩ | hCut
      · exact Or.inl (List.mem_append_left _ hY)
      · rcases List.mem_cons.mp hQueued with hHead | hLater
        · cases hHead
          exact Or.inl
            (List.mem_append_right _ List.mem_cons_self)
        · exact Or.inr (Or.inl
            ⟨i, hI, List.mem_append_left _ hLater⟩)
      · exact Or.inr (Or.inr hCut)
    · have hSame : z = x := List.mem_singleton.mp hOnly
      subst hSame
      have hDepth := hDistance.eq
        (hFrontier.distance_head hNew hBound)
      rcases hNext y hEdge with hY | hAdded
      · exact Or.inl hY
      · exact Or.inr (Or.inl ⟨k + 1, by omega,
          List.mem_append_right _ hAdded⟩)

/- With the queue empty every node within the bound is visited. -/
theorem mem_iff
    (hFrontier : Frontier Edge seed bound cut visited []) :
    y ∈ visited ↔ ∃ k < bound, Distance Edge k seed y := by
  constructor
  · exact hFrontier.distance y
  · rintro ⟨k, hBound, hDistance⟩
    by_contra hNew
    rcases hFrontier.exists_queued hDistance.1 hBound hNew with
      ⟨entry, hMem, -⟩
    cases hMem

/- If the search was not cut, so is every node that is reached. -/
theorem mem_iff_reaches
    (hFrontier : Frontier Edge seed bound cut visited [])
    (hWhole : ¬ cut) :
    y ∈ visited ↔ Relation.ReflTransGen Edge seed y := by
  constructor
  · intro hMem
    rcases hFrontier.distance y hMem with ⟨k, -, hDistance⟩
    exact reaches_iff_steps.mpr ⟨k, hDistance.1⟩
  · intro hReach
    induction hReach with
    | refl =>
      rcases hFrontier.start with hVisited | hQueued
      · exact hVisited
      · cases hQueued
    | tail _ hEdge ih =>
      rcases hFrontier.distance _ ih with ⟨k, -, hDistance⟩
      rcases hFrontier.closed _ ih k hDistance _ hEdge with
        hY | ⟨j, -, hQueued⟩ | hCut
      · exact hY
      · cases hQueued
      · exact absurd hCut.1 hWhole

end Frontier

end Breadth
