import Mathlib.Algebra.BigOperators.Group.List.Basic
import Mathlib.Algebra.GroupWithZero.Nat
import Mathlib.Data.Finset.Card
import Mathlib.Data.List.Nodup
import Mathlib.Logic.Relation

/-
  The search of a graph with a list of what is to be visited
  and a list of what was seen, bounded by fuel, induction
  along a graph without cycles, and walks of bounded length.

  Main declarations:
    * `Worklist.search`
    * `Worklist.Enough`
    * `Reachability.within_iff_steps`
-/

--------
-- The Search
--------

namespace Worklist

variable {α : Type} [DecidableEq α]

/-
  Take the first of the list; unless it was seen, note it
  and put what follows it at the end.
-/
def search (next : α → List α) :
    Nat → List α → List α → List α
| 0, _, seen => seen
| _ + 1, [], seen => seen
| fuel + 1, x :: todo, seen =>
    if x ∈ seen then
      search next fuel todo seen
    else
      search next fuel (todo ++ next x) (seen ++ [x])

/- What the nodes not seen can still put on the list. -/
def pending
    (next : α → List α)
    (nodes seen : List α) : Nat :=
  ((nodes.filter (fun x => x ∉ seen)).map (fun x =>
    (next x).length)).sum

/- The nodes hold all that can come onto the list. -/
structure Enough
    (next : α → List α)
    (nodes : List α)
    (fuel : Nat)
    (todo seen : List α) : Prop where
  nodup : nodes.Nodup
  todo_mem : ∀ x ∈ todo, x ∈ nodes
  next_mem : ∀ x ∈ nodes, ∀ y ∈ next x, y ∈ nodes
  bound : todo.length + pending next nodes seen ≤ fuel

end Worklist

--------
-- What It Sees
--------

namespace Worklist

variable {α : Type} [DecidableEq α]
variable {next : α → List α} {fuel : Nat}

/- Seeing one node takes its successors off the bound. -/
theorem pending_append
    {nodes seen : List α}
    (hNodup : nodes.Nodup)
    {x : α}
    (hMem : x ∈ nodes)
    (hNew : x ∉ seen) :
    pending next nodes (seen ++ [x]) + (next x).length =
      pending next nodes seen := by
  unfold pending
  induction nodes with
  | nil => cases hMem
  | cons y rest ih =>
    rw [List.nodup_cons] at hNodup
    by_cases hSame : y = x
    · subst hSame
      have hRest :
          rest.filter (fun z => z ∉ seen ++ [y]) =
            rest.filter (fun z => z ∉ seen) := by
        apply List.filter_congr
        intro z hZ
        have hNe : z ≠ y := by
          rintro rfl
          exact hNodup.1 hZ
        simp [hNe]
      rw [List.filter_cons_of_neg (by simp),
        List.filter_cons_of_pos (by simpa using hNew), hRest]
      simp only [List.map_cons, List.sum_cons]
      omega
    · have hRest := ih hNodup.2
        (List.mem_of_ne_of_mem (Ne.symm hSame) hMem)
      by_cases hSeen : y ∈ seen
      · rw [List.filter_cons_of_neg (by simp [hSeen]),
          List.filter_cons_of_neg (by simpa using hSeen)]
        exact hRest
      · rw [List.filter_cons_of_pos (by simp [hSeen, hSame]),
          List.filter_cons_of_pos (by simpa using hSeen)]
        simp only [List.map_cons, List.sum_cons]
        omega

variable {nodes : List α}

/-
  With enough fuel the search sees what was seen, what is to
  be visited and, after what it sees, everything that follows.
-/
theorem search_closed
    {todo seen : List α}
    (hEnough : Enough next nodes fuel todo seen)
    (hSeen :
      ∀ x ∈ seen, ∀ y ∈ next x, y ∈ seen ∨ y ∈ todo) :
    (∀ x ∈ seen, x ∈ search next fuel todo seen) ∧
      (∀ x ∈ todo, x ∈ search next fuel todo seen) ∧
      ∀ x ∈ search next fuel todo seen, ∀ y ∈ next x,
        y ∈ search next fuel todo seen := by
  induction fuel generalizing todo seen with
  | zero =>
    have hNone : todo = [] := by
      have hFuel := hEnough.bound
      exact List.eq_nil_of_length_eq_zero (by omega)
    subst hNone
    refine ⟨fun x hMem => hMem, by simp, ?_⟩
    intro x hMem y hNext
    exact (hSeen x hMem y hNext).resolve_right
      List.not_mem_nil
  | succ fuel ih =>
    cases todo with
    | nil =>
      refine ⟨fun x hMem => hMem, by simp, ?_⟩
      intro x hMem y hNext
      exact (hSeen x hMem y hNext).resolve_right
        List.not_mem_nil
    | cons first todo =>
      have hFuel := hEnough.bound
      rw [List.length_cons] at hFuel
      unfold search
      by_cases hOld : first ∈ seen
      · rw [if_pos hOld]
        have hRest : Enough next nodes fuel todo seen :=
          ⟨hEnough.nodup,
            fun x hMem =>
              hEnough.todo_mem x (List.mem_cons_of_mem _ hMem),
            hEnough.next_mem, by omega⟩
        rcases ih hRest
            (by
              intro x hMem y hNext
              rcases hSeen x hMem y hNext with hIn | hTodo
              · exact Or.inl hIn
              · rcases List.mem_cons.mp hTodo with rfl | hRest
                · exact Or.inl hOld
                · exact Or.inr hRest) with
          ⟨hKept, hDone, hClosed⟩
        refine ⟨hKept, ?_, hClosed⟩
        intro x hMem
        rcases List.mem_cons.mp hMem with rfl | hRest
        · exact hKept _ hOld
        · exact hDone x hRest
      · rw [if_neg hOld]
        have hFirst := hEnough.todo_mem first List.mem_cons_self
        have hDrop :
            pending next nodes (seen ++ [first]) +
                (next first).length =
              pending next nodes seen :=
          pending_append hEnough.nodup hFirst hOld
        have hLater :
            Enough next nodes fuel (todo ++ next first)
              (seen ++ [first]) := by
          refine ⟨hEnough.nodup, ?_, hEnough.next_mem, ?_⟩
          · intro x hMem
            rcases List.mem_append.mp hMem with hRest | hNext
            · exact hEnough.todo_mem x
                (List.mem_cons_of_mem _ hRest)
            · exact hEnough.next_mem first hFirst x hNext
          · rw [List.length_append]
            omega
        rcases ih hLater
            (by
              intro x hMem y hNext
              rcases List.mem_append.mp hMem with hIn | hOnly
              · rcases hSeen x hIn y hNext with hY | hTodo
                · exact Or.inl (List.mem_append_left _ hY)
                · rcases List.mem_cons.mp hTodo with rfl | hRest
                  · exact Or.inl (List.mem_append_right _
                      (List.mem_singleton_self _))
                  · exact Or.inr
                      (List.mem_append_left _ hRest)
              · rw [List.mem_singleton.mp hOnly] at hNext
                exact Or.inr (List.mem_append_right _ hNext))
          with ⟨hKept, hDone, hClosed⟩
        refine ⟨?_, ?_, hClosed⟩
        · intro x hMem
          exact hKept x (List.mem_append_left _ hMem)
        · intro x hMem
          rcases List.mem_cons.mp hMem with rfl | hRest
          · exact hKept _ (List.mem_append_right _
              (List.mem_singleton_self _))
          · exact hDone x (List.mem_append_left _ hRest)

/- The search sees only what follows what it started from. -/
theorem mem_search_reach
    {todo seen : List α}
    {y : α}
    (hMem : y ∈ search next fuel todo seen) :
    y ∈ seen ∨
      ∃ x ∈ todo,
        Relation.ReflTransGen (fun a b => b ∈ next a) x y := by
  induction fuel generalizing todo seen with
  | zero => exact Or.inl hMem
  | succ fuel ih =>
    cases todo with
    | nil => exact Or.inl hMem
    | cons first todo =>
      unfold search at hMem
      by_cases hOld : first ∈ seen
      · rw [if_pos hOld] at hMem
        rcases ih hMem with hSeen | ⟨x, hTodo, hReach⟩
        · exact Or.inl hSeen
        · exact Or.inr
            ⟨x, List.mem_cons_of_mem _ hTodo, hReach⟩
      · rw [if_neg hOld] at hMem
        rcases ih hMem with hSeen | ⟨x, hTodo, hReach⟩
        · rcases List.mem_append.mp hSeen with hIn | hOnly
          · exact Or.inl hIn
          · rw [List.mem_singleton.mp hOnly]
            exact Or.inr ⟨first, List.mem_cons_self, .refl⟩
        · rcases List.mem_append.mp hTodo with hRest | hNext
          · exact Or.inr
              ⟨x, List.mem_cons_of_mem _ hRest, hReach⟩
          · exact Or.inr ⟨first, List.mem_cons_self,
              .head hNext hReach⟩

/- With enough fuel the search sees all that can be reached. -/
theorem mem_search_iff
    {todo : List α}
    (hEnough : Enough next nodes fuel todo [])
    {y : α} :
    y ∈ search next fuel todo [] ↔
      ∃ x ∈ todo,
        Relation.ReflTransGen (fun a b => b ∈ next a) x y := by
  rcases search_closed hEnough (by simp) with
    ⟨-, hTodo, hClosed⟩
  constructor
  · intro hMem
    exact (mem_search_reach hMem).resolve_left
      List.not_mem_nil
  · rintro ⟨x, hMem, hReach⟩
    have hStart := hTodo x hMem
    clear hTodo
    induction hReach with
    | refl => exact hStart
    | tail _ hNext ih => exact hClosed _ ih _ hNext

end Worklist

--------
-- Below A Node Without Cycles
--------

namespace Reachability

variable {α : Type} {Edge : α → α → Prop}

/- No node that can be reached from here is on a cycle. -/
def AcyclicBelow (Edge : α → α → Prop) (x : α) : Prop :=
  ∀ y, Relation.ReflTransGen Edge x y →
    ¬ Relation.TransGen Edge y y

variable {x y : α} {nodes : Finset α}

theorem AcyclicBelow.step
    (hAcyclic : AcyclicBelow Edge x)
    (hEdge : Edge x y) :
    AcyclicBelow Edge y :=
  fun z hReach => hAcyclic z (.head hEdge hReach)

/- The nodes that can be reached in one step or more. -/
noncomputable def below
    (Edge : α → α → Prop)
    (nodes : Finset α)
    (x : α) : Finset α :=
  open Classical in
  nodes.filter (Relation.TransGen Edge x)

theorem mem_below
    {x y : α} :
    y ∈ below Edge nodes x ↔
      y ∈ nodes ∧ Relation.TransGen Edge x y := by
  classical
  unfold below
  exact Finset.mem_filter

/- A step leaves fewer nodes below. -/
theorem card_below_lt
    (hNodes : ∀ x y, Edge x y → y ∈ nodes)
    (hAcyclic : AcyclicBelow Edge x)
    (hEdge : Edge x y) :
    (below Edge nodes y).card < (below Edge nodes x).card := by
  apply Finset.card_lt_card
  rw [Finset.ssubset_iff_of_subset]
  · refine ⟨y, ?_, ?_⟩
    · exact mem_below.mpr ⟨hNodes x y hEdge, .single hEdge⟩
    · intro hMem
      exact hAcyclic y (.single hEdge) (mem_below.mp hMem).2
  · intro z hMem
    rcases mem_below.mp hMem with ⟨hNode, hBelow⟩
    exact mem_below.mpr ⟨hNode, .head hEdge hBelow⟩

/-
  Where finitely many nodes are below and none on a cycle, what
  holds of a node when it holds of its successors holds.
-/
theorem AcyclicBelow.induction
    (nodes : Finset α)
    (P : α → Prop)
    (hNodes : ∀ x y, Edge x y → y ∈ nodes)
    (hStep : ∀ x, AcyclicBelow Edge x →
      (∀ y, Edge x y → P y) → P x)
    {x : α}
    (hAcyclic : AcyclicBelow Edge x) :
    P x := by
  induction hCard : (below Edge nodes x).card
    using Nat.strong_induction_on generalizing x with
  | _ n ih =>
    apply hStep x hAcyclic
    intro y hEdge
    apply ih (below Edge nodes y).card _ (hAcyclic.step hEdge)
      rfl
    rw [← hCard]
    exact card_below_lt hNodes hAcyclic hEdge

end Reachability

--------
-- Bounded Walks
--------

namespace Reachability

variable {α : Type} {Edge : α → α → Prop}

/- A node is reached in at most so many steps. -/
def Within (Edge : α → α → Prop) : Nat → α → α → Prop
| 0, x, y => x = y
| n + 1, x, y => x = y ∨ ∃ z, Edge x z ∧ Within Edge n z y

/- Every node is reached from itself. -/
theorem Within.refl
    (n : Nat)
    (x : α) :
    Within Edge n x x := by
  cases n with
  | zero => rfl
  | succ n => exact Or.inl rfl

variable {n : Nat} {x y : α}

/- One more step may be taken at the end. -/
theorem Within.tail
    {x y z : α}
    (hWithin : Within Edge n x y)
    (hEdge : Edge y z) :
    Within Edge (n + 1) x z := by
  induction n generalizing x with
  | zero =>
    rw [show x = y from hWithin]
    exact Or.inr ⟨z, hEdge, rfl⟩
  | succ n ih =>
    rcases hWithin with rfl | ⟨next, hFirst, hRest⟩
    · exact Or.inr ⟨z, hEdge, Within.refl _ z⟩
    · exact Or.inr ⟨next, hFirst, ih hRest⟩

/- A walk may take one step less. -/
theorem Within.mono
    (hWithin : Within Edge n x y) :
    Within Edge (n + 1) x y := by
  induction n generalizing x with
  | zero => exact Or.inl hWithin
  | succ n ih =>
    rcases hWithin with rfl | ⟨z, hEdge, hRest⟩
    · exact Within.refl _ _
    · exact Or.inr ⟨z, hEdge, ih hRest⟩

/- What is reached in a bounded walk can be reached. -/
theorem Within.reaches
    (hWithin : Within Edge n x y) :
    Relation.ReflTransGen Edge x y := by
  induction n generalizing x with
  | zero =>
    rw [show x = y from hWithin]
  | succ n ih =>
    rcases hWithin with rfl | ⟨z, hEdge, hRest⟩
    · exact .refl
    · exact .head hEdge (ih hRest)

/-
  A walk that reaches no node only with its last step reaches
  all that can be reached.
-/
theorem within_of_no_frontier
    (hNone : ∀ z, Within Edge (n + 1) x z → Within Edge n x z)
    (hReach : Relation.ReflTransGen Edge x y) :
    Within Edge n x y := by
  induction hReach with
  | refl => exact Within.refl n x
  | tail _ hEdge ih => exact hNone _ (ih.tail hEdge)

/- A node is reached in exactly so many steps. -/
def Steps (Edge : α → α → Prop) : Nat → α → α → Prop
| 0, x, y => x = y
| n + 1, x, y => ∃ z, Steps Edge n x z ∧ Edge z y

/- One more step may be taken at the start. -/
theorem Steps.head
    {x y z : α}
    (hEdge : Edge x y)
    (hSteps : Steps Edge n y z) :
    Steps Edge (n + 1) x z := by
  induction n generalizing z with
  | zero =>
    rw [← show y = z from hSteps]
    exact ⟨x, rfl, hEdge⟩
  | succ n ih =>
    rcases hSteps with ⟨w, hFirst, hLast⟩
    exact ⟨w, ih hFirst, hLast⟩

/- A bounded walk has some number of steps. -/
theorem within_iff_steps
    {x y : α} :
    Within Edge n x y ↔ ∃ k ≤ n, Steps Edge k x y := by
  constructor
  · intro hWithin
    induction n generalizing x with
    | zero => exact ⟨0, Nat.le_refl _, hWithin⟩
    | succ n ih =>
      rcases hWithin with rfl | ⟨z, hEdge, hRest⟩
      · exact ⟨0, Nat.zero_le _, rfl⟩
      · rcases ih hRest with ⟨k, hLe, hSteps⟩
        exact ⟨k + 1, Nat.succ_le_succ hLe, hSteps.head hEdge⟩
  · rintro ⟨k, hLe, hSteps⟩
    induction n generalizing k y with
    | zero =>
      rw [Nat.le_zero.mp hLe] at hSteps
      exact hSteps
    | succ n ih =>
      cases k with
      | zero =>
        rw [show x = y from hSteps]
        exact Within.refl _ y
      | succ k =>
        rcases hSteps with ⟨z, hFirst, hLast⟩
        exact (ih k (Nat.le_of_succ_le_succ hLe) hFirst).tail
          hLast

end Reachability
