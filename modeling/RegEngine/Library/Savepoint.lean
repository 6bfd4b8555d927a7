import Mathlib.Data.List.Basic

/-
  Transactions with savepoints inside savepoints, each released
  or rolled back: which calls survive, and a list beside the
  transaction that every rollback empties.

  Main declarations:
    * `Savepoint.Work`
    * `Savepoint.survivors`
    * `Savepoint.sinceUndone`
-/

--------
-- Work
--------

namespace Savepoint

/- Calls and savepoints, one after the other. -/
inductive Work (α : Type) where
  | done
  | call (a : α) (rest : Work α)
  | nested (released : Bool) (body rest : Work α)

/- A call that survives, or a savepoint that is rolled back. -/
inductive Mark (α : Type) where
  | kept (a : α)
  | undone

variable {α : Type}

namespace Mark

def isKept : Mark α → Bool
| kept _ => true
| undone => false

def call? : Mark α → Option α
| kept a => some a
| undone => none

/- The list after a mark, when a rollback empties it. -/
def sinceUndone (pending : List α) : Mark α → List α
| kept a => pending ++ [a]
| undone => []

end Mark

/-
  What is left of some work, in order: calls that a savepoint
  around them undoes are gone with what is inside it.
-/
def marks : Work α → List (Mark α)
| .done => []
| .call a rest => .kept a :: marks rest
| .nested true body rest => marks body ++ marks rest
| .nested false _ rest => .undone :: marks rest

/- The calls that survive. -/
def survivors (work : Work α) : List α :=
  (marks work).filterMap Mark.call?

/- No savepoint is rolled back after a call that survives. -/
def UndoneFirst (work : Work α) : Prop :=
  (marks work).Pairwise (fun before after =>
    before.isKept = true → after.isKept = true)

instance (work : Work α) : Decidable (UndoneFirst work) :=
  inferInstanceAs (Decidable (List.Pairwise _ _))

/- The calls since the last rollback, after those pending. -/
def sinceUndone (pending : List α) (work : Work α) : List α :=
  (marks work).foldl Mark.sinceUndone pending

end Savepoint

--------
-- Since The Last Rollback
--------

namespace Savepoint

variable {α : Type} {pending : List α} {trace : List (Mark α)}

/- What is pending in the end is pending already or survives. -/
theorem foldl_sinceUndone_sublist :
    (trace.foldl Mark.sinceUndone pending).Sublist
      (pending ++ trace.filterMap Mark.call?) := by
  induction trace generalizing pending with
  | nil =>
    rw [List.filterMap_nil, List.append_nil]
    exact List.Sublist.refl _
  | cons mark trace ih =>
    cases mark with
    | kept a =>
      rw [List.foldl_cons, List.filterMap_cons]
      have hRest := @ih (pending ++ [a])
      rw [List.append_assoc] at hRest
      exact hRest
    | undone =>
      rw [List.foldl_cons, List.filterMap_cons]
      exact ih.trans (List.sublist_append_right pending _)

/- All of it is when no rollback follows what is pending. -/
theorem foldl_sinceUndone_eq_iff :
    trace.foldl Mark.sinceUndone pending =
        pending ++ trace.filterMap Mark.call? ↔
      trace.Pairwise (fun before after =>
          before.isKept = true → after.isKept = true) ∧
        (pending ≠ [] → ∀ mark ∈ trace, mark.isKept = true) := by
  induction trace generalizing pending with
  | nil => simp
  | cons mark trace ih =>
    cases mark with
    | kept a =>
      have hRest := @ih (pending ++ [a])
      rw [List.append_assoc] at hRest
      rw [List.foldl_cons, List.filterMap_cons,
        List.pairwise_cons]
      refine hRest.trans ⟨?_, ?_⟩
      · rintro ⟨hOrder, hKept⟩
        have hAll := hKept (by simp)
        refine ⟨⟨fun mark hMem _ => hAll mark hMem, hOrder⟩, ?_⟩
        intro _ mark hMem
        rcases List.mem_cons.mp hMem with rfl | hLater
        · rfl
        · exact hAll mark hLater
      · rintro ⟨⟨hKept, hOrder⟩, -⟩
        exact ⟨hOrder, fun _ mark hMem => hKept mark hMem rfl⟩
    | undone =>
      rw [List.foldl_cons, List.filterMap_cons,
        List.pairwise_cons]
      cases pending with
      | nil =>
        refine (@ih []).trans ⟨?_, ?_⟩
        · rintro ⟨hOrder, -⟩
          refine ⟨⟨fun _ _ hNone => ?_, hOrder⟩, ?_⟩
          · cases hNone
          · exact fun hNone => absurd rfl hNone
        · rintro ⟨⟨-, hOrder⟩, -⟩
          exact ⟨hOrder, fun hNone => absurd rfl hNone⟩
      | cons first pending =>
        refine iff_of_false ?_ ?_
        · intro hSame
          have hFew := (@foldl_sinceUndone_sublist α []
            trace).length_le
          change List.foldl Mark.sinceUndone [] trace = _ at hSame
          rw [hSame] at hFew
          simp only [List.length_append, List.length_cons,
            List.length_nil, Mark.call?] at hFew
          omega
        · rintro ⟨-, hKept⟩
          have hMark := hKept (List.cons_ne_nil _ _) .undone
            List.mem_cons_self
          cases hMark

variable {work : Work α}

theorem sinceUndone_sublist :
    (sinceUndone [] work).Sublist (survivors work) := by
  have hSublist :=
    @foldl_sinceUndone_sublist α [] (marks work)
  rwa [List.nil_append] at hSublist

theorem sinceUndone_eq_iff :
    sinceUndone [] work = survivors work ↔
      UndoneFirst work := by
  refine (@foldl_sinceUndone_eq_iff α [] (marks work)).trans ?_
  exact and_iff_left fun hNone => absurd rfl hNone

end Savepoint
