import Mathlib.Data.List.Pairwise

/-
  A monitor that judges each arrival against those before it:
  when it looks for an earlier partner under a symmetric
  relation, what it finds does not depend on the order.

  Main declarations:
    * `Arrivals.verdicts`
    * `Arrivals.Partnered`
    * `Arrivals.detects_iff`
-/

--------
-- Verdicts
--------

namespace Arrivals

variable {α β : Type} {judge : List α → α → β}

def verdicts
    (judge : List α → α → β) :
    List α → List α → List β
| _, [] => []
| before, x :: rest =>
    judge before x :: verdicts judge (before ++ [x]) rest

/- A verdict is on an arrival and those before it. -/
theorem exists_verdict_iff
    {before arrived : List α}
    {Alarm : β → Prop} :
    (∃ verdict ∈ verdicts judge before arrived,
        Alarm verdict) ↔
      ∃ earlier x later,
        arrived = earlier ++ x :: later ∧
          Alarm (judge (before ++ earlier) x) := by
  induction arrived generalizing before with
  | nil => simp [verdicts]
  | cons x rest ih =>
      simp only [verdicts, List.mem_cons, exists_eq_or_imp, ih]
      constructor
      · rintro (hFirst | ⟨earlier, y, later, hSplit, hAlarm⟩)
        · exact ⟨[], x, rest, rfl, by simpa using hFirst⟩
        · refine ⟨x :: earlier, y, later, ?_, ?_⟩
          · rw [hSplit, List.cons_append]
          · simpa using hAlarm
      · rintro ⟨earlier, y, later, hSplit, hAlarm⟩
        cases earlier with
        | nil =>
            rcases List.cons_eq_cons.mp hSplit with ⟨rfl, -⟩
            exact Or.inl (by simpa using hAlarm)
        | cons first earlier =>
            rcases List.cons_eq_cons.mp hSplit with ⟨rfl, hRest⟩
            exact Or.inr
              ⟨earlier, y, later, hRest, by simpa using hAlarm⟩

end Arrivals

--------
-- Partners
--------

namespace Arrivals

variable {α β : Type} {judge : List α → α → β}
variable {arrived : List α} {Alarm : β → Prop}
variable {R : α → α → Prop}

/-
  Along these arrivals the monitor raises an alarm on one that
  has a partner among those before it, and on no other.
-/
def Partnered
    (judge : List α → α → β)
    (Alarm : β → Prop)
    (R : α → α → Prop)
    (arrived : List α) : Prop :=
  ∀ earlier x later, arrived = earlier ++ x :: later →
    (Alarm (judge earlier x) ↔ ∃ y ∈ earlier, R y x)

/- No alarm is raised when no two arrivals are partners. -/
theorem exists_alarm_iff
    (hPartnered : Partnered judge Alarm R arrived) :
    (∃ verdict ∈ verdicts judge [] arrived, Alarm verdict) ↔
      ¬ arrived.Pairwise (fun y x => ¬ R y x) := by
  simp only [exists_verdict_iff, List.nil_append]
  constructor
  · rintro ⟨earlier, x, later, hSplit, hAlarm⟩ hPairwise
    rcases (hPartnered earlier x later hSplit).mp hAlarm with
      ⟨y, hEarlier, hPartner⟩
    rw [hSplit, List.pairwise_append] at hPairwise
    exact hPairwise.2.2 y hEarlier x List.mem_cons_self
      hPartner
  · intro hPairwise
    by_contra hNone
    apply hPairwise
    rw [List.pairwise_iff_getElem]
    intro i j hI hJ hLess hPartner
    have hCut :
        arrived =
          arrived.take j ++ arrived[j] :: arrived.drop (j + 1) := by
      rw [← List.drop_eq_getElem_cons hJ, List.take_append_drop]
    apply hNone
    refine ⟨_, _, _, hCut, (hPartnered _ _ _ hCut).mpr ?_⟩
    refine ⟨arrived[i], ?_, hPartner⟩
    exact List.mem_take_iff_getElem.mpr ⟨i, by omega, rfl⟩

/-
  For a symmetric relation that relates nothing to itself, an
  alarm is raised when the arrivals hold two partners, in
  whatever order they came.
-/
theorem detects_iff
    (hPartnered : Partnered judge Alarm R arrived)
    (hSymm : ∀ x y, R x y → R y x)
    (hIrrefl : ∀ x, ¬ R x x) :
    (∃ verdict ∈ verdicts judge [] arrived, Alarm verdict) ↔
      ∃ x ∈ arrived, ∃ y ∈ arrived, R x y := by
  rw [exists_alarm_iff hPartnered, not_iff_comm]
  constructor
  · intro hNone
    apply List.pairwise_of_forall_mem_list
    intro x hX y hY hPartner
    exact hNone ⟨x, hX, y, hY, hPartner⟩
  · rintro hPairwise ⟨x, hX, y, hY, hPartner⟩
    have : Std.Symm (fun x y => ¬ R x y) :=
      ⟨fun a b hNot hPair => hNot (hSymm b a hPair)⟩
    exact List.Pairwise.forall_of_forall
      (fun z _ => hIrrefl z) hPairwise hX hY hPartner

end Arrivals
