import Mathlib.Data.List.Basic

/-
  The newest of the things seen so far, when only some of them
  count and no two have the same time stamp.

  Main declarations:
    * `Newest.IsNewest`
    * `Newest.Holds`
    * `Newest.holds_cons_of_older`
-/

namespace Newest

variable {α : Type} {stamp : α → Nat} {Counts : α → Prop}

/- No thing that counts is newer than this one. -/
structure IsNewest
    (stamp : α → Nat)
    (Counts : α → Prop)
    (seen : List α)
    (a : α) : Prop where
  mem : a ∈ seen
  counts : Counts a
  le : ∀ b ∈ seen, Counts b → stamp b ≤ stamp a

/- What holds of the newest thing, if there is one. -/
def Holds
    (stamp : α → Nat)
    (Counts : α → Prop)
    (seen : List α)
    (P : α → Prop) : Prop :=
  ∀ a, IsNewest stamp Counts seen a → P a

/- Nothing was seen. -/
theorem holds_nil
    {P : α → Prop} :
    Holds stamp Counts [] P := by
  rintro a ⟨hMem, -, -⟩
  cases hMem

variable {seen : List α} {b : α}

/- A thing that does not count changes nothing. -/
theorem isNewest_cons_of_silent
    (hSilent : ¬ Counts b)
    {a : α} :
    IsNewest stamp Counts (b :: seen) a ↔
      IsNewest stamp Counts seen a := by
  constructor
  · rintro ⟨hMem, hCounts, hLe⟩
    refine ⟨?_, hCounts, fun c hC =>
      hLe c (List.mem_cons_of_mem _ hC)⟩
    rcases List.mem_cons.mp hMem with rfl | hSeen
    · exact absurd hCounts hSilent
    · exact hSeen
  · rintro ⟨hMem, hCounts, hLe⟩
    refine ⟨List.mem_cons_of_mem _ hMem, hCounts, ?_⟩
    intro c hC hCCounts
    rcases List.mem_cons.mp hC with rfl | hSeen
    · exact absurd hCCounts hSilent
    · exact hLe c hSeen hCCounts

variable {c : α}

/- Nor does one that is older than another one that counts. -/
theorem isNewest_cons_of_older
    (hMem : c ∈ seen)
    (hCounts : Counts c)
    (hOlder : stamp b < stamp c)
    {a : α} :
    IsNewest stamp Counts (b :: seen) a ↔
      IsNewest stamp Counts seen a := by
  constructor
  · rintro ⟨hA, hACounts, hLe⟩
    refine ⟨?_, hACounts, fun d hD =>
      hLe d (List.mem_cons_of_mem _ hD)⟩
    rcases List.mem_cons.mp hA with rfl | hSeen
    · have hBound :=
        hLe c (List.mem_cons_of_mem _ hMem) hCounts
      omega
    · exact hSeen
  · rintro ⟨hA, hACounts, hLe⟩
    refine ⟨List.mem_cons_of_mem _ hA, hACounts, ?_⟩
    intro d hD hDCounts
    rcases List.mem_cons.mp hD with rfl | hSeen
    · have hBound := hLe c hMem hCounts
      omega
    · exact hLe d hSeen hDCounts

/- One that is not older than any that counts is the newest. -/
theorem isNewest_cons_self
    (hCounts : Counts b)
    (hNewest :
      ∀ c ∈ seen, Counts c → stamp c ≤ stamp b) :
    IsNewest stamp Counts (b :: seen) b := by
  refine ⟨List.mem_cons_self, hCounts, ?_⟩
  intro c hMem hC
  rcases List.mem_cons.mp hMem with rfl | hSeen
  · exact Nat.le_refl _
  · exact hNewest c hSeen hC

variable {P : α → Prop}

theorem holds_cons_of_silent
    (hHolds : Holds stamp Counts seen P)
    (hSilent : ¬ Counts b) :
    Holds stamp Counts (b :: seen) P := by
  intro a hNewest
  exact hHolds a ((isNewest_cons_of_silent hSilent).mp hNewest)

theorem holds_cons_of_older
    (hHolds : Holds stamp Counts seen P)
    (hMem : c ∈ seen)
    (hCounts : Counts c)
    (hOlder : stamp b < stamp c) :
    Holds stamp Counts (b :: seen) P := by
  intro a hNewest
  exact hHolds a
    ((isNewest_cons_of_older hMem hCounts hOlder).mp hNewest)

theorem holds_cons_of_newest
    (hDistinct : ∀ c ∈ seen, stamp c = stamp b → c = b)
    (hCounts : Counts b)
    (hNewest : ∀ c ∈ seen, Counts c → stamp c ≤ stamp b)
    (hHere : P b) :
    Holds stamp Counts (b :: seen) P := by
  rintro a ⟨hMem, hACounts, hLe⟩
  rcases List.mem_cons.mp hMem with rfl | hSeen
  · exact hHere
  · have hAbove := hLe b List.mem_cons_self hCounts
    have hBelow := hNewest a hSeen hACounts
    rw [hDistinct a hSeen (Nat.le_antisymm hBelow hAbove)]
    exact hHere

/- What holds of one newest thing holds of all of them. -/
theorem holds_of_isNewest
    (hDistinct :
      ∀ c ∈ seen, ∀ d ∈ seen, stamp c = stamp d → c = d)
    (hNewest : IsNewest stamp Counts seen b)
    (hHere : P b) :
    Holds stamp Counts seen P := by
  intro a hOther
  have hSame : stamp a = stamp b :=
    Nat.le_antisymm (hNewest.le a hOther.mem hOther.counts)
      (hOther.le b hNewest.mem hNewest.counts)
  rw [hDistinct a hOther.mem b hNewest.mem hSame]
  exact hHere

/- The order and the number of the things do not matter. -/
theorem holds_of_mem_iff
    {other : List α}
    (hHolds : Holds stamp Counts seen P)
    (hSame : ∀ a, a ∈ other ↔ a ∈ seen) :
    Holds stamp Counts other P := by
  rintro a ⟨hMem, hCounts, hLe⟩
  refine hHolds a ⟨(hSame a).mp hMem, hCounts, ?_⟩
  intro c hC
  exact hLe c ((hSame c).mpr hC)

end Newest
