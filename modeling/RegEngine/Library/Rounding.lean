import Mathlib.Algebra.Order.Floor.Ring
import Mathlib.Data.Rat.Floor
import Mathlib.Tactic.Linarith

/-
  Rounding to a number of decimal places, a half to the even
  neighbour.

  Main declarations:
    * `Rounding.halfEven`
    * `Rounding.toPlaces`
    * `Rounding.toPlaces_mono`
-/

--------
-- Half to Even
--------

namespace Rounding

/- The nearest integer, and the even one of two. -/
def halfEven (x : ℚ) : ℤ :=
  if x - ⌊x⌋ < 1 / 2 then
    ⌊x⌋
  else if 1 / 2 < x - ⌊x⌋ then
    ⌊x⌋ + 1
  else if ⌊x⌋ % 2 = 0 then
    ⌊x⌋
  else
    ⌊x⌋ + 1

/- The result is the integer below or the one above. -/
theorem floor_le_halfEven (x : ℚ) :
    ⌊x⌋ ≤ halfEven x ∧ halfEven x ≤ ⌊x⌋ + 1 := by
  unfold halfEven
  split
  · omega
  · split
    · omega
    · split <;> omega

/- Rounding keeps the order. -/
theorem halfEven_mono
    {x y : ℚ}
    (hLe : x ≤ y) :
    halfEven x ≤ halfEven y := by
  rcases (Int.floor_mono hLe).lt_or_eq with hLess | hEq
  · calc halfEven x
        ≤ ⌊x⌋ + 1 := (floor_le_halfEven x).2
      _ ≤ ⌊y⌋ := hLess
      _ ≤ halfEven y := (floor_le_halfEven y).1
  · unfold halfEven
    rw [hEq]
    have hFraction : x - ⌊y⌋ ≤ y - ⌊y⌋ := by linarith
    by_cases hLow : y - ⌊y⌋ < 1 / 2
    · rw [if_pos (lt_of_le_of_lt hFraction hLow), if_pos hLow]
    · rw [if_neg hLow]
      by_cases hHigh : 1 / 2 < y - ⌊y⌋
      · rw [if_pos hHigh, ← hEq]
        exact (floor_le_halfEven x).2
      · rw [if_neg hHigh]
        by_cases hBelow : x - ⌊y⌋ < 1 / 2
        · rw [if_pos hBelow]
          split <;> omega
        · have hNot : ¬ 1 / 2 < x - ⌊y⌋ := by
            intro hMore
            exact hHigh (lt_of_lt_of_le hMore hFraction)
          rw [if_neg hBelow, if_neg hNot]

/- An integer is rounded to itself. -/
theorem halfEven_intCast (n : ℤ) : halfEven n = n := by
  simp [halfEven]

end Rounding

--------
-- Decimal Places
--------

namespace Rounding

/- `round(x, places)`. -/
def toPlaces (places : Nat) (x : ℚ) : ℚ :=
  halfEven (x * 10 ^ places) / 10 ^ places

/- Rounding to some places keeps the order. -/
theorem toPlaces_mono
    (places : Nat)
    {x y : ℚ}
    (hLe : x ≤ y) :
    toPlaces places x ≤ toPlaces places y := by
  have hPos : (0 : ℚ) < 10 ^ places := by positivity
  apply div_le_div_of_nonneg_right _ hPos.le
  exact Int.cast_le.mpr
    (halfEven_mono (mul_le_mul_of_nonneg_right hLe hPos.le))

/- A rounded number is rounded to itself. -/
theorem toPlaces_toPlaces
    (places : Nat)
    (x : ℚ) :
    toPlaces places (toPlaces places x) = toPlaces places x := by
  have hPos : (0 : ℚ) < 10 ^ places := by positivity
  have hCancel :
      toPlaces places x * 10 ^ places =
        halfEven (x * 10 ^ places) := by
    rw [toPlaces, div_mul_cancel₀ _ hPos.ne']
  conv_lhs => rw [toPlaces, hCancel, halfEven_intCast]
  rfl

end Rounding
