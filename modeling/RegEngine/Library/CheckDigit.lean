import Mathlib.Data.List.Basic
import Mathlib.Data.Nat.ModEq

/-
  Check digits by a weighted sum of digits: what a digit that
  is replaced and zeros that are added do to the sum.

  Main declarations:
    * `CheckDigit.weighted`
    * `CheckDigit.mod10`
    * `CheckDigit.mod10_eq_iff`
-/

--------
-- Weighted Sums
--------

namespace CheckDigit

variable {weight : Nat → Nat}

/- The digits, each by the weight of its place. -/
def weighted (weight : Nat → Nat) (digits : List Nat) : Nat :=
  (digits.zipIdx.map (fun entry =>
    entry.1 * weight entry.2)).sum

@[simp]
theorem weighted_nil : weighted weight [] = 0 :=
  rfl

/- The sum from a place on is that of the weights from there. -/
theorem sum_zipIdx
    (weight : Nat → Nat)
    (digits : List Nat)
    (start : Nat) :
    ((digits.zipIdx start).map (fun entry =>
      entry.1 * weight entry.2)).sum =
      weighted (fun place => weight (start + place)) digits := by
  induction digits generalizing start weight with
  | nil => rfl
  | cons digit rest ih =>
      have hRest := ih (fun place => weight (start + place)) 1
      rw [weighted, List.zipIdx_cons, List.zipIdx_cons,
        List.map_cons, List.map_cons, List.sum_cons,
        List.sum_cons, ih, hRest]
      simp only [Nat.add_zero, Nat.add_assoc]

@[simp]
theorem weighted_cons
    (digit : Nat)
    (digits : List Nat) :
    weighted weight (digit :: digits) =
      digit * weight 0 +
        weighted (fun place => weight (1 + place)) digits := by
  rw [weighted, List.zipIdx_cons, List.map_cons, List.sum_cons,
    sum_zipIdx, Nat.zero_add]

/- The sum of two lists of digits, one after the other. -/
theorem weighted_append
    (digits later : List Nat) :
    weighted weight (digits ++ later) =
      weighted weight digits +
        weighted (fun place => weight (digits.length + place))
          later := by
  induction digits generalizing weight with
  | nil => simp
  | cons digit rest ih =>
      rw [List.cons_append, weighted_cons, weighted_cons, ih,
        List.length_cons, Nat.add_assoc]
      congr 3
      funext place
      congr 1
      omega

/- Zeros weigh nothing. -/
@[simp]
theorem weighted_replicate_zero (n : Nat) :
    weighted weight (List.replicate n 0) = 0 := by
  induction n generalizing weight with
  | zero => rfl
  | succ n ih =>
      rw [List.replicate_succ, weighted_cons, ih, Nat.zero_mul]

/- Only the weights of the places count. -/
theorem weighted_congr
    {weight' : Nat → Nat}
    {digits : List Nat}
    (hSame : ∀ place, place < digits.length →
      weight place = weight' place) :
    weighted weight digits = weighted weight' digits := by
  induction digits generalizing weight weight' with
  | nil => rfl
  | cons digit rest ih =>
      have hRest : ∀ place, place < rest.length →
          weight (1 + place) = weight' (1 + place) := by
        intro place hPlace
        apply hSame
        rw [List.length_cons]
        omega
      rw [weighted_cons, weighted_cons,
        hSame 0 (Nat.succ_pos _), ih hRest]

/- The reversed digits have the weights of the other end. -/
theorem weighted_reverse (digits : List Nat) :
    weighted weight digits.reverse =
      weighted
        (fun place => weight (digits.length - 1 - place))
        digits := by
  induction digits with
  | nil => rfl
  | cons digit rest ih =>
      have hRest : ∀ place, place < rest.length →
          weight (rest.length - 1 - place) =
            weight (rest.length - (1 + place)) := by
        intro place _
        congr 1
        omega
      rw [List.reverse_cons, weighted_append, ih,
        weighted_congr hRest, weighted_cons, List.length_cons,
        List.length_reverse, Nat.add_sub_cancel]
      simp [Nat.add_comm]

/-
  A digit that is replaced by another one changes the sum when
  its weight has no factor in common with the modulus.
-/
theorem weighted_replace_ne
    {modulus digit digit' : Nat}
    {before after : List Nat}
    (hCoprime :
      Nat.Coprime modulus (weight before.length))
    (hDigit : digit < modulus)
    (hDigit' : digit' < modulus)
    (hNe : digit ≠ digit') :
    weighted weight (before ++ digit :: after) % modulus ≠
      weighted weight (before ++ digit' :: after) % modulus := by
  intro hSame
  apply hNe
  rw [weighted_append, weighted_append, weighted_cons,
    weighted_cons, Nat.add_zero] at hSame
  have hTail : digit * weight before.length ≡
      digit' * weight before.length [MOD modulus] :=
    Nat.ModEq.add_right_cancel' _
      (Nat.ModEq.add_left_cancel' _ hSame)
  have hDigits : digit ≡ digit' [MOD modulus] :=
    Nat.ModEq.cancel_right_of_coprime hCoprime hTail
  exact hDigits.eq_of_lt_of_lt hDigit hDigit'

end CheckDigit

--------
-- Modulus Ten
--------

namespace CheckDigit

/- The digit that brings a sum to a multiple of ten. -/
def mod10 (total : Nat) : Nat :=
  (10 - total % 10) % 10

/- A digit is that one just when the sum with it is a multiple. -/
theorem mod10_eq_iff
    {total digit : Nat}
    (hDigit : digit < 10) :
    mod10 total = digit ↔ (total + digit) % 10 = 0 := by
  unfold mod10
  omega

end CheckDigit
