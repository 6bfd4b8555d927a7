import Mathlib.Algebra.GroupWithZero.Nat
import RegEngine.Library.Python

/-
  Texts as lists of characters: `str.strip`, and the digits
  of every script that `str.isdigit`, the pattern `\d` and
  `int` know.

  Main declarations:
    * `Chars.strip`
    * `Chars.isDigit`
    * `Chars.intOfDigits`
-/

--------
-- White Space
--------

namespace Chars

/- `text.strip()`. -/
def strip (text : List Char) : List Char :=
  ((text.dropWhile Python.isSpace).reverse.dropWhile
    Python.isSpace).reverse

variable {c : Char}

/- A graphic character of ASCII is no white space. -/
theorem isSpace_of_code
    (hLow : 32 < c.toNat)
    (hHigh : c.toNat < 128) :
    Python.isSpace c = false := by
  rw [Bool.eq_false_iff]
  simp only [Python.isSpace, ne_eq, Bool.or_eq_true,
    Bool.and_eq_true, decide_eq_true_eq, beq_iff_eq]
  omega

/- Stripping leaves no white space at the front. -/
theorem not_isSpace_of_head_dropWhile
    {text : List Char}
    (hHead : (text.dropWhile Python.isSpace).head? = some c) :
    Python.isSpace c = false := by
  have hNot := List.head?_dropWhile_not Python.isSpace text
  rw [hHead] at hNot
  simpa using hNot

/- A text with no white space at its ends is kept. -/
theorem strip_eq_self
    {text : List Char}
    (hFirst : ∀ c ∈ text.head?, Python.isSpace c = false)
    (hLast : ∀ c ∈ text.getLast?, Python.isSpace c = false) :
    strip text = text := by
  have hKept :
      ∀ cs : List Char,
        (∀ c ∈ cs.head?, Python.isSpace c = false) →
          cs.dropWhile Python.isSpace = cs := by
    intro cs hCs
    cases cs with
    | nil => rfl
    | cons c rest =>
        have hChar : Python.isSpace c = false := hCs c (by simp)
        simp [hChar]
  rw [strip, hKept text hFirst, hKept, List.reverse_reverse]
  rw [List.head?_reverse]
  exact hLast

/- Stripping never makes a text longer. -/
theorem length_strip_le
    (text : List Char) :
    (strip text).length ≤ text.length := by
  rw [strip, List.length_reverse]
  calc
    _ ≤ (text.dropWhile Python.isSpace).reverse.length :=
      (List.dropWhile_suffix _).length_le
    _ = (text.dropWhile Python.isSpace).length :=
      List.length_reverse
    _ ≤ text.length := (List.dropWhile_suffix _).length_le

/- A stripped text has no white space at its ends. -/
theorem ends_strip
    {text : List Char}
    (hEnd : c ∈ (strip text).head? ∨ c ∈ (strip text).getLast?) :
    Python.isSpace c = false := by
  rcases hEnd with hFirst | hLast
  · rw [strip, List.head?_reverse] at hFirst
    have hSuffix :=
      List.dropWhile_suffix Python.isSpace
        (l := (text.dropWhile Python.isSpace).reverse)
    rcases hSuffix with ⟨front, hFront⟩
    have hSome :
        (text.dropWhile Python.isSpace).head? = some c := by
      rw [← List.getLast?_reverse, ← hFront,
        List.getLast?_append, hFirst]
      rfl
    exact not_isSpace_of_head_dropWhile hSome
  · rw [strip, List.getLast?_reverse] at hLast
    exact not_isSpace_of_head_dropWhile hLast

/- Stripping a second time changes nothing. -/
theorem strip_stripped
    (text : List Char) :
    strip (strip text) = strip text :=
  strip_eq_self (fun _ hFirst => ends_strip (Or.inl hFirst))
    (fun _ hLast => ends_strip (Or.inr hLast))

theorem strip_strip
    (text : String) :
    Python.strip (Python.strip text) = Python.strip text := by
  change String.ofList (strip (String.ofList _).toList) = _
  rw [String.toList_ofList]
  exact congrArg String.ofList (strip_stripped _)

end Chars

--------
-- Letters
--------

namespace Chars

/- The number of a character in lower case. -/
theorem toNat_toLower
    (c : Char) :
    c.toLower.toNat =
      if 65 ≤ c.toNat ∧ c.toNat ≤ 90 then c.toNat + 32
      else c.toNat := by
  have hGap : ('a'.val - 'A'.val).toNat = 32 := by
    decide
  unfold Char.toLower
  split
  · rename_i hUpper
    have hLow : 65 ≤ c.toNat := hUpper.1
    have hHigh : c.toNat ≤ 90 := hUpper.2
    rw [if_pos ⟨hLow, hHigh⟩]
    change (c.val + ('a'.val - 'A'.val)).toNat = _
    rw [UInt32.toNat_add, hGap]
    change (c.toNat + 32) % _ = _
    omega
  · rename_i hOther
    exact (if_neg hOther).symm

/- The lower case of `lower` on an ASCII character. -/
theorem lowerChar_eq
    {c : Char}
    (hAscii : c.toLower.toNat < 128) :
    Python.lowerChar c = [c.toLower] := by
  rw [toNat_toLower] at hAscii
  unfold Python.lowerChar
  split
  · rename_i hKelvin
    rw [if_neg (by omega)] at hAscii
    omega
  · split
    · rename_i hDotted
      rw [if_neg (by omega)] at hAscii
      omega
    · rfl

end Chars

--------
-- Digits
--------

namespace Chars

/- The digits zero of Unicode 14, each before its digit one. -/
def decimalZeros : List Nat :=
  [48, 1632, 1776, 1984, 2406, 2534, 2662, 2790, 2918, 3046,
    3174, 3302, 3430, 3558, 3664, 3792, 3872, 4160, 4240,
    6112, 6160, 6470, 6608, 6784, 6800, 6992, 7088, 7232,
    7248, 42528, 43216, 43264, 43472, 43504, 43600, 44016,
    65296, 66720, 68912, 69734, 69872, 69942, 70096, 70384,
    70736, 70864, 71248, 71360, 71472, 71904, 72016, 72784,
    73040, 73120, 92768, 92864, 93008, 120782, 120792, 120802,
    120812, 120822, 123200, 123632, 125264, 130032]

/-
  The other characters `str.isdigit` accepts, by their first
  and last: superscripts, subscripts and circled digits among
  them. `int` refuses these.
-/
def otherDigits : List (Nat × Nat) :=
  [(178, 179), (185, 185), (4969, 4977), (6618, 6618),
    (8304, 8304), (8308, 8313), (8320, 8329), (9312, 9320),
    (9332, 9340), (9352, 9360), (9450, 9450), (9461, 9469),
    (9471, 9471), (10102, 10110), (10112, 10120),
    (10122, 10130), (68160, 68163), (69216, 69224),
    (69714, 69722), (127232, 127242)]

/- The value of a code point that the pattern `\d` matches. -/
def decimalOfCode (code : Nat) : Option Nat :=
  (decimalZeros.find? (fun base =>
    base ≤ code && code < base + 10)).map (fun base =>
      code - base)

def isDigitCode (code : Nat) : Bool :=
  (decimalOfCode code).isSome ||
    otherDigits.any (fun range =>
      range.1 ≤ code && code ≤ range.2)

/- `unicodedata.decimal(c)`. -/
def decimalValue (c : Char) : Option Nat :=
  decimalOfCode c.toNat

/- `c.isdigit()`. -/
def isDigit (c : Char) : Bool :=
  isDigitCode c.toNat

/-
  `int(text)` of a text of digits; `none` is the `ValueError`
  of a digit that is not decimal.
-/
def intOfDigits (text : List Char) : Option Nat :=
  text.foldlM (fun total c =>
    (decimalValue c).map (fun value => total * 10 + value)) 0

variable {c : Char}

theorem decimalValue_of_isDigit
    (hDigit : c.isDigit = true) :
    decimalValue c = some (c.toNat - '0'.toNat) := by
  simp only [Char.isDigit, Bool.and_eq_true,
    decide_eq_true_eq] at hDigit
  have hLow : 48 ≤ c.toNat := hDigit.1
  have hHigh : c.toNat ≤ 57 := hDigit.2
  unfold decimalValue decimalOfCode decimalZeros
  rw [List.find?_cons_of_pos]
  · rfl
  · rw [Bool.and_eq_true, decide_eq_true_eq, decide_eq_true_eq]
    omega

/- `int(str(n))`. -/
theorem intOfDigits_toString
    (n : Nat) :
    intOfDigits (toString n).toList = some n := by
  have hFold : ∀ (text : List Char) (total : Nat),
      (∀ c ∈ text, c.isDigit = true) →
        text.foldlM (fun total c =>
          (decimalValue c).map (fun value =>
            total * 10 + value)) total =
          some (Nat.ofDigitChars 10 text total) := by
    intro text
    induction text with
    | nil =>
      intro total _
      simp
    | cons c rest ih =>
      intro total hDigits
      rw [List.foldlM_cons,
        decimalValue_of_isDigit (hDigits c List.mem_cons_self),
        Nat.ofDigitChars_cons]
      change rest.foldlM _ _ = _
      rw [ih _ (fun d hMem =>
        hDigits d (List.mem_cons_of_mem _ hMem)),
        Nat.mul_comm 10 total]
  rw [intOfDigits, Nat.toString_eq_repr, Nat.toList_repr,
    hFold _ 0 (fun c hMem =>
      Nat.isDigit_of_mem_toDigits (by decide) (by decide) hMem),
    Nat.ofDigitChars_ten_toDigits]

theorem decimalValue_lt
    {value : Nat}
    (hValue : decimalValue c = some value) :
    value < 10 := by
  rcases Option.map_eq_some_iff.mp hValue with
    ⟨base, hZero, hEq⟩
  have hRange := List.find?_some hZero
  simp only [Bool.and_eq_true, decide_eq_true_eq] at hRange
  omega

theorem isDigit_of_decimalValue
    {value : Nat}
    (hValue : decimalValue c = some value) :
    isDigit c = true := by
  have hSome : decimalOfCode c.toNat = some value := hValue
  simp [isDigit, isDigitCode, hSome]

variable {code : Nat}

/- Digits come from the digit zero of ASCII on. -/
theorem le_of_isDigitCode
    (hDigit : isDigitCode code = true) :
    48 ≤ code := by
  simp only [isDigitCode, Bool.or_eq_true,
    Option.isSome_iff_exists, List.any_eq_true,
    Bool.and_eq_true, decide_eq_true_eq] at hDigit
  rcases hDigit with ⟨value, hValue⟩ | ⟨range, hMem, hRange⟩
  · rcases Option.map_eq_some_iff.mp hValue with
      ⟨base, hZero, _⟩
    have hAll : ∀ base ∈ decimalZeros, 48 ≤ base := by decide
    have hLow := hAll base (List.mem_of_find?_eq_some hZero)
    have hRange := List.find?_some hZero
    simp only [Bool.and_eq_true, decide_eq_true_eq] at hRange
    omega
  · have hAll : ∀ range ∈ otherDigits, 48 ≤ range.1 := by
      decide
    have hLow := hAll range hMem
    omega

/- The digits past those of ASCII. -/
theorem ascii_or_le_of_isDigitCode
    (hDigit : isDigitCode code = true) :
    code ≤ 57 ∨ 178 ≤ code := by
  simp only [isDigitCode, Bool.or_eq_true,
    Option.isSome_iff_exists, List.any_eq_true,
    Bool.and_eq_true, decide_eq_true_eq] at hDigit
  rcases hDigit with ⟨value, hValue⟩ | ⟨range, hMem, hRange⟩
  · rcases Option.map_eq_some_iff.mp hValue with
      ⟨base, hZero, _⟩
    have hAll : ∀ base ∈ decimalZeros,
        base = 48 ∨ 178 ≤ base := by
      decide
    have hBase := hAll base (List.mem_of_find?_eq_some hZero)
    have hRange := List.find?_some hZero
    simp only [Bool.and_eq_true, decide_eq_true_eq] at hRange
    omega
  · have hAll : ∀ range ∈ otherDigits, 178 ≤ range.1 := by
      decide
    have hLow := hAll range hMem
    omega

/- The white space past the digit zero. -/
def laterSpaces : List Nat :=
  [133, 160, 5760, 8192, 8193, 8194, 8195, 8196, 8197, 8198,
    8199, 8200, 8201, 8202, 8232, 8233, 8239, 8287, 12288]

theorem isSpace_of_isDigit
    (hDigit : isDigit c = true) :
    Python.isSpace c = false := by
  have hLow : 48 ≤ c.toNat := le_of_isDigitCode hDigit
  rw [Bool.eq_false_iff]
  intro hSpace
  have hMem : c.toNat ∈ laterSpaces := by
    simp only [Python.isSpace, Bool.or_eq_true,
      Bool.and_eq_true, decide_eq_true_eq, beq_iff_eq] at hSpace
    simp only [laterSpaces, List.mem_cons, List.not_mem_nil]
    omega
  have hNone :
      ∀ code ∈ laterSpaces, isDigitCode code = false := by
    decide
  rw [isDigit, hNone _ hMem] at hDigit
  exact absurd hDigit Bool.false_ne_true

/- A digit is no control character, bracket or other sign. -/
theorem ne_of_isDigit
    {c d : Char}
    (hDigit : isDigit c = true)
    (hSign : d.toNat < 48) :
    c ≠ d := by
  have hLow : 48 ≤ c.toNat := le_of_isDigitCode hDigit
  intro hEq
  rw [hEq] at hLow
  omega

/- A number has as many digits as its text at the most. -/
theorem intOfDigits_lt
    {text : List Char}
    {number : Nat}
    (hInt : intOfDigits text = some number) :
    number < 10 ^ text.length := by
  have hLoop :
      ∀ (text : List Char) (total number : Nat),
        text.foldlM (fun total c =>
          (decimalValue c).map (fun value =>
            total * 10 + value)) total = some number →
          number < (total + 1) * 10 ^ text.length := by
    intro text
    induction text with
    | nil =>
        intro total number hFold
        rw [List.foldlM_nil] at hFold
        have hEq : total = number := Option.some.inj hFold
        simp [hEq]
    | cons c rest ih =>
        intro total number hFold
        rw [List.foldlM_cons] at hFold
        cases hValue : decimalValue c with
        | none => simp [hValue] at hFold
        | some value =>
            rw [hValue] at hFold
            have hRest := ih (total * 10 + value) number hFold
            have hDigit := decimalValue_lt hValue
            calc
              number < (total * 10 + value + 1) *
                  10 ^ rest.length := hRest
              _ ≤ ((total + 1) * 10) * 10 ^ rest.length :=
                Nat.mul_le_mul_right _ (by omega)
              _ = (total + 1) * 10 ^ (c :: rest).length := by
                rw [List.length_cons, pow_succ, mul_assoc,
                  Nat.mul_comm 10]
  have hBound := hLoop text 0 number hInt
  rwa [Nat.zero_add, Nat.one_mul] at hBound

end Chars
