import Mathlib.Data.List.Infix
import RegEngine.Library.Text

/-
  Texts and numbers as Python prints them: floating-point
  numbers known by their shortest text, decimal integers,
  fixed-width digits, and the text operations `strip`,
  `lower`, `upper` and `in`.

  Main declarations:
    * `Python.Float`
    * `Python.pad`
    * `Python.strip`
-/

--------
-- Decimal Texts
--------

namespace Python

def decimalDigits : List Char :=
  "0123456789".toList

variable {c : Char}

theorem mem_decimalDigits_of_isDigit
    (hDigit : c.isDigit = true) :
    c ∈ decimalDigits := by
  simp only [Char.isDigit, Bool.and_eq_true,
    decide_eq_true_eq] at hDigit
  have hLow : 48 ≤ c.toNat := hDigit.1
  have hHigh : c.toNat ≤ 57 := hDigit.2
  have hAll :
      ∀ n < 58, 48 ≤ n → Char.ofNat n ∈ decimalDigits := by
    decide
  have hMem := hAll c.toNat (by omega) hLow
  rwa [Char.ofNat_toNat] at hMem

theorem isDigit_of_mem_decimalDigits
    (hMem : c ∈ decimalDigits) :
    c.isDigit = true := by
  have hDigits :
      decimalDigits =
        ['0', '1', '2', '3', '4', '5', '6', '7', '8', '9'] := by
    decide
  rw [hDigits] at hMem
  simp only [List.mem_cons, List.not_mem_nil, or_false] at hMem
  rcases hMem with rfl | rfl | rfl | rfl | rfl | rfl | rfl |
    rfl | rfl | rfl <;> rfl

/- Distinct integers have distinct texts. -/
theorem toString_int_inj
    {m n : Int}
    (hEq : toString m = toString n) :
    m = n := by
  have hNat :
      ∀ a b : Nat, a.repr = b.repr → a = b := by
    intro a b hRepr
    have hDigits := congrArg String.toList hRepr
    rw [Nat.toList_repr, Nat.toList_repr] at hDigits
    rw [← @Nat.ofDigitChars_ten_toDigits a, hDigits,
      Nat.ofDigitChars_ten_toDigits]
  have hSign :
      ∀ a b : Nat, a.repr ≠ "-" ++ b.repr := by
    intro a b hRepr
    have hMem : '-' ∈ a.repr.toList := by
      rw [hRepr]
      simp
    rw [Nat.toList_repr] at hMem
    have hDigit :=
      Nat.isDigit_of_mem_toDigits (by decide) (by decide) hMem
    simp at hDigit
  simp only [Int.toString_eq_repr, Int.repr_eq_if] at hEq
  split at hEq <;> split at hEq
  · have := hNat _ _ hEq
    omega
  · exact absurd hEq (hSign _ _)
  · exact absurd hEq.symm (hSign _ _)
  · have hList := congrArg String.toList hEq
    simp only [String.toList_append,
      List.append_cancel_left_eq, String.toList_inj] at hList
    have := hNat _ _ hList
    omega

/- The text of a natural number holds digits only. -/
theorem mem_toString_nat
    {n : Nat}
    (hMem : c ∈ (toString n).toList) :
    c ∈ decimalDigits := by
  rw [Nat.toString_eq_repr, Nat.toList_repr] at hMem
  exact mem_decimalDigits_of_isDigit
    (Nat.isDigit_of_mem_toDigits (by decide) (by decide) hMem)

/- The text of an integer holds digits and a sign only. -/
theorem mem_toString_int
    {n : Int}
    (hMem : c ∈ (toString n).toList) :
    c = '-' ∨ c ∈ decimalDigits := by
  rw [Int.toString_eq_repr, Int.repr_eq_if] at hMem
  split at hMem
  · exact Or.inr (mem_toString_nat hMem)
  · simp only [String.toList_append, List.mem_append] at hMem
    rcases hMem with hMinus | hDigits
    · exact Or.inl (by simpa using hMinus)
    · exact Or.inr (mem_toString_nat hDigits)

/- The text of an integer is not empty. -/
theorem toList_toString_int_ne_nil
    (n : Int) :
    (toString n).toList ≠ [] := by
  rw [Int.toString_eq_repr, Int.repr_eq_if]
  split
  · rw [Nat.toList_repr]
    exact Nat.toDigits_ne_nil
  · simp

/- The last `width` decimal digits of a number. -/
def pad : Nat → Nat → List Char
| 0, _ => []
| width + 1, n => pad width (n / 10) ++ [(n % 10).digitChar]

/- Padding fixes the width. -/
theorem length_pad
    (width n : Nat) :
    (pad width n).length = width := by
  induction width generalizing n with
  | zero => rfl
  | succ width ih => simp [pad, ih]

/- Padded numbers hold decimal digits only. -/
theorem mem_pad
    {width n : Nat}
    (hMem : c ∈ pad width n) :
    c ∈ decimalDigits := by
  induction width generalizing n with
  | zero => simp [pad] at hMem
  | succ width ih =>
      simp only [pad, List.mem_append,
        List.mem_singleton] at hMem
      rcases hMem with hLeft | hRight
      · exact ih hLeft
      · rw [hRight]
        apply mem_decimalDigits_of_isDigit
        rw [Nat.isDigit_digitChar]
        simp [Nat.mod_lt]

/- Numbers that fit the width are padded apart. -/
theorem pad_inj
    {width m n : Nat}
    (hM : m < 10 ^ width)
    (hN : n < 10 ^ width)
    (hEq : pad width m = pad width n) :
    m = n := by
  induction width generalizing m n with
  | zero => omega
  | succ width ih =>
      simp only [pad] at hEq
      have hParts := List.append_inj' hEq rfl
      have hHigh : m / 10 = n / 10 := by
        apply ih _ _ hParts.1
        · rw [pow_succ] at hM
          omega
        · rw [pow_succ] at hN
          omega
      have hLow : m % 10 = n % 10 := by
        have hChar : (m % 10).digitChar = (n % 10).digitChar := by
          simpa using hParts.2
        have hValue := congrArg Char.toNat hChar
        rw [Nat.toNat_digitChar_of_lt_ten (by omega),
          Nat.toNat_digitChar_of_lt_ten (by omega)] at hValue
        omega
      omega

end Python

--------
-- Floating-Point Numbers
--------

namespace Python

/- The characters of a floating-point text. -/
def floatChars : List Char :=
  "0123456789+-.einfa".toList

/-
  The texts `repr` gives to floating-point numbers: of
  `floatChars` only, and told from an integer by a point, an
  exponent, or the words `inf` and `nan`.
-/
def isFloatRepr (text : String) : Bool :=
  text.toList.all (fun c => floatChars.contains c) &&
    text.toList.any (fun c => ['.', 'e', 'n'].contains c)

theorem isFloatRepr_one : isFloatRepr "1.0" = true := by decide

theorem isFloatRepr_two : isFloatRepr "2.0" = true := by decide

/-
  A floating-point number, known by its shortest text. Two
  numbers with one text are the same number.
-/
structure Float where
  repr : String
  wf : isFloatRepr repr = true
  deriving DecidableEq

namespace Float

/- `x <= 0`, false on `nan`. -/
def nonpos (x : Float) : Bool :=
  x.repr.toList.head? == some '-' || x.repr == "0.0"

/- `x >= 0`, false on `nan`. -/
def nonneg (x : Float) : Bool :=
  x.repr == "-0.0" ||
    (!(x.repr.toList.head? == some '-') && !(x.repr == "nan"))

/- `x == 0`, as `not x` tests it. -/
def isZero (x : Float) : Bool :=
  x.repr == "0.0" || x.repr == "-0.0"

/- The text of a number holds `floatChars` only. -/
theorem mem_floatChars
    (x : Float)
    {c : Char}
    (hMem : c ∈ x.repr.toList) :
    c ∈ floatChars := by
  have hWf := x.wf
  simp only [isFloatRepr, Bool.and_eq_true,
    List.all_eq_true] at hWf
  simpa using hWf.1 c hMem

/- The text of a number has a mark that no integer has. -/
theorem exists_mark
    (x : Float) :
    ∃ c ∈ x.repr.toList, c = '.' ∨ c = 'e' ∨ c = 'n' := by
  have hWf := x.wf
  simp only [isFloatRepr, Bool.and_eq_true,
    List.any_eq_true] at hWf
  rcases hWf.2 with ⟨c, hMem, hMark⟩
  exact ⟨c, hMem, by simpa using hMark⟩

end Float

end Python

--------
-- Text Operations
--------

namespace Python

/- The code points `str.strip` takes for white space. -/
def isSpace (c : Char) : Bool :=
  let n := c.toNat
  (9 ≤ n && n ≤ 13) || (28 ≤ n && n ≤ 32) || n == 133 ||
    n == 160 || n == 5760 || (8192 ≤ n && n ≤ 8202) ||
    n == 8232 || n == 8233 || n == 8239 || n == 8287 ||
    n == 12288

/- `text.strip()`. -/
def strip (text : String) : String :=
  String.ofList
    ((text.toList.dropWhile isSpace).reverse.dropWhile
      isSpace).reverse

/-
  The lower-case form of one character, where it holds an
  ASCII letter: besides the ASCII capitals only the Kelvin
  sign and the dotted capital I do. Other letters are kept,
  so a test for an ASCII word on the result is exact.
-/
def lowerChar (c : Char) : List Char :=
  if c.toNat = 8490 then
    ['k']
  else if c.toNat = 304 then
    ['i', Char.ofNat 775]
  else
    [c.toLower]

/- `text.lower()`, exact for tests on ASCII words. -/
def lower (text : String) : String :=
  String.ofList (text.toList.flatMap lowerChar)

/-
  The upper-case form of one character, where it holds an
  ASCII letter: besides the ASCII letters the dotless i, the
  long s, the sharp s and the Latin ligatures. Other letters
  are kept, so a test for an ASCII word on the result is
  exact.
-/
def upperChar (c : Char) : List Char :=
  match c.toNat with
  | 223 => ['S', 'S']
  | 305 => ['I']
  | 383 => ['S']
  | 64256 => ['F', 'F']
  | 64257 => ['F', 'I']
  | 64258 => ['F', 'L']
  | 64259 => ['F', 'F', 'I']
  | 64260 => ['F', 'F', 'L']
  | 64261 => ['S', 'T']
  | 64262 => ['S', 'T']
  | _ => [c.toUpper]

/- `text.upper()`, exact for tests on ASCII words. -/
def upper (text : String) : String :=
  String.ofList (text.toList.flatMap upperChar)

/- `word in text`. -/
def contains (text word : String) : Bool :=
  text.toList.tails.any (fun rest =>
    word.toList.isPrefixOf rest)

/- A text holds a word that stands inside it. -/
theorem contains_iff
    {text word : String} :
    contains text word = true ↔
      word.toList <:+: text.toList := by
  simp only [contains, List.any_eq_true, List.mem_tails,
    List.isPrefixOf_iff_prefix, List.infix_iff_prefix_suffix]
  constructor
  · rintro ⟨rest, hSuffix, hPrefix⟩
    exact ⟨rest, hPrefix, hSuffix⟩
  · rintro ⟨rest, hPrefix, hSuffix⟩
    exact ⟨rest, hSuffix, hPrefix⟩

/- A word has no character that the text around it lacks. -/
theorem contains_eq_false
    {text word : String}
    {c : Char}
    (hWord : c ∈ word.toList)
    (hText : c ∉ text.toList) :
    contains text word = false := by
  rw [Bool.eq_false_iff]
  intro hContains
  exact hText ((contains_iff.mp hContains).subset hWord)

/- `first or second`, for two optional texts. -/
def orSome (first second : Option String) : Option String :=
  match first with
  | none => second
  | some value => if value = "" then second else some value

/- `text or other`, for an optional text. -/
def orElse (text : Option String) (other : String) : String :=
  match text with
  | none => other
  | some value => if value = "" then other else value

end Python
