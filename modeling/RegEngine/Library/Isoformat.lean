import RegEngine.Library.Datetime

/-
  A reader of the time stamps that `isoformat` writes.

  Main declarations:
    * `Datetime.ofIsoformat`
    * `Datetime.ofIsoformat_isoformat`
-/

--------
-- Parts
--------

namespace Datetime

/- The number that some digits write. -/
def digitsValue (digits : List Char) : Nat :=
  digits.foldl (fun n c => n * 10 + (c.toNat - 48)) 0

/- A number of a fixed width, and what follows it. -/
def readPad (width : Nat) (cs : List Char) :
    Option (Nat × List Char) :=
  let digits := cs.take width
  if digits.length = width ∧ digits.all Char.isDigit then
    some (digitsValue digits, cs.drop width)
  else
    none

/- What follows a sign that must stand there. -/
def expect (c : Char) : List Char → Option (List Char)
| [] => none
| d :: rest => if d = c then some rest else none

def readFraction (cs : List Char) :
    Option (Nat × List Char) :=
  match cs with
  | '.' :: rest => readPad 6 rest
  | _ => some (0, cs)

/- A clock time, in microseconds. -/
def readClock (cs : List Char) :
    Option (Nat × List Char) := do
  let (hours, cs) ← readPad 2 cs
  let cs ← expect ':' cs
  let (minutes, cs) ← readPad 2 cs
  let cs ← expect ':' cs
  let (seconds, cs) ← readPad 2 cs
  let (micros, cs) ← readFraction cs
  return (((hours * 60 + minutes) * 60 + seconds) * 1000000 +
    micros, cs)

/- An offset of hours and minutes, and seconds if it has any. -/
def readOffset (cs : List Char) : Option Nat := do
  let (hours, short) ← readPad 2 cs
  let short ← expect ':' short
  let (minutes, short) ← readPad 2 short
  if short.isEmpty then
    return (hours * 60 + minutes) * 60000000
  else
    let (micros, rest) ← readClock cs
    if rest.isEmpty then return micros else none

/- The time stamp that a text writes. -/
def ofIsoformat (text : String) : Option Datetime := do
  let (year, cs) ← readPad 4 text.toList
  let cs ← expect '-' cs
  let (month, cs) ← readPad 2 cs
  let cs ← expect '-' cs
  let (day, cs) ← readPad 2 cs
  let cs ← expect 'T' cs
  let (micros, cs) ← readClock cs
  let sign ← cs.head?
  let size ← readOffset cs.tail
  let date := CalendarDate.mk year month day
  let offset : Int := if sign = '-' then -size else size
  if hValid :
      (sign = '+' ∨ sign = '-') ∧
        isValid date micros offset = true then
    return ⟨date, micros, offset, hValid.2⟩
  else
    none

end Datetime

--------
-- What Is Written Is Read
--------

namespace Datetime

theorem digitsValue_concat
    (digits : List Char)
    (c : Char) :
    digitsValue (digits ++ [c]) =
      digitsValue digits * 10 + (c.toNat - 48) := by
  simp [digitsValue, List.foldl_append]

/- The digits of a padded number write it. -/
theorem digitsValue_pad
    {width n : Nat}
    (hN : n < 10 ^ width) :
    digitsValue (Python.pad width n) = n := by
  induction width generalizing n with
  | zero =>
    have hZero : n = 0 := by
      omega
    rw [hZero]
    rfl
  | succ width ih =>
    have hHigh : n / 10 < 10 ^ width := by
      rw [pow_succ] at hN
      omega
    rw [Python.pad, digitsValue_concat, ih hHigh,
      Nat.toNat_digitChar_of_lt_ten (by omega)]
    omega

/- A padded number is read back. -/
theorem readPad_pad
    {width n : Nat}
    (hN : n < 10 ^ width)
    (rest : List Char) :
    readPad width (Python.pad width n ++ rest) =
      some (n, rest) := by
  have hLength := Python.length_pad width n
  have hTake :
      (Python.pad width n ++ rest).take width =
        Python.pad width n :=
    List.take_left' hLength
  have hDrop :
      (Python.pad width n ++ rest).drop width = rest :=
    List.drop_left' hLength
  have hDigits :
      (Python.pad width n).all Char.isDigit = true := by
    rw [List.all_eq_true]
    intro c hMem
    exact Python.isDigit_of_mem_decimalDigits
      (Python.mem_pad hMem)
  simp only [readPad, hTake, hDrop]
  rw [if_pos ⟨hLength, hDigits⟩, digitsValue_pad hN]

/- A sign is read back. -/
theorem expect_cons
    (c : Char)
    (rest : List Char) :
    expect c (c :: rest) = some rest :=
  if_pos rfl

variable {micros : Nat}

theorem readFraction_fractionChars
    (hMicros : micros < 1000000)
    {rest : List Char}
    (hRest : Ends rest) :
    readFraction (fractionChars micros ++ rest) =
      some (micros, rest) := by
  unfold fractionChars
  split
  · rename_i hZero
    rw [hZero, List.nil_append, readFraction.eq_def]
    split
    · exact absurd rfl (hRest '.' (by simp))
    · rfl
  · exact readPad_pad (by omega) rest

/- A clock time is read back. -/
theorem readClock_clockChars
    (hMicros : micros < dayMicros)
    {rest : List Char}
    (hRest : Ends rest) :
    readClock (clockChars micros ++ rest) =
      some (micros, rest) := by
  simp only [dayMicros] at hMicros
  have hHour : hour micros < 10 ^ 2 := by
    simp only [hour]
    omega
  have hMinute : minute micros < 10 ^ 2 := by
    simp only [minute]
    omega
  have hSecond : second micros < 10 ^ 2 := by
    simp only [second]
    omega
  have hMicro : microsecond micros < 1000000 := by
    simp only [microsecond]
    omega
  have hSum :
      ((hour micros * 60 + minute micros) * 60 +
            second micros) * 1000000 + microsecond micros =
        micros := by
    simp only [hour, minute, second, microsecond]
    omega
  simp only [readClock, clockChars, List.append_assoc,
    List.cons_append, readPad_pad hHour, readPad_pad hMinute,
    readPad_pad hSecond, expect_cons, Option.bind_eq_bind,
    Option.bind_some, readFraction_fractionChars hMicro hRest,
    Option.pure_def, hSum]

theorem readOffset_offsetChars
    (hMicros : micros < dayMicros) :
    readOffset (offsetChars micros) = some micros := by
  have hHour : hour micros < 10 ^ 2 := by
    simp only [hour, dayMicros] at *
    omega
  have hMinute : minute micros < 10 ^ 2 := by
    simp only [minute]
    omega
  have hEnds : Ends [] := by
    intro c hHead
    simp at hHead
  unfold offsetChars
  split
  · rename_i hZero
    have hShort :=
      readPad_pad hMinute []
    rw [List.append_nil] at hShort
    have hSum :
        (hour micros * 60 + minute micros) * 60000000 =
          micros := by
      simp only [hour, minute]
      omega
    simp [readOffset, readPad_pad hHour, expect_cons, hShort,
      hSum]
  · have hClock := readClock_clockChars hMicros hEnds
    rw [List.append_nil] at hClock
    have hParts :
        clockChars micros =
          Python.pad 2 (hour micros) ++ ':' ::
            (Python.pad 2 (minute micros) ++ ':' ::
              (Python.pad 2 (second micros) ++
                fractionChars (microsecond micros))) := rfl
    have hHead :
        readPad 2 (clockChars micros) =
          some (hour micros, ':' ::
            (Python.pad 2 (minute micros) ++ ':' ::
              (Python.pad 2 (second micros) ++
                fractionChars (microsecond micros)))) := by
      rw [hParts]
      exact readPad_pad hHour _
    simp [readOffset, hHead, expect_cons,
      readPad_pad hMinute, hClock]

/- A time stamp is read back. -/
theorem ofIsoformat_isoformat
    (d : Datetime) :
    ofIsoformat d.isoformat = some d := by
  rcases d.ranges with
    ⟨hYear, hMonth, hDay, hMicros, hOffset⟩
  have hYear' : d.date.year < 10 ^ 4 := hYear
  have hMonth' : d.date.month < 10 ^ 2 := hMonth
  have hDay' : d.date.day < 10 ^ 2 := hDay
  have hText : d.isoformat.toList = d.isoChars :=
    String.toList_ofList
  have hSign :
      (if signChar d.offset = '-' then
          -(d.offset.natAbs : Int)
        else (d.offset.natAbs : Int)) = d.offset := by
    unfold signChar
    split
    · rw [if_pos rfl]
      omega
    · rw [if_neg (by decide)]
      omega
  have hSigns :
      signChar d.offset = '+' ∨ signChar d.offset = '-' := by
    unfold signChar
    split
    · exact Or.inr rfl
    · exact Or.inl rfl
  simp only [ofIsoformat, hText, isoChars,
    readPad_pad hYear', readPad_pad hMonth', readPad_pad hDay',
    expect_cons, Option.bind_eq_bind, Option.bind_some,
    readClock_clockChars hMicros (ends_signChar _ _),
    List.head?_cons, List.tail_cons,
    readOffset_offsetChars hOffset, hSign, hSigns, d.valid,
    and_self, dif_pos, Option.pure_def]

end Datetime
