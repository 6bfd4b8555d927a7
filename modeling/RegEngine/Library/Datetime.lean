import RegEngine.Library.Python

/-
  Calendar dates and time stamps with a UTC offset, and their
  ISO 8601 texts as `datetime.isoformat` writes them.

  Main declarations:
    * `Datetime`
    * `Datetime.isoformat`
    * `Datetime.isoformat_inj`
-/

--------
-- Dates
--------

/- A date by its three fields. -/
structure CalendarDate where
  year : Nat
  month : Nat
  day : Nat
  deriving DecidableEq

namespace CalendarDate

/- Leap years of the Gregorian calendar. -/
def isLeap (year : Nat) : Bool :=
  year % 4 == 0 && (year % 100 != 0 || year % 400 == 0)

def daysInMonth (year month : Nat) : Nat :=
  if month = 2 then (if isLeap year then 29 else 28)
  else if month = 4 ∨ month = 6 ∨ month = 9 ∨ month = 11 then
    30
  else
    31

/- The dates from year 1 to year 9999. -/
def isValid (d : CalendarDate) : Bool :=
  1 ≤ d.year && d.year ≤ 9999 && 1 ≤ d.month &&
    d.month ≤ 12 && 1 ≤ d.day &&
    d.day ≤ daysInMonth d.year d.month

/- Days from 1 March of year 0. -/
def toDays (d : CalendarDate) : Nat :=
  let y := if d.month ≤ 2 then d.year - 1 else d.year
  let m := if d.month ≤ 2 then d.month + 9 else d.month - 3
  let yearOfEra := y % 400
  let dayOfYear := (153 * m + 2) / 5 + d.day - 1
  y / 400 * 146097 +
    (yearOfEra * 365 + yearOfEra / 4 - yearOfEra / 100 +
      dayOfYear)

/- The date that many days from 1 March of year 0. -/
def ofDays (days : Nat) : CalendarDate :=
  let era := days / 146097
  let dayOfEra := days % 146097
  let yearOfEra :=
    (dayOfEra - dayOfEra / 1460 + dayOfEra / 36524 -
      dayOfEra / 146096) / 365
  let dayOfYear :=
    dayOfEra -
      (365 * yearOfEra + yearOfEra / 4 - yearOfEra / 100)
  let m := (5 * dayOfYear + 2) / 153
  let month := if m < 10 then m + 3 else m - 9
  let year := yearOfEra + era * 400
  { year := if month ≤ 2 then year + 1 else year
    month := month
    day := dayOfYear - (153 * m + 2) / 5 + 1 }

end CalendarDate

--------
-- Time Stamps
--------

def Datetime.dayMicros : Nat :=
  86400000000

/- The fields of a time stamp are in range. -/
def Datetime.isValid
    (date : CalendarDate)
    (micros : Nat)
    (offset : Int) :
    Bool :=
  date.isValid && micros < Datetime.dayMicros &&
    -(Datetime.dayMicros : Int) < offset &&
    offset < (Datetime.dayMicros : Int)

/-
  A time stamp with a UTC offset: its local date, the
  microseconds since local midnight, and the offset in
  microseconds.
-/
structure Datetime where
  date : CalendarDate
  micros : Nat
  offset : Int
  valid : Datetime.isValid date micros offset = true
  deriving DecidableEq

/- The first two days of a year. -/
theorem Datetime.isValid_first :
    Datetime.isValid ⟨2026, 1, 1⟩ 0 0 = true := by
  decide

theorem Datetime.isValid_second :
    Datetime.isValid ⟨2026, 1, 2⟩ 0 0 = true := by
  decide

namespace Datetime

/- The fields of a clock time. -/
def hour (micros : Nat) : Nat :=
  micros / 3600000000

def minute (micros : Nat) : Nat :=
  micros / 60000000 % 60

def second (micros : Nat) : Nat :=
  micros / 1000000 % 60

def microsecond (micros : Nat) : Nat :=
  micros % 1000000

/- The instant, in microseconds from 1 March of year 0. -/
def instant (d : Datetime) : Int :=
  (d.date.toDays * dayMicros + d.micros : Nat) - d.offset

/-
  The time stamp of an instant under an offset, or nothing
  when it leaves the years 1 to 9999 and Python raises an
  `OverflowError`.
-/
def ofInstant (instant offset : Int) : Option Datetime :=
  let shifted := instant + offset
  let date := CalendarDate.ofDays (shifted.toNat / dayMicros)
  let micros := shifted.toNat % dayMicros
  if h : isValid date micros offset = true then
    if 0 ≤ shifted then some ⟨date, micros, offset, h⟩
    else none
  else
    none

/- The same instant under another offset. -/
def astimezone (d : Datetime) (offset : Int) :
    Option Datetime :=
  ofInstant d.instant offset

def utc (d : Datetime) : Option Datetime :=
  d.astimezone 0

/- The fraction of a second, left out when it is zero. -/
def fractionChars (micros : Nat) : List Char :=
  if micros = 0 then [] else '.' :: Python.pad 6 micros

/- A clock time, with its seconds and their fraction. -/
def clockChars (micros : Nat) : List Char :=
  Python.pad 2 (hour micros) ++ ':' ::
    (Python.pad 2 (minute micros) ++ ':' ::
      (Python.pad 2 (second micros) ++
        fractionChars (microsecond micros)))

/-
  An offset without its sign: hours and minutes, and seconds
  with their fraction only when they are not zero.
-/
def offsetChars (micros : Nat) : List Char :=
  if micros % 60000000 = 0 then
    Python.pad 2 (hour micros) ++ ':' ::
      Python.pad 2 (minute micros)
  else
    clockChars micros

def signChar (offset : Int) : Char :=
  if offset < 0 then '-' else '+'

/- The characters of `isoformat`. -/
def isoChars (d : Datetime) : List Char :=
  Python.pad 4 d.date.year ++ '-' ::
    (Python.pad 2 d.date.month ++ '-' ::
      (Python.pad 2 d.date.day ++ 'T' ::
        (clockChars d.micros ++ signChar d.offset ::
          offsetChars d.offset.natAbs)))

/- `d.isoformat()`. -/
def isoformat (d : Datetime) : String :=
  String.ofList d.isoChars

end Datetime

--------
-- Days And Instants
--------

namespace CalendarDate

/-
  The year of an era that a day falls in: the days of the years
  before it have passed, and it has no more than 366 days.
-/
theorem yearOfEra_bounds
    {day year : Nat}
    (hDay : day < 146097)
    (hYear :
      year =
        (day - day / 1460 + day / 36524 - day / 146096) / 365) :
    year < 400 ∧
      365 * year + year / 4 - year / 100 ≤ day ∧
      day < 365 * year + year / 4 - year / 100 + 366 := by
  -- the last day of an era is its only day in a fifth century
  by_cases hLast : day = 146096
  · subst hLast
    subst hYear
    decide
  · have hFourth : day / 146096 = 0 := by
      omega
    rw [hFourth] at hYear
    generalize hCentury : day / 36524 = century at hYear
    generalize hLeap : day / 1460 = leaps at hYear
    have hCenturyOf : year / 100 = century := by
      omega
    have hLeaps : 1460 * leaps ≤ day ∧
        day < 1460 * leaps + 1460 := by
      omega
    have hYearLow : 365 * year ≤ day - leaps + century := by
      omega
    have hYearHigh :
        day - leaps + century < 365 * year + 365 := by
      omega
    rw [hCenturyOf]
    generalize hFourths : year / 4 = fourths
    have hFourYears : 4 * fourths ≤ year ∧
        year < 4 * fourths + 4 := by
      omega
    clear hLeap hFourths hYear hCenturyOf
    refine ⟨by omega, ?_, by omega⟩
    rcases Nat.lt_or_ge leaps fourths with hFew | hMany
    · omega
    · omega

/- The date of a day is that many days away. -/
theorem toDays_ofDays
    (days : Nat) :
    (ofDays days).toDays = days := by
  rcases yearOfEra_bounds (Nat.mod_lt days (by decide)) rfl with
    ⟨hYear, hLow, hHigh⟩
  unfold ofDays
  dsimp only
  generalize
    (days % 146097 - days % 146097 / 1460 +
      days % 146097 / 36524 - days % 146097 / 146096) / 365 =
        year at hYear hLow hHigh ⊢
  generalize hDayOfYear :
    days % 146097 - (365 * year + year / 4 - year / 100) =
      dayOfYear
  have hDay : dayOfYear ≤ 365 := by
    omega
  generalize hM : (5 * dayOfYear + 2) / 153 = m
  have hMonth : m ≤ 11 := by
    omega
  have hPassed : (153 * m + 2) / 5 ≤ dayOfYear := by
    omega
  have hYearOfEra :
      (year + days / 146097 * 400) % 400 = year := by
    omega
  have hEra :
      (year + days / 146097 * 400) / 400 = days / 146097 := by
    omega
  simp only [toDays]
  -- the years of the count start in March
  by_cases hSpring : m < 10
  · have hLate : ¬ m + 3 ≤ 2 := by
      omega
    simp only [if_pos hSpring, if_neg hLate]
    rw [hYearOfEra, hEra, Nat.add_sub_cancel]
    omega
  · have hEarly : m - 9 ≤ 2 := by
      omega
    have hBack : m - 9 + 9 = m := by
      omega
    simp only [if_neg hSpring, if_pos hEarly,
      Nat.add_sub_cancel]
    rw [hYearOfEra, hEra, hBack]
    omega

end CalendarDate

namespace Datetime

/- The time stamp of an instant is at that instant. -/
theorem instant_ofInstant
    {instant offset : Int}
    {d : Datetime}
    (hStamp : ofInstant instant offset = some d) :
    d.instant = instant := by
  simp only [ofInstant] at hStamp
  split at hStamp
  · split at hStamp
    · rename_i hNonneg
      rw [← Option.some.inj hStamp]
      simp only [Datetime.instant, CalendarDate.toDays_ofDays]
      rw [Nat.div_add_mod']
      omega
    · cases hStamp
  · cases hStamp

end Datetime

--------
-- The Text Determines The Time Stamp
--------

namespace Datetime

/- Padded numbers of one width are cut off in one way. -/
theorem pad_append_inj
    {width m n : Nat}
    {rest rest' : List Char}
    (hM : m < 10 ^ width)
    (hN : n < 10 ^ width)
    (hEq :
      Python.pad width m ++ rest =
        Python.pad width n ++ rest') :
    m = n ∧ rest = rest' := by
  have hParts :=
    List.append_inj hEq
      (by rw [Python.length_pad, Python.length_pad])
  exact ⟨Python.pad_inj hM hN hParts.1, hParts.2⟩

variable {m n : Nat}

/- The fields of a clock time give it back. -/
theorem micros_eq_of_fields
    (hHour : hour m = hour n)
    (hMinute : minute m = minute n)
    (hSecond : second m = second n)
    (hMicro : microsecond m = microsecond n) :
    m = n := by
  simp only [hour, minute, second, microsecond] at *
  omega

/- What follows a clock time is no digit and no point. -/
def Ends (rest : List Char) : Prop :=
  ∀ c ∈ rest.head?, c ≠ '.'

/- Clock times are cut off in one way. -/
theorem clockChars_append_inj
    {rest rest' : List Char}
    (hM : m < dayMicros)
    (hN : n < dayMicros)
    (hRest : Ends rest)
    (hRest' : Ends rest')
    (hEq : clockChars m ++ rest = clockChars n ++ rest') :
    m = n ∧ rest = rest' := by
  simp only [dayMicros] at hM hN
  simp only [clockChars, List.append_assoc,
    List.cons_append] at hEq
  rcases pad_append_inj (by simp only [hour]; omega)
      (by simp only [hour]; omega) hEq with
    ⟨hHour, hAfterHour⟩
  simp only [List.cons.injEq, true_and] at hAfterHour
  rcases pad_append_inj (by simp only [minute]; omega)
      (by simp only [minute]; omega) hAfterHour with
    ⟨hMinute, hAfterMinute⟩
  simp only [List.cons.injEq, true_and] at hAfterMinute
  rcases pad_append_inj (by simp only [second]; omega)
      (by simp only [second]; omega) hAfterMinute with
    ⟨hSecond, hAfterSecond⟩
  have hFraction :
      microsecond m = microsecond n ∧ rest = rest' := by
    unfold fractionChars at hAfterSecond
    split at hAfterSecond <;> split at hAfterSecond
    · rename_i hZero hZero'
      exact ⟨by omega, by simpa using hAfterSecond⟩
    · rw [List.nil_append, List.cons_append] at hAfterSecond
      rw [hAfterSecond] at hRest
      exact absurd rfl (hRest '.' (by simp))
    · rw [List.nil_append, List.cons_append] at hAfterSecond
      rw [← hAfterSecond] at hRest'
      exact absurd rfl ( hRest' '.' (by simp))
    · simp only [List.cons_append, List.cons.injEq,
        true_and] at hAfterSecond
      exact pad_append_inj (by simp only [microsecond]; omega)
        (by simp only [microsecond]; omega) hAfterSecond
  exact ⟨micros_eq_of_fields hHour hMinute hSecond
    hFraction.1, hFraction.2⟩

/- Offsets with one text are equal up to their sign. -/
theorem offsetChars_inj
    (hM : m < dayMicros)
    (hN : n < dayMicros)
    (hEq : offsetChars m = offsetChars n) :
    m = n := by
  have hEnds : Ends [] := by
    intro c hc
    simp at hc
  have hLength :
      ∀ micros, 8 ≤ (clockChars micros).length := by
    intro micros
    simp [clockChars, Python.length_pad]
    omega
  have hShort :
      ∀ micros,
        (Python.pad 2 (hour micros) ++ ':' ::
          Python.pad 2 (minute micros)).length = 5 := by
    intro micros
    simp [Python.length_pad]
  unfold offsetChars at hEq
  split at hEq <;> split at hEq
  · rename_i hZero hZero'
    simp only [dayMicros] at hM hN
    rcases pad_append_inj (by simp only [hour]; omega)
        (by simp only [hour]; omega) hEq with
      ⟨hHour, hAfter⟩
    simp only [List.cons.injEq, true_and] at hAfter
    have hMinute :=
      Python.pad_inj (by simp only [minute]; omega)
        (by simp only [minute]; omega) hAfter
    simp only [hour, minute] at hHour hMinute
    omega
  · have hLong := hLength n
    rw [← hEq, hShort] at hLong
    omega
  · have hLong := hLength m
    rw [hEq, hShort] at hLong
    omega
  · exact (clockChars_append_inj hM hN hEnds hEnds
      (by simpa using hEq)).1

/- The ranges of the fields of a time stamp. -/
theorem ranges
    (d : Datetime) :
    d.date.year < 10000 ∧ d.date.month < 100 ∧
      d.date.day < 100 ∧ d.micros < dayMicros ∧
      d.offset.natAbs < dayMicros := by
  have hValid := d.valid
  have hMonth :
      CalendarDate.daysInMonth d.date.year d.date.month ≤ 31 := by
    unfold CalendarDate.daysInMonth
    split
    · split <;> omega
    · split <;> omega
  simp only [isValid, CalendarDate.isValid, Bool.and_eq_true,
    decide_eq_true_eq] at hValid
  simp only [dayMicros] at hValid ⊢
  omega

theorem ends_signChar
    (offset : Int)
    (rest : List Char) :
    Ends (signChar offset :: rest) := by
  intro c hc
  simp only [List.head?_cons, Option.mem_some_iff] at hc
  rw [← hc, signChar]
  split <;> decide

/- Time stamps with one text are equal. -/
theorem isoformat_inj
    {d e : Datetime}
    (hEq : d.isoformat = e.isoformat) :
    d = e := by
  have hChars : d.isoChars = e.isoChars := by
    simpa [isoformat] using congrArg String.toList hEq
  have hD := d.ranges
  have hE := e.ranges
  unfold isoChars at hChars
  rcases pad_append_inj (by omega) (by omega) hChars with
    ⟨hYear, hAfterYear⟩
  simp only [List.cons.injEq, true_and] at hAfterYear
  rcases pad_append_inj (by omega) (by omega) hAfterYear with
    ⟨hMonth, hAfterMonth⟩
  simp only [List.cons.injEq, true_and] at hAfterMonth
  rcases pad_append_inj (by omega) (by omega)
      hAfterMonth with
    ⟨hDay, hAfterDay⟩
  simp only [List.cons.injEq, true_and] at hAfterDay
  rcases clockChars_append_inj hD.2.2.2.1 hE.2.2.2.1
      (ends_signChar _ _) (ends_signChar _ _) hAfterDay with
    ⟨hMicros, hAfterClock⟩
  simp only [List.cons.injEq] at hAfterClock
  have hAbs :=
    offsetChars_inj hD.2.2.2.2 hE.2.2.2.2 hAfterClock.2
  have hOffset : d.offset = e.offset := by
    have hSign := hAfterClock.1
    unfold signChar at hSign
    split at hSign <;> split at hSign <;>
      first | omega | exact absurd hSign (by decide)
  rcases d with ⟨⟨dy, dm, dd⟩, dMicros, dOffset, dValid⟩
  rcases e with ⟨⟨ey, em, ed⟩, eMicros, eOffset, eValid⟩
  simp_all

/- The characters of a time stamp's text. -/
def isoAlphabet : List Char :=
  "0123456789-:T+.".toList

/- A time stamp's text holds these characters only. -/
theorem mem_isoAlphabet
    {d : Datetime}
    {c : Char}
    (hMem : c ∈ d.isoChars) :
    c ∈ isoAlphabet := by
  have hDigits :
      ∀ x ∈ Python.decimalDigits, x ∈ isoAlphabet :=
    Text.forall_of_all (by decide)
  have hPad :
      ∀ width n, c ∈ Python.pad width n → c ∈ isoAlphabet :=
    fun width n h => hDigits c (Python.mem_pad h)
  have hClock : ∀ n, c ∈ clockChars n → c ∈ isoAlphabet := by
    intro n h
    simp only [clockChars, fractionChars, List.mem_append,
      List.mem_cons] at h
    rcases h with h | h | h | h | h | h
    · exact hPad _ _ h
    · rw [h]; decide
    · exact hPad _ _ h
    · rw [h]; decide
    · exact hPad _ _ h
    · split at h
      · simp at h
      · rcases List.mem_cons.mp h with h | h
        · rw [h]; decide
        · exact hPad _ _ h
  simp only [isoChars, List.mem_append, List.mem_cons] at hMem
  rcases hMem with h | h | h | h | h | h | h | h | h
  · exact hPad _ _ h
  · rw [h]; decide
  · exact hPad _ _ h
  · rw [h]; decide
  · exact hPad _ _ h
  · rw [h]; decide
  · exact hClock _ h
  · rw [h, signChar]
    split <;> decide
  · unfold offsetChars at h
    split at h
    · simp only [List.mem_append, List.mem_cons] at h
      rcases h with h | h | h
      · exact hPad _ _ h
      · rw [h]; decide
      · exact hPad _ _ h
    · exact hClock _ h

/- A delimiter outside the alphabet is in no such text. -/
theorem delim_notMem_isoformat
    {delim : Char}
    (hDelim : delim ∉ isoAlphabet)
    (d : Datetime) :
    delim ∉ d.isoformat.toList := by
  intro hMem
  apply hDelim
  apply mem_isoAlphabet (d := d)
  simpa [isoformat] using hMem

end Datetime
