import RegEngine.Library.Chars
import RegEngine.Library.Isoformat
import RegEngine.Shared.CtePersistence.Core

/-
  How the CSV readers coerce a unit of measure and a date
  (`app/csv_templates.py`).

  Main declarations:
    * `CsvTemplates.Reader`
    * `CsvTemplates.normalizeUom`
    * `CsvTemplates.isoReader`
-/

--------
-- Units
--------

namespace RegEngine

namespace CsvTemplates

/-
  What reading a cell calls outside this repository:
  `str.lower`, `float` on a text, and the readers of time
  stamps of `datetime` and `dateutil`, both with a time that
  names no offset taken in UTC. `fromisoformat` reads what
  `isoformat` writes.
-/
structure Reader where
  lower : String → String
  float : String → Option Python.Float
  fromisoformat : String → Option Datetime
  dateutil : String → Option Datetime
  fromisoformat_isoformat :
    ∀ d : Datetime, fromisoformat d.isoformat = some d

/- `_UOM_ALIASES`. -/
def uomAliases : List (String × String) :=
  [("lb", "lbs"), ("pound", "lbs"), ("pounds", "lbs"),
    ("lb.", "lbs"), ("kilogram", "kg"), ("kilograms", "kg"),
    ("kgs", "kg"), ("ounce", "oz"), ("ounces", "oz"),
    ("gram", "g"), ("grams", "g"), ("ton", "tons"),
    ("tonne", "mt"), ("tonnes", "mt"), ("metric_ton", "mt"),
    ("metric ton", "mt"), ("case", "cases"), ("cs", "cases"),
    ("carton", "cartons"), ("ctn", "cartons"),
    ("ctns", "cartons"), ("box", "boxes"), ("bx", "boxes"),
    ("bxs", "boxes"), ("crate", "crates"), ("crt", "crates"),
    ("bin", "bins"), ("pallet", "pallets"), ("plt", "pallets"),
    ("plts", "pallets"), ("skid", "pallets"), ("tote", "totes"),
    ("bag", "bags"), ("bg", "bags"), ("sack", "sacks"),
    ("sk", "sacks"), ("ea", "each"), ("pc", "pieces"),
    ("piece", "pieces"), ("unit", "units"), ("un", "units"),
    ("ct", "count"), ("gallon", "gallons"), ("gal", "gallons"),
    ("gals", "gallons"), ("liter", "liters"),
    ("litre", "liters"), ("litres", "liters"),
    ("barrel", "barrels"), ("bbl", "barrels"),
    ("bushel", "bushels"), ("bu", "bushels")]

/- `text.rstrip(".")`. -/
def rstripDots (text : String) : String :=
  String.ofList
    (text.toList.reverse.dropWhile (fun c => c == '.')).reverse

/- `_normalize_uom`. -/
def normalizeUom (rd : Reader) (raw : String) : String :=
  let normalized := rstripDots (rd.lower (Python.strip raw))
  (uomAliases.lookup normalized).getD normalized

--------
-- Dates
--------

/- A character that `\d` matches. -/
def isDecimal (c : Char) : Bool :=
  (Chars.decimalValue c).isSome

/- A day and a month that can be taken for each other. -/
def isAmbiguousPair (a b : Nat) : Bool :=
  if a < 1 || b < 1 || 31 < a || 31 < b then false
  else a ≤ 12 && b ≤ 12 && a != b

/- One digit or two. -/
def isDayText (text : List Char) : Bool :=
  text.length == 1 || text.length == 2

/- Two digits or four. -/
def isYearText (text : List Char) : Bool :=
  (text.length == 2 || text.length == 4) && text.all isDecimal

/-
  `_is_ambiguous_numeric_date` on a stripped text: the pattern
  of two short numbers and a year with one sign between them,
  read from the left.
-/
def isAmbiguousNumericDate (text : List Char) : Bool :=
  let first := text.takeWhile isDecimal
  match text.drop first.length with
  | [] => false
  | sep :: rest =>
      let second := rest.takeWhile isDecimal
      match rest.drop second.length with
      | [] => false
      | sep' :: year =>
          isDayText first && (sep == '/' || sep == '-') &&
            isDayText second && sep' == sep &&
            isYearText year &&
            isAmbiguousPair ((Chars.intOfDigits first).getD 0)
              ((Chars.intOfDigits second).getD 0)

/- `text.replace("+00:00", "Z")`. -/
def replaceUtc : List Char → List Char
| '+' :: '0' :: '0' :: ':' :: '0' :: '0' :: rest =>
    'Z' :: replaceUtc rest
| c :: rest => c :: replaceUtc rest
| [] => []

/- The text that a date is rewritten to. -/
def writeDate (d : Datetime) : String :=
  String.ofList (replaceUtc d.isoChars)

/- The time stamp of a text, in either way of reading it. -/
def readDate (rd : Reader) (text : String) : Option Datetime :=
  match rd.fromisoformat (CtePersistence.replaceZulu text) with
  | some d => some d
  | none => rd.dateutil text

/- `_parse_date_flexible` without a separate time. -/
def parseDateFlexible (rd : Reader) (raw : String) :
    Except String String :=
  let text := Python.strip raw
  if text = "" then
    .error "date field was empty"
  else if isAmbiguousNumericDate text.toList then
    .error ("AMBIGUOUS_DATE: '" ++ text ++
      "' could be month-day or day-month; use YYYY-MM-DD")
  else
    match readDate rd text with
    | some d => .ok (writeDate d)
    | none =>
        .error ("INVALID_FORMAT: could not parse date '" ++
          text ++ "'")

--------
-- Written Dates Are Read Back
--------

/- A sign that is no plus stays as it is. -/
theorem replaceUtc_append
    {front : List Char}
    (rest : List Char)
    (hPlus : '+' ∉ front) :
    replaceUtc (front ++ rest) = front ++ replaceUtc rest := by
  induction front with
  | nil => rfl
  | cons c front ih =>
      rw [List.mem_cons, not_or] at hPlus
      rw [List.cons_append, List.cons_append,
        ← ih hPlus.2, replaceUtc.eq_2]
      intro _ hEq
      exact absurd hEq.symm hPlus.1

/- Writing the offset out again undoes the replacement. -/
theorem replaceZulu_replaceUtc
    {text : List Char}
    (hZulu : 'Z' ∉ text) :
    CtePersistence.replaceZulu (String.ofList (replaceUtc text)) =
      String.ofList text := by
  unfold CtePersistence.replaceZulu
  simp only [String.toList_ofList]
  refine congrArg String.ofList ?_
  fun_induction replaceUtc text with
  | case1 rest ih =>
      simp only [List.mem_cons, not_or] at hZulu
      rw [List.flatMap_cons, ih hZulu.2.2.2.2.2.2]
      rfl
  | case2 c rest _ ih =>
      rw [List.mem_cons, not_or] at hZulu
      rw [List.flatMap_cons, ih hZulu.2,
        if_neg (Ne.symm hZulu.1)]
      rfl
  | case3 => rfl

/- The characters of a written date. -/
theorem mem_replaceUtc
    {text : List Char}
    {c : Char}
    (hMem : c ∈ replaceUtc text) :
    c = 'Z' ∨ c ∈ text := by
  fun_induction replaceUtc text with
  | case1 rest ih =>
      rcases List.mem_cons.mp hMem with hHead | hTail
      · exact Or.inl hHead
      · rcases ih hTail with hZulu | hRest
        · exact Or.inl hZulu
        · refine Or.inr ?_
          simp [hRest]
  | case2 d rest _ ih =>
      rcases List.mem_cons.mp hMem with hHead | hTail
      · exact Or.inr (by simp [hHead])
      · rcases ih hTail with hZulu | hRest
        · exact Or.inl hZulu
        · exact Or.inr (by simp [hRest])
  | case3 => simp at hMem

/- A written date starts with the four digits of its year. -/
theorem writeDate_year
    (d : Datetime) :
    ∃ rest,
      (writeDate d).toList =
        Python.pad 4 d.date.year ++ '-' :: rest := by
  have hPlus : '+' ∉ Python.pad 4 d.date.year := by
    intro hMem
    exact absurd (Python.mem_pad hMem) (by decide)
  rw [writeDate, String.toList_ofList, Datetime.isoChars,
    replaceUtc_append _ hPlus, replaceUtc.eq_2]
  · exact ⟨_, rfl⟩
  · intro _ hEq
    exact absurd hEq (by decide)

/- A written date has no white space. -/
theorem strip_writeDate
    (d : Datetime) :
    Python.strip (writeDate d) = writeDate d := by
  have hSpace :
      ∀ c ∈ (writeDate d).toList,
        Python.isSpace c = false := by
    have hAll :
        ∀ c ∈ Datetime.isoAlphabet,
          Python.isSpace c = false :=
      Text.forall_of_all (by decide)
    intro c hMem
    rw [writeDate, String.toList_ofList] at hMem
    rcases mem_replaceUtc hMem with hZulu | hIso
    · rw [hZulu]
      decide
    · exact hAll c (Datetime.mem_isoAlphabet hIso)
  have hKept :
      Chars.strip (writeDate d).toList =
        (writeDate d).toList :=
    Chars.strip_eq_self
      (fun c hHead => hSpace c (List.mem_of_mem_head? hHead))
      (fun c hLast => hSpace c (List.mem_of_getLast? hLast))
  change String.ofList (Chars.strip (writeDate d).toList) = _
  rw [hKept, String.ofList_toList]

/- A written date is no short numeric one. -/
theorem isAmbiguousNumericDate_writeDate
    (d : Datetime) :
    isAmbiguousNumericDate (writeDate d).toList = false := by
  rcases writeDate_year d with ⟨rest, hYear⟩
  have hDigits :
      ∀ c ∈ Python.pad 4 d.date.year, isDecimal c = true := by
    have hAll :
        ∀ c ∈ Python.decimalDigits, isDecimal c = true :=
      Text.forall_of_all (by decide)
    exact fun c hMem => hAll c (Python.mem_pad hMem)
  have hFirst :
      (writeDate d).toList.takeWhile isDecimal =
        Python.pad 4 d.date.year := by
    rw [hYear, List.takeWhile_append_of_pos hDigits,
      List.takeWhile_cons_of_neg (by decide), List.append_nil]
  have hLong : isDayText (Python.pad 4 d.date.year) = false := by
    simp [isDayText, Python.length_pad]
  unfold isAmbiguousNumericDate
  simp only [hFirst, hLong, Bool.false_and]
  split
  · rfl
  · split <;> rfl

theorem readDate_writeDate
    (rd : Reader)
    (d : Datetime) :
    readDate rd (writeDate d) = some d := by
  have hZulu : 'Z' ∉ d.isoChars := by
    intro hMem
    exact absurd (Datetime.mem_isoAlphabet hMem) (by decide)
  have hText :
      CtePersistence.replaceZulu (writeDate d) =
        d.isoformat :=
    replaceZulu_replaceUtc hZulu
  rw [readDate, hText, rd.fromisoformat_isoformat]

/- Reading a date that was rewritten changes nothing. -/
theorem parseDateFlexible_written
    {rd : Reader}
    {raw iso : String}
    (hParse : parseDateFlexible rd raw = .ok iso) :
    parseDateFlexible rd iso = .ok iso := by
  have hWritten : ∃ d, iso = writeDate d := by
    unfold parseDateFlexible at hParse
    simp only at hParse
    split at hParse
    · simp at hParse
    · split at hParse
      · simp at hParse
      · split at hParse
        · rename_i d _
          simp only [Except.ok.injEq] at hParse
          exact ⟨d, hParse.symm⟩
        · simp at hParse
  rcases hWritten with ⟨d, rfl⟩
  have hSome : writeDate d ≠ "" := by
    rcases writeDate_year d with ⟨rest, hYear⟩
    intro hEmpty
    rw [hEmpty] at hYear
    have hLen := congrArg List.length hYear
    simp at hLen
  simp only [parseDateFlexible, strip_writeDate, hSome, if_false,
    isAmbiguousNumericDate_writeDate, Bool.false_eq_true,
    readDate_writeDate]

--------
-- A Reader of Plain Cells
--------

/- A text of ASCII digits as a number. -/
def wholeNumber (text : String) : Option Python.Float :=
  let repr :=
    toString (Datetime.digitsValue text.toList) ++ ".0"
  if hWf :
      (text ≠ "" ∧ text.toList.all Char.isDigit = true) ∧
        Python.isFloatRepr repr = true then
    some ⟨repr, hWf.2⟩
  else
    none

/-
  A reader of whole numbers, of dates, and of time stamps as
  `isoformat` writes them.
-/
def isoReader : Reader where
  lower := Python.lower
  float := wholeNumber
  fromisoformat := fun text =>
    (Datetime.ofIsoformat text).or
      (Datetime.ofIsoformat (text ++ "T00:00:00+00:00"))
  dateutil := fun _ => none
  fromisoformat_isoformat := by
    intro d
    rw [Datetime.ofIsoformat_isoformat]
    rfl

end CsvTemplates

end RegEngine
