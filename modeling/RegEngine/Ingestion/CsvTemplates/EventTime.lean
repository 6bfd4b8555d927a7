import RegEngine.Ingestion.CsvTemplates.Coercions

/-
  The time stamp of a CSV row that gives the time of its event
  in a column of its own (`app/csv_templates.py`).

  Main declarations:
    * `CsvTemplates.parseDateAndTime`
    * `CsvTemplates.KeepsTime`
    * `CsvTemplates.keepsTime_rowTimestamp_iff`
-/

--------
-- Dates And Times
--------

namespace RegEngine

namespace CsvTemplates

/- A reader with `dateutil` where it is not fuzzy. -/
structure TimeReader extends Reader where
  dateutilStrict : String → Option Datetime

/- The seconds of one time and the fraction of another. -/
def joinMicros (seconds fraction : Nat) : Nat :=
  seconds / 1000000 * 1000000 + fraction % 1000000

/- Such a time is within the day. -/
theorem isValid_joinMicros
    (d t : Datetime) :
    Datetime.isValid d.date (joinMicros t.micros d.micros)
      d.offset = true := by
  have hDate := d.valid
  have hTime := t.valid
  simp only [Datetime.isValid, Bool.and_eq_true,
    decide_eq_true_eq] at hDate hTime ⊢
  refine ⟨⟨⟨hDate.1.1.1, ?_⟩, hDate.1.2⟩, hDate.2⟩
  have hLow := hTime.1.1.2
  unfold joinMicros
  unfold Datetime.dayMicros at hLow ⊢
  omega

/- `dt.replace(hour=…, minute=…, second=…)`. -/
def replaceClock (d t : Datetime) : Datetime where
  date := d.date
  micros := joinMicros t.micros d.micros
  offset := d.offset
  valid := isValid_joinMicros d t

/- The merge of the fallback; a time it cannot read is passed. -/
def mergeTime
    (rd : TimeReader)
    (eventTime : String)
    (d : Datetime) : Datetime :=
  if eventTime = "" then d
  else
    match rd.dateutilStrict eventTime with
    | some t => replaceClock d t
    | none => d

/-
  The time stamp of a date cell: a text that `fromisoformat`
  reads is taken as it is.
-/
def readDateAndTime
    (rd : TimeReader)
    (text eventTime : String) : Option Datetime :=
  match rd.fromisoformat (CtePersistence.replaceZulu text) with
  | some d => some d
  | none => (rd.dateutil text).map (mergeTime rd eventTime)

/- `_parse_date_flexible`. -/
def parseDateAndTime
    (rd : TimeReader)
    (raw eventTime : String) : Except String String :=
  let text := Python.strip raw
  if text = "" then
    .error "date field was empty"
  else if isAmbiguousNumericDate text.toList then
    .error ("AMBIGUOUS_DATE: '" ++ text ++
      "' could be month-day or day-month; use YYYY-MM-DD")
  else
    match readDateAndTime rd text eventTime with
    | some d => .ok (writeDate d)
    | none =>
        .error ("INVALID_FORMAT: could not parse date '" ++
          text ++ "'")

--------
-- Rows
--------

/- A row: a cell of a short row is `None`. -/
abbrev CsvRow := List (String × Option String)

/- `_DATE_FIELDS`. -/
def dateFields : List String :=
  ["event_date", "date", "timestamp", "harvest_date",
    "cooling_date", "packing_date", "ship_date",
    "receive_date", "transformation_date", "landing_date"]

/- `row.get(key) or ""`. -/
def cellOrEmpty (row : CsvRow) (key : String) : String :=
  ((row.lookup key).bind id).getD ""

/- `_first_present`. -/
def firstPresent (row : CsvRow) (keys : List String) : String :=
  ((keys.map (cellOrEmpty row)).find? (fun text =>
    text ≠ "")).getD ""

/- The time cell of a row. -/
def eventTimeRaw (row : CsvRow) : String :=
  Python.strip (cellOrEmpty row "event_time")

/- The `timestamp` that `parse_csv_rows` gives to an event. -/
def rowTimestamp (rd : TimeReader) (row : CsvRow) :
    Except String String :=
  parseDateAndTime rd (firstPresent row dateFields)
    (eventTimeRaw row)

/- `skip_fields`. -/
def skipFields : List String :=
  ["traceability_lot_code", "product_description", "quantity",
    "unit_of_measure", "location_gln", "location_name",
    "cte_type", "event_type", "type", "cte",
    "input_lot_codes", "input_quantities",
    "input_units_of_measure", "event_time"]

/- The loop that copies the other cells into the KDEs. -/
def cellKdes (row : CsvRow) : List (String × String) :=
  row.filterMap (fun cell =>
    match cell.2 with
    | none => none
    | some text =>
        if cell.1 ≠ "" ∧ text ≠ "" ∧ cell.1 ∉ skipFields then
          some (cell.1, text)
        else
          none)

--------
-- Times That Are Kept
--------

/-
  A row with a date that is read as `d` and a time that is
  read as `t`.
-/
structure Reads
    (rd : TimeReader)
    (row : CsvRow)
    (d t : Datetime) : Prop where
  date :
    readDate rd.toReader
      (Python.strip (firstPresent row dateFields)) = some d
  filled : Python.strip (firstPresent row dateFields) ≠ ""
  clear :
    isAmbiguousNumericDate
      (Python.strip (firstPresent row dateFields)).toList =
        false
  given : eventTimeRaw row ≠ ""
  time : rd.dateutilStrict (eventTimeRaw row) = some t

/- The time stamp has the date of `d` and the time of `t`. -/
def KeepsTime
    (timestamp : Except String String)
    (d t : Datetime) : Prop :=
  ∃ written : Datetime,
    timestamp = .ok (writeDate written) ∧
      written.date = d.date ∧ written.micros = t.micros

/-
  A date cell in an ISO form names the time of the event, any
  other one its fraction of a second.
-/
def NamesTime
    (rd : TimeReader)
    (row : CsvRow)
    (d t : Datetime) : Prop :=
  if (rd.fromisoformat (CtePersistence.replaceZulu
      (Python.strip (firstPresent row dateFields)))).isSome then
    d.micros = t.micros
  else
    d.micros % 1000000 = t.micros % 1000000

instance
    (rd : TimeReader)
    (row : CsvRow)
    (d t : Datetime) :
    Decidable (NamesTime rd row d t) := by
  unfold NamesTime
  infer_instance

/- Dates that are written alike are one. -/
theorem writeDate_inj
    (rd : Reader)
    {d d' : Datetime}
    (hEq : writeDate d = writeDate d') :
    d = d' := by
  have hRead := readDate_writeDate rd d
  rw [hEq, readDate_writeDate, Option.some.injEq] at hRead
  exact hRead.symm

/- What a row that is read gives as its time stamp. -/
theorem rowTimestamp_of_reads
    {rd : TimeReader}
    {row : CsvRow}
    {d t : Datetime}
    (hReads : Reads rd row d t) :
    rowTimestamp rd row =
      .ok (writeDate
        (if (rd.fromisoformat (CtePersistence.replaceZulu
            (Python.strip
              (firstPresent row dateFields)))).isSome then
          d
        else
          replaceClock d t)) := by
  have hDate := hReads.date
  have hMerge :
      mergeTime rd (eventTimeRaw row) d = replaceClock d t := by
    rw [mergeTime, if_neg hReads.given, hReads.time]
  simp only [rowTimestamp, parseDateAndTime,
    if_neg hReads.filled, hReads.clear, Bool.false_eq_true,
    if_false]
  unfold readDate at hDate
  unfold readDateAndTime
  split at hDate
  · rename_i found hIso
    rw [Option.some.injEq] at hDate
    simp [hIso, hDate]
  · rename_i hIso
    simp [hIso, hDate, hMerge]

/-
  A row keeps the time of its event just when its date cell
  already names that time, as far as the way in which the cell
  is read does not look at the time cell.
-/
theorem keepsTime_rowTimestamp_iff
    (rd : TimeReader)
    (row : CsvRow)
    (d t : Datetime)
    (hReads : Reads rd row d t) :
    KeepsTime (rowTimestamp rd row) d t ↔
      NamesTime rd row d t := by
  rw [rowTimestamp_of_reads hReads]
  unfold KeepsTime NamesTime
  have hWritten :
      ∀ stamp : Datetime, stamp.date = d.date →
        ((∃ written : Datetime,
          Except.ok (writeDate stamp) =
              (.ok (writeDate written) :
                Except String String) ∧
            written.date = d.date ∧
              written.micros = t.micros) ↔
          stamp.micros = t.micros) := by
    intro stamp hDate
    constructor
    · rintro ⟨written, hEq, -, hMicros⟩
      rw [Except.ok.injEq] at hEq
      rw [writeDate_inj rd.toReader hEq, hMicros]
    · intro hMicros
      exact ⟨stamp, rfl, hDate, hMicros⟩
  split
  · exact hWritten d rfl
  · rw [hWritten (replaceClock d t) rfl]
    change joinMicros t.micros d.micros = t.micros ↔ _
    unfold joinMicros
    omega

/- A reader of two dates, and of half past two. -/
def harvestReader : TimeReader where
  toReader :=
    { isoReader with
      dateutil := fun text =>
        if text = "April 1 2026" then
          some ⟨⟨2026, 4, 1⟩, 0, 0, by decide⟩
        else
          none }
  dateutilStrict := fun text =>
    if text = "14:30:00" then
      some ⟨⟨2026, 4, 2⟩, 52200000000, 0, by decide⟩
    else
      none

/- A harvest at half past two. -/
def harvestRow (date : String) : CsvRow :=
  [("harvest_date", some date),
    ("event_time", some "14:30:00")]

/- A date in words is joined with the time. -/
theorem keepsTime_harvestRow :
    KeepsTime
      (rowTimestamp harvestReader (harvestRow "April 1 2026"))
      ⟨⟨2026, 4, 1⟩, 0, 0, by decide⟩
      ⟨⟨2026, 4, 2⟩, 52200000000, 0, by decide⟩ :=
  (keepsTime_rowTimestamp_iff harvestReader
    (harvestRow "April 1 2026") _ _
    ⟨by decide, by decide, by decide,
      by decide, by decide⟩).mpr
        (by decide)

/- A date as the template asks for it is not. -/
theorem not_keepsTime_rowTimestamp :
    (∀ row : CsvRow, "event_time" ∉
        (cellKdes row).map Prod.fst) ∧
      ¬ ∀ (rd : TimeReader) (row : CsvRow) (d t : Datetime),
        Reads rd row d t →
          KeepsTime (rowTimestamp rd row) d t := by
  constructor
  · intro row hMem
    rcases List.mem_map.mp hMem with ⟨entry, hEntry, hKey⟩
    rcases List.mem_filterMap.mp hEntry with ⟨cell, -, hCell⟩
    split at hCell
    · cases hCell
    · split at hCell
      · rename_i hKept
        rw [Option.some.injEq] at hCell
        rw [← hCell] at hKey
        exact hKept.2.2 (by rw [hKey]; decide)
      · cases hCell
  · intro hAll
    have hReads :
        Reads harvestReader (harvestRow "2026-04-01")
          ⟨⟨2026, 4, 1⟩, 0, 0, by decide⟩
          ⟨⟨2026, 4, 2⟩, 52200000000, 0, by decide⟩ :=
      ⟨by decide, by decide,
        by decide, by decide,
        by decide⟩
    have hIso :
        (harvestReader.fromisoformat
          (CtePersistence.replaceZulu (Python.strip
            (firstPresent (harvestRow "2026-04-01")
              dateFields)))).isSome = true := by
      decide
    rcases hAll _ _ _ _ hReads with
      ⟨written, hWritten, -, hMicros⟩
    rw [rowTimestamp_of_reads hReads, if_pos hIso,
      Except.ok.injEq] at hWritten
    rw [← writeDate_inj harvestReader.toReader hWritten]
      at hMicros
    cases hMicros

end CsvTemplates

end RegEngine
