import RegEngine.Library.Csv.Lines
import RegEngine.Library.Datetime
import RegEngine.Library.Value
import RegEngine.Shared.CanonicalEvent
import RegEngine.Shared.CsvSafety

/-
  The sortable spreadsheet that the EPCIS exporter writes by
  hand (`app/epcis_export.py`, `export_fda`), and what a CSV
  reader makes of it.

  Main declarations:
    * `Epcis.exportFda`
    * `Epcis.Readable`
    * `Epcis.readable_iff`
    * `Epcis.not_exportFaithful`
-/

--------
-- The Export
--------

namespace RegEngine

open CsvSafety (safeCell Dangerous)

namespace Epcis

/- A row of `_query_tenant_events`, as `export_fda` reads it. -/
structure ExportRow where
  eventType : CTEType
  traceabilityLotCode : String
  productDescription : String
  quantity : Python.Float
  unitOfMeasure : String
  eventTimestamp : Option Datetime
  locationGln : Option String
  locationName : Option String
  sha256Hash : String
  shipFrom : Option String
  shipFromGln : Option String
  shipTo : Option String
  shipToGln : Option String
  carrier : Option String
  temperatureC : Option String

/- `FDA_CSV_HEADER`. -/
def fdaCsvHeader : List String :=
  ["CTE_Type", "Traceability_Lot_Code", "Product_Description",
    "Quantity", "Unit_of_Measure", "Event_Date", "Event_Time",
    "Ship_From_Location", "Ship_From_GLN", "Ship_To_Location",
    "Ship_To_GLN", "Carrier", "Temperature_C", "SHA256_Hash"]

/- `ts.strftime("%Y-%m-%d")`. -/
def dateText (ts : Datetime) : String :=
  String.ofList
    (Python.pad 4 ts.date.year ++ '-' ::
      (Python.pad 2 ts.date.month ++ '-' ::
        Python.pad 2 ts.date.day))

/- `ts.strftime("%H:%M:%SZ")`. -/
def timeText (ts : Datetime) : String :=
  String.ofList
    (Python.pad 2 (Datetime.hour ts.micros) ++ ':' ::
      (Python.pad 2 (Datetime.minute ts.micros) ++ ':' ::
        (Python.pad 2 (Datetime.second ts.micros) ++ ['Z'])))

/- `str(quantity or "")`. -/
def quantityText (quantity : Python.Float) : String :=
  if (Python.Value.float quantity).truthy then quantity.repr
  else ""

/- `text.replace(",", ";")`. -/
def semicolons (text : List Char) : List Char :=
  text.map (fun c => if c = ',' then ';' else c)

/- `sanitize_cell(text).replace(",", ";")`. -/
def freeText (text : String) : String :=
  String.ofList (semicolons (safeCell text).toList)

/- The place that goods were shipped from, or the location. -/
def ExportRow.fromLocation (row : ExportRow) : String :=
  (Python.orSome row.shipFrom row.locationName).getD ""

/- The GLN of that place, or of the location. -/
def ExportRow.fromGln (row : ExportRow) : String :=
  (Python.orSome row.shipFromGln row.locationGln).getD ""

/- The cells of a row but the last, which is the hash. -/
def ExportRow.cells (row : ExportRow) : List String :=
  [Python.upper row.eventType.value,
    row.traceabilityLotCode,
    freeText row.productDescription,
    quantityText row.quantity,
    row.unitOfMeasure,
    (row.eventTimestamp.map dateText).getD "",
    (row.eventTimestamp.map timeText).getD "",
    freeText row.fromLocation,
    row.fromGln,
    freeText (row.shipTo.getD ""),
    row.shipToGln.getD "",
    freeText (row.carrier.getD ""),
    row.temperatureC.getD ""]

def ExportRow.line (row : ExportRow) : String :=
  Python.join "," (row.cells ++ [row.sha256Hash])

/- The content that `export_fda` streams. -/
def exportFda (rows : List ExportRow) : String :=
  Python.join "\n"
    (Python.join "," fdaCsvHeader :: rows.map ExportRow.line) ++
      "\n"

/- What a record says of the row that it is for. -/
structure RecordOf
    (row : ExportRow)
    (record : List String) : Prop where
  length : record.length = 14
  lot : record[1]? = some row.traceabilityLotCode
  quantity : record[3]? = some row.quantity.repr
  unit : record[4]? = some row.unitOfMeasure
  fromGln : record[8]? = some row.fromGln
  toGln : record[10]? = some (row.shipToGln.getD "")
  hash : record[13]? = some row.sha256Hash
  safe : ∀ field ∈ record, ¬ Dangerous field.toList

/- The text is a header and the record of every row. -/
def ExportFaithful (rows : List ExportRow) : Prop :=
  ∃ records,
    Csv.parse (exportFda rows).toList =
        some (fdaCsvHeader :: records) ∧
      List.Forall₂ RecordOf rows records

/- No cell of a row leaves a quote open. -/
def ExportRow.QuotesClosed (row : ExportRow) : Prop :=
  ∀ cell ∈ row.cells ++ [row.sha256Hash],
    Csv.QuotesClosed cell.toList

/- A text that is its own field, and no formula. -/
structure Plain (text : String) : Prop where
  quote : text.toList.head? ≠ some '"'
  separators : ∀ c ∈ text.toList, Csv.isSeparator c = false
  safe : ¬ Dangerous text.toList

/- A text that is one field, whose value is no formula. -/
def OneField (text : List Char) : Prop :=
  ∃ field, Csv.value text = some field ∧ ¬ Dangerous field

/-
  A text whose commas become semicolons: without line breaks,
  or one quoted field.
-/
def Free (text : String) : Prop :=
  if text.toList.head? = some '"' then
    OneField (semicolons text.toList)
  else ∀ c ∈ text.toList, Csv.Reader.isBreak c = false

/- A row that is read as what it is. -/
structure Readable (row : ExportRow) : Prop where
  lot : Plain row.traceabilityLotCode
  product : Free row.productDescription
  quantity_ne : row.quantity.repr ≠ "0.0"
  quantity_safe : ¬ Dangerous row.quantity.repr.toList
  unit : Plain row.unitOfMeasure
  fromLocation : Free row.fromLocation
  fromGln : Plain row.fromGln
  toLocation : Free (row.shipTo.getD "")
  toGln : Plain (row.shipToGln.getD "")
  carrier : Free (row.carrier.getD "")
  temperature : OneField (row.temperatureC.getD "").toList
  hash : Plain row.sha256Hash

--------
-- The Cells
--------

/- A plain text is its own field. -/
theorem Plain.value
    {text : String}
    (hPlain : Plain text) :
    Csv.value text.toList = some text.toList :=
  Csv.value_of_plain hPlain.quote hPlain.separators

/- A safe text that is its own field is plain. -/
theorem plain_of_value
    {text : String}
    (hValue : Csv.value text.toList = some text.toList)
    (hSafe : ¬ Dangerous text.toList) :
    Plain text := by
  rcases Csv.value_eq_self_iff.mp hValue with
    ⟨hQuote, hSeparators⟩
  exact ⟨hQuote, hSeparators, hSafe⟩

/- No comma is left, and no other character changes. -/
theorem isSeparator_semicolons
    {text : List Char} :
    (∀ c ∈ semicolons text, Csv.isSeparator c = false) ↔
      ∀ c ∈ text, Csv.Reader.isBreak c = false := by
  have hOne : ∀ c : Char,
      Csv.isSeparator (if c = ',' then ';' else c) =
        Csv.Reader.isBreak c := by
    intro c
    split
    · rename_i hComma
      subst hComma
      decide
    · rename_i hOther
      simp [Csv.isSeparator, hOther]
  constructor
  · intro hAll c hMem
    rw [← hOne]
    exact hAll _ (List.mem_map_of_mem hMem)
  · intro hAll c hMem
    rcases List.mem_map.mp hMem with ⟨d, hD, rfl⟩
    rw [hOne]
    exact hAll d hD

/- A semicolon is as safe as a comma. -/
theorem dangerous_semicolons
    {text : List Char} :
    Dangerous (semicolons text) ↔ Dangerous text := by
  cases text with
  | nil => exact Iff.rfl
  | cons c rest =>
    by_cases hComma : c = ','
    · subst hComma
      have hLeft : ¬ Dangerous (semicolons (',' :: rest)) :=
        CsvSafety.not_dangerous_cons (c := ';') (by decide)
      have hRight : ¬ Dangerous (',' :: rest) :=
        CsvSafety.not_dangerous_cons (by decide)
      exact iff_of_false hLeft hRight
    · simp [Dangerous, semicolons, hComma]

/- A quote stands in front just when it stood in front. -/
theorem head?_semicolons
    {text : List Char} :
    (semicolons text).head? = some '"' ↔
      text.head? = some '"' := by
  cases text with
  | nil => exact Iff.rfl
  | cons c rest =>
    by_cases hComma : c = ','
    · subst hComma
      simp [semicolons]
    · simp [semicolons, hComma]

/- A text that opens no quote is one field without breaks. -/
theorem oneField_iff_of_head
    {text : List Char}
    (hQuote : text.head? ≠ some '"') :
    OneField text ↔
      (∀ c ∈ text, Csv.isSeparator c = false) ∧
        ¬ Dangerous text := by
  constructor
  · rintro ⟨field, hValue, hSafe⟩
    have hPlain := Csv.plain_of_value hQuote hValue
    rw [Csv.value_of_plain hQuote hPlain] at hValue
    cases hValue
    exact ⟨hPlain, hSafe⟩
  · rintro ⟨hPlain, hSafe⟩
    exact ⟨text, Csv.value_of_plain hQuote hPlain, hSafe⟩

/- The cell of a free text is one safe field. -/
theorem oneField_freeText_iff
    (text : String) :
    OneField (freeText text).toList ↔ Free text := by
  unfold freeText Free
  rw [String.toList_ofList]
  by_cases hDanger : Dangerous text.toList
  · have hQuote : text.toList.head? ≠ some '"' := by
      rcases hDanger with ⟨c, hHead, hMem⟩
      rw [Option.mem_def] at hHead
      rw [hHead]
      rintro ⟨⟩
      revert hMem
      decide
    have hCell :
        (safeCell text).toList = '\'' :: text.toList := by
      rw [safeCell, if_pos hDanger, String.toList_append]
      rfl
    have hApostrophe :
        semicolons ('\'' :: text.toList) =
          '\'' :: semicolons text.toList := rfl
    rw [hCell, if_neg hQuote, hApostrophe,
      oneField_iff_of_head (by simp)]
    rw [← isSeparator_semicolons]
    constructor
    · rintro ⟨hPlain, -⟩
      exact fun c hMem =>
        hPlain c (List.mem_cons_of_mem _ hMem)
    · intro hPlain
      refine ⟨?_, ?_⟩
      · intro c hMem
        rcases List.mem_cons.mp hMem with rfl | hRest
        · rfl
        · exact hPlain c hRest
      · exact CsvSafety.not_dangerous_cons (by decide)
  · rw [CsvSafety.safeCell_eq_self hDanger]
    split
    · exact Iff.rfl
    · rename_i hQuote
      rw [oneField_iff_of_head
        (fun hHead => hQuote (head?_semicolons.mp hHead)),
        isSeparator_semicolons, dangerous_semicolons]
      exact and_iff_left hDanger

/- The characters of numbers and of fixed texts. -/
theorem plain_of_chars
    {text : String}
    (hChars :
      ∀ c ∈ text.toList,
        Csv.isSeparator c = false ∧ c ≠ '"')
    (hSafe : ¬ Dangerous text.toList) :
    Plain text := by
  refine ⟨?_, fun c hMem => (hChars c hMem).1, hSafe⟩
  intro hHead
  exact (hChars '"' (List.mem_of_head? hHead)).2 rfl

variable {c : Char} {quantity : Python.Float}

/- A digit is no separator, no quote and no formula. -/
theorem of_mem_decimalDigits
    (hMem : c ∈ Python.decimalDigits) :
    (Csv.isSeparator c = false ∧ c ≠ '"') ∧
      c ∉ CsvSafety.dangerousPrefixes := by
  have hDigits : ∀ d ∈ Python.decimalDigits,
      (Csv.isSeparator d = false ∧ d ≠ '"') ∧
        d ∉ CsvSafety.dangerousPrefixes :=
    Text.forall_of_all (by decide)
  exact hDigits c hMem

/- A number padded to some width, and what follows it. -/
theorem not_dangerous_pad
    (width n : Nat)
    (rest : List Char) :
    ¬ Dangerous (Python.pad (width + 1) n ++ rest) := by
  cases hPad : Python.pad (width + 1) n with
  | nil =>
    have hLength := Python.length_pad (width + 1) n
    rw [hPad] at hLength
    cases hLength
  | cons c digits =>
    apply CsvSafety.not_dangerous_cons
    have hMem : c ∈ Python.pad (width + 1) n := by
      rw [hPad]
      exact List.mem_cons_self
    exact (of_mem_decimalDigits (Python.mem_pad hMem)).2

/- The characters of a text of numbers and marks. -/
theorem of_mem_pad
    {width n : Nat}
    (hMem : c ∈ Python.pad width n) :
    Csv.isSeparator c = false ∧ c ≠ '"' :=
  (of_mem_decimalDigits (Python.mem_pad hMem)).1

theorem plain_dateText
    (ts : Datetime) :
    Plain (dateText ts) := by
  apply plain_of_chars
  · intro c hMem
    simp only [dateText, String.toList_ofList, List.mem_append,
      List.mem_cons] at hMem
    rcases hMem with hYear | rfl | hMonth | rfl | hDay
    · exact of_mem_pad hYear
    · decide
    · exact of_mem_pad hMonth
    · decide
    · exact of_mem_pad hDay
  · rw [dateText, String.toList_ofList]
    exact not_dangerous_pad _ _ _

theorem plain_timeText
    (ts : Datetime) :
    Plain (timeText ts) := by
  apply plain_of_chars
  · intro c hMem
    simp only [timeText, String.toList_ofList, List.mem_append,
      List.mem_cons, List.not_mem_nil, or_false] at hMem
    rcases hMem with hHour | rfl | hMinute | rfl | hSecond | rfl
    · exact of_mem_pad hHour
    · decide
    · exact of_mem_pad hMinute
    · decide
    · exact of_mem_pad hSecond
    · decide
  · rw [timeText, String.toList_ofList]
    exact not_dangerous_pad _ _ _

theorem plain_empty : Plain "" := by
  refine ⟨by decide, ?_, by decide⟩
  intro c hMem
  cases hMem

/- The text of a stamp that may be missing. -/
theorem plain_getD_map
    (ts : Option Datetime)
    {text : Datetime → String}
    (hText : ∀ ts, Plain (text ts)) :
    Plain ((ts.map text).getD "") := by
  cases ts with
  | none => exact plain_empty
  | some ts => exact hText ts

theorem plain_eventType
    (eventType : CTEType) :
    Plain (Python.upper eventType.value) := by
  cases eventType <;>
    exact ⟨by decide,
      Text.forall_of_all (by decide),
      by decide⟩

/- The number that is not zero is written as it is. -/
theorem quantityText_of_ne
    (hNe : quantity.repr ≠ "0.0")
    (hSafe : ¬ Dangerous quantity.repr.toList) :
    quantityText quantity = quantity.repr := by
  have hNegative : quantity.repr ≠ "-0.0" := by
    intro hEq
    rw [hEq] at hSafe
    exact hSafe (by decide)
  simp [quantityText, Python.Value.truthy, hNe, hNegative]

theorem plain_repr
    (hSafe : ¬ Dangerous quantity.repr.toList) :
    Plain quantity.repr := by
  have hFloat : ∀ c ∈ Python.floatChars,
      Csv.isSeparator c = false ∧ c ≠ '"' :=
    Text.forall_of_all (by decide)
  apply plain_of_chars _ hSafe
  intro c hMem
  exact hFloat c (quantity.mem_floatChars hMem)

--------
-- What A Reader Makes Of It
--------

/- A line of the export, with its line feed. -/
theorem toList_join_comma
    (cells : List String)
    (last : String) :
    (Python.join "," (cells ++ [last])).toList ++ ['\n'] =
      Csv.line (cells.map String.toList) last.toList := by
  induction cells with
  | nil => rfl
  | cons cell cells ih =>
    have hJoin :
        Python.join "," (cell :: (cells ++ [last])) =
          cell ++ "," ++ Python.join "," (cells ++ [last]) := by
      cases cells with
      | nil => rfl
      | cons next cells => rfl
    rw [List.cons_append, hJoin, List.map_cons, Csv.line, ← ih]
    simp [String.toList_append, List.append_assoc]

/- Lines with line feeds between them and at the end. -/
theorem toList_join_newline
    {lines : List String}
    (hNe : lines ≠ []) :
    (Python.join "\n" lines ++ "\n").toList =
      (lines.map (fun text => text.toList ++ ['\n'])).flatten := by
  induction lines with
  | nil => exact absurd rfl hNe
  | cons text lines ih =>
    cases lines with
    | nil => simp [Python.join]
    | cons next lines =>
      have hRest := ih (List.cons_ne_nil _ _)
      rw [List.map_cons, List.flatten_cons, ← hRest, Python.join]
      simp [String.toList_append, List.append_assoc]

def rowText (row : ExportRow) : List Char :=
  Csv.line (row.cells.map String.toList) row.sha256Hash.toList

def headerText : List Char :=
  Csv.line ((fdaCsvHeader.take 13).map String.toList)
    "SHA256_Hash".toList

theorem toList_exportFda
    (rows : List ExportRow) :
    (exportFda rows).toList =
      (headerText :: rows.map rowText).flatten := by
  rw [exportFda, toList_join_newline (List.cons_ne_nil _ _),
    List.map_cons, List.map_map]
  have hHeader :
      (Python.join "," fdaCsvHeader).toList ++ ['\n'] =
        headerText :=
    toList_join_comma (fdaCsvHeader.take 13) "SHA256_Hash"
  have hRow :
      (fun text : String => text.toList ++ ['\n']) ∘
          ExportRow.line =
        rowText := by
    funext row
    exact toList_join_comma row.cells row.sha256Hash
  rw [hHeader, hRow]

/- The line of a row starts with its event type. -/
theorem run_rowText
    (row : ExportRow) :
    Csv.Reader.start.run (rowText row) =
      (Csv.Reader.atField []).run (rowText row) := by
  have hType :
      (Python.upper row.eventType.value).toList ≠ [] ∧
        ∀ c ∈ (Python.upper row.eventType.value).toList.head?,
          Csv.Reader.isBreak c = false := by
    refine ⟨?_, Text.forall_of_all_option ?_⟩
    · cases row.eventType <;> decide
    · cases row.eventType <;> decide
  change Csv.Reader.start.run (_ ++ ',' :: _) = _
  apply Csv.run_start
  · rw [List.head?_append_of_ne_nil _ hType.1]
    exact hType.2
  · intro hNil
    exact hType.1 (List.append_eq_nil_iff.mp hNil).1

theorem run_headerText :
    Csv.Reader.start.run headerText =
      some ([fdaCsvHeader], Csv.Reader.start) := by
  decide +kernel

theorem recordOf_of_readable
    {row : ExportRow}
    (hRow : Readable row) :
    ∃ record,
      Csv.Reader.start.run (rowText row) =
          some ([record], Csv.Reader.start) ∧
        RecordOf row record := by
  have hQuantity :=
    quantityText_of_ne hRow.quantity_ne hRow.quantity_safe
  have hNumber := plain_repr hRow.quantity_safe
  have hType := plain_eventType row.eventType
  have hDate := plain_getD_map row.eventTimestamp plain_dateText
  have hTime := plain_getD_map row.eventTimestamp plain_timeText
  rcases (oneField_freeText_iff _).mpr hRow.product with
    ⟨product, hProduct, hProductSafe⟩
  rcases (oneField_freeText_iff _).mpr hRow.fromLocation with
    ⟨fromPlace, hFrom, hFromSafe⟩
  rcases (oneField_freeText_iff _).mpr hRow.toLocation with
    ⟨toPlace, hTo, hToSafe⟩
  rcases (oneField_freeText_iff _).mpr hRow.carrier with
    ⟨carrier, hCarrier, hCarrierSafe⟩
  rcases hRow.temperature with
    ⟨temperature, hTemperature, hTemperatureSafe⟩
  have hValues :
      List.Forall₂
        (fun cell field => Csv.value cell = some field)
        (row.cells.map String.toList)
        [(Python.upper row.eventType.value).toList,
          row.traceabilityLotCode.toList, product,
          row.quantity.repr.toList, row.unitOfMeasure.toList,
          ((row.eventTimestamp.map dateText).getD "").toList,
          ((row.eventTimestamp.map timeText).getD "").toList,
          fromPlace, row.fromGln.toList, toPlace,
          (row.shipToGln.getD "").toList, carrier,
          temperature] := by
    rw [ExportRow.cells, hQuantity]
    exact .cons hType.value (.cons hRow.lot.value
      (.cons hProduct (.cons hNumber.value
        (.cons hRow.unit.value (.cons hDate.value
          (.cons hTime.value (.cons hFrom
            (.cons hRow.fromGln.value (.cons hTo
              (.cons hRow.toGln.value (.cons hCarrier
                (.cons hTemperature .nil))))))))))))
  refine ⟨_, (run_rowText row).trans
    (Csv.run_line hValues hRow.hash.value []), ?_⟩
  constructor
  · rfl
  · exact congrArg some String.ofList_toList
  · exact congrArg some String.ofList_toList
  · exact congrArg some String.ofList_toList
  · exact congrArg some String.ofList_toList
  · exact congrArg some String.ofList_toList
  · exact congrArg some String.ofList_toList
  · intro field hField
    rcases List.mem_map.mp hField with ⟨value, hValue, rfl⟩
    rw [String.toList_ofList]
    simp only [List.cons_append, List.nil_append, List.mem_cons,
      List.not_mem_nil, or_false] at hValue
    rcases hValue with rfl | rfl | rfl | rfl | rfl | rfl | rfl |
      rfl | rfl | rfl | rfl | rfl | rfl | rfl
    · exact hType.safe
    · exact hRow.lot.safe
    · exact hProductSafe
    · exact hNumber.safe
    · exact hRow.unit.safe
    · exact hDate.safe
    · exact hTime.safe
    · exact hFromSafe
    · exact hRow.fromGln.safe
    · exact hToSafe
    · exact hRow.toGln.safe
    · exact hCarrierSafe
    · exact hTemperatureSafe
    · exact hRow.hash.safe

/- The cells of a readable row leave no quote open. -/
theorem quotesClosed_of_readable
    {row : ExportRow}
    (hRow : Readable row) :
    row.QuotesClosed := by
  have hPlain : ∀ {text : String}, Plain text →
      Csv.QuotesClosed text.toList :=
    fun hText => Csv.quotesClosed_of_value hText.value
  have hField : ∀ {text : List Char}, OneField text →
      Csv.QuotesClosed text := by
    rintro text ⟨field, hValue, -⟩
    exact Csv.quotesClosed_of_value hValue
  have hFree : ∀ {text : String}, Free text →
      Csv.QuotesClosed (freeText text).toList :=
    fun hText => hField ((oneField_freeText_iff _).mpr hText)
  intro cell hCell
  simp only [ExportRow.cells,
    quantityText_of_ne hRow.quantity_ne hRow.quantity_safe,
    List.cons_append, List.nil_append, List.mem_cons,
    List.not_mem_nil, or_false] at hCell
  rcases hCell with rfl | rfl | rfl | rfl | rfl | rfl | rfl |
    rfl | rfl | rfl | rfl | rfl | rfl | rfl
  · exact hPlain (plain_eventType row.eventType)
  · exact hPlain hRow.lot
  · exact hFree hRow.product
  · exact hPlain (plain_repr hRow.quantity_safe)
  · exact hPlain hRow.unit
  · exact hPlain (plain_getD_map _ plain_dateText)
  · exact hPlain (plain_getD_map _ plain_timeText)
  · exact hFree hRow.fromLocation
  · exact hPlain hRow.fromGln
  · exact hFree hRow.toLocation
  · exact hPlain hRow.toGln
  · exact hFree hRow.carrier
  · exact hField hRow.temperature
  · exact hPlain hRow.hash

/- The cells of a line that leave no quote open. -/
theorem ExportRow.QuotesClosed.texts
    {row : ExportRow}
    (hClosed : row.QuotesClosed) :
    (∀ cell ∈ row.cells.map String.toList,
        Csv.QuotesClosed cell) ∧
      Csv.QuotesClosed row.sha256Hash.toList := by
  refine ⟨?_, hClosed _ (List.mem_append_right _
    (List.mem_singleton_self _))⟩
  intro cell hCell
  rcases List.mem_map.mp hCell with ⟨text, hText, rfl⟩
  exact hClosed text (List.mem_append_left _ hText)

/- A line whose record is that of its row is readable. -/
theorem readable_of_recordOf
    {row : ExportRow}
    (hClosed : row.QuotesClosed)
    {record : List String}
    (hRun :
      Csv.Reader.start.run (rowText row) =
        some ([record], Csv.Reader.start))
    (hRecord : RecordOf row record) :
    Readable row := by
  rw [run_rowText] at hRun
  rcases hClosed.texts with ⟨hCells, hLast⟩
  rcases (Csv.of_run_line hCells hLast hRun).2 with
    ⟨values, hash, hValues, hHash, hOne⟩ | hMany |
      ⟨fields, hFields, hLong⟩
  · rcases List.cons.inj hOne with ⟨rfl, -⟩
    simp only [ExportRow.cells, List.map_cons, List.map_nil,
      List.forall₂_cons_left_iff, List.forall₂_nil_left_iff]
      at hValues
    rcases hValues with ⟨eventType, _, hType, ⟨lot, _, hLot,
      ⟨product, _, hProduct, ⟨quantity, _, hQuantity,
      ⟨unit, _, hUnit, ⟨date, _, hDate, ⟨time, _, hTime,
      ⟨fromPlace, _, hFrom, ⟨fromGln, _, hFromGln,
      ⟨toPlace, _, hTo, ⟨toGln, _, hToGln, ⟨carrier, _, hCarrier,
      ⟨temperature, _, hTemperature, rfl, rfl⟩, rfl⟩, rfl⟩, rfl⟩,
      rfl⟩, rfl⟩, rfl⟩, rfl⟩, rfl⟩, rfl⟩, rfl⟩, rfl⟩, rfl⟩
    have hText : ∀ {field : List Char} {text : String},
        some (String.ofList field) = some text →
          field = text.toList := by
      rintro field text ⟨⟩
      exact String.toList_ofList.symm
    have hSafe : ∀ {field : List Char},
        String.ofList field ∈
            ([] : List String) ++
              ([eventType, lot, product, quantity, unit, date,
                time, fromPlace, fromGln, toPlace, toGln,
                carrier, temperature] ++ [hash]).map
                  String.ofList →
          ¬ Dangerous field := by
      intro field hMem
      have hField := hRecord.safe _ hMem
      rwa [String.toList_ofList] at hField
    have hKept : ∀ {field : List Char} {text : String},
        Csv.value text.toList = some field →
          field = text.toList → ¬ Dangerous field →
            Plain text := by
      rintro field text hValue rfl hNot
      exact plain_of_value hValue hNot
    have hNumber := hText hRecord.quantity
    constructor
    · exact hKept hLot (hText hRecord.lot)
        (hSafe (by simp))
    · exact (oneField_freeText_iff _).mp
        ⟨product, hProduct, hSafe (by simp)⟩
    · intro hZero
      have hEmpty : quantityText row.quantity = "" := by
        simp [quantityText, Python.Value.truthy, hZero]
      rw [hEmpty] at hQuantity
      cases hQuantity
      rw [hZero] at hNumber
      exact absurd hNumber (by decide)
    · rw [← hNumber]
      exact hSafe (by simp)
    · exact hKept hUnit (hText hRecord.unit)
        (hSafe (by simp))
    · exact (oneField_freeText_iff _).mp
        ⟨fromPlace, hFrom, hSafe (by simp)⟩
    · exact hKept hFromGln (hText hRecord.fromGln)
        (hSafe (by simp))
    · exact (oneField_freeText_iff _).mp
        ⟨toPlace, hTo, hSafe (by simp)⟩
    · exact hKept hToGln (hText hRecord.toGln)
        (hSafe (by simp))
    · exact (oneField_freeText_iff _).mp
        ⟨carrier, hCarrier, hSafe (by simp)⟩
    · exact ⟨temperature, hTemperature, hSafe (by simp)⟩
    · have hSame := hText hRecord.hash
      rcases hHash with hValue | hLess
      · exact hKept hValue hSame (hSafe (by simp))
      · rw [hSame] at hLess
        exact absurd hLess (Nat.lt_irrefl _)
  · exact absurd hMany (Nat.lt_irrefl 1)
  · rcases List.cons.inj hFields with ⟨rfl, -⟩
    have hLength := hRecord.length
    simp [ExportRow.cells] at hLong
    omega

/-
  The export is faithful just when its rows are readable, as
  far as no cell leaves a quote open.
-/
theorem readable_iff
    (rows : List ExportRow) :
    (∀ row ∈ rows, Readable row) ↔
      ExportFaithful rows ∧ ∀ row ∈ rows, row.QuotesClosed := by
  constructor
  · intro hRows
    refine ⟨?_, fun row hRow =>
      quotesClosed_of_readable (hRows row hRow)⟩
    have hRecords : ∃ records,
        List.Forall₂
            (fun row record =>
              Csv.Reader.start.run (rowText row) =
                some ([record], Csv.Reader.start))
            rows records ∧
          List.Forall₂ RecordOf rows records := by
      induction rows with
      | nil => exact ⟨[], .nil, .nil⟩
      | cons row rows ih =>
        rcases ih (fun other hOther =>
            hRows other (List.mem_cons_of_mem _ hOther)) with
          ⟨records, hRuns, hEach⟩
        rcases recordOf_of_readable
            (hRows row List.mem_cons_self) with
          ⟨record, hRun, hRecord⟩
        exact ⟨record :: records, .cons hRun hRuns,
          .cons hRecord hEach⟩
    rcases hRecords with ⟨records, hRuns, hEach⟩
    refine ⟨records, ?_, hEach⟩
    rw [toList_exportFda]
    apply Csv.parse_lines
    exact .cons run_headerText
      (List.forall₂_map_left_iff.mpr hRuns)
  · rintro ⟨⟨records, hParse, hEach⟩, hClosed⟩
    have hTexts :
        ∀ text ∈ headerText :: rows.map rowText, ∀ result,
          Csv.Reader.start.run text = some result →
            result.2 = Csv.Reader.start ∧
              1 ≤ result.1.length := by
      intro text hText result hRun
      rcases List.mem_cons.mp hText with rfl | hText
      · rw [run_headerText] at hRun
        cases hRun
        exact ⟨rfl, Nat.le_refl 1⟩
      · rcases List.mem_map.mp hText with ⟨row, hRow, rfl⟩
        rw [run_rowText] at hRun
        rcases (hClosed row hRow).texts with ⟨hCells, hLast⟩
        exact Csv.of_run_line_start hCells hLast hRun
    rw [toList_exportFda, Csv.parse] at hParse
    rcases Option.map_eq_some_iff.mp hParse with
      ⟨⟨given, reader⟩, hRun, hAll⟩
    rcases Csv.of_run_lines hTexts hRun with
      ⟨hStart, -, hLines⟩
    dsimp only at hStart hAll hLines
    subst hStart
    rw [Csv.Reader.rest, Csv.Reader.start, List.append_nil]
      at hAll
    subst hAll
    have hLength :
        (fdaCsvHeader :: records).length =
          (headerText :: rows.map rowText).length := by
      simp [hEach.length_eq]
    cases hLines hLength with
    | cons _ hRest =>
      rw [List.forall₂_map_left_iff] at hRest
      have hBoth :
          List.Forall₂
            (fun row record =>
              (row.QuotesClosed → Readable row) ∧
                RecordOf row record)
            rows records := by
        refine List.Forall₂.mp ?_ hRest hEach
        intro row record hLine hRecord
        exact ⟨fun hRow =>
          readable_of_recordOf hRow hLine hRecord, hRecord⟩
      intro row hRow
      exact ((List.forall₂_and_left _ _).mp hBoth).1 row hRow
        (hClosed row hRow)

/- A shipping event of a lot. -/
def lotRow (lot : String) : ExportRow where
  eventType := .shipping
  traceabilityLotCode := lot
  productDescription := "Salsa"
  quantity := ⟨"1.0", Python.isFloatRepr_one⟩
  unitOfMeasure := "cases"
  eventTimestamp := none
  locationGln := none
  locationName := none
  sha256Hash := ""
  shipFrom := none
  shipFromGln := none
  shipTo := none
  shipToGln := none
  carrier := none
  temperatureC := none

/- A lot code with a comma is read as two fields. -/
theorem not_exportFaithful :
    ¬ ExportFaithful [lotRow "A,B"] := by
  rintro ⟨records, hParse, hEach⟩
  have hRead :
      Csv.parse (exportFda [lotRow "A,B"]).toList =
        some [fdaCsvHeader,
          ["SHIPPING", "A", "B", "Salsa", "1.0", "cases", "",
            "", "", "", "", "", "", "", ""]] := by
    rw [toList_exportFda]
    apply Csv.parse_lines
    refine .cons run_headerText (.cons ?_ .nil)
    decide +kernel
  rw [hRead] at hParse
  cases hParse
  cases hEach with
  | cons hRecord _ =>
    exact absurd hRecord.length (by decide)

end Epcis

end RegEngine
