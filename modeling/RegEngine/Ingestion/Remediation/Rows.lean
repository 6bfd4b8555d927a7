import RegEngine.Ingestion.Remediation.Service
import RegEngine.Library.Dict

/-
  The event of a manifest row told by its cells: the last cell
  for a place decides, and the coercions of revalidation leave
  it alone just on settled rows.

  Main declarations:
    * `Remediation.HasCell`
    * `Remediation.LastCell`
    * `Remediation.coerceKdes_row`
-/

--------
-- What a Row Writes
--------

namespace RegEngine

open Python (Value Dict)
open CsvTemplates (Reader)

namespace Remediation

/- The place and the coercion of a cell that is not empty. -/
def reading (rd : Reader) (cell : String × Cell) :
    Option (Place × Coercion) :=
  match cell with
  | (col, .text raw) =>
      let stripped := Python.strip raw
      if stripped = "" then
        none
      else
        some (placeOf rd col,
          normalizeText rd (placeOf rd col) col stripped
            (if stripped = raw then none
              else some "trim_whitespace"))
  | (col, .surplus values) =>
      some (.kde (columnName rd col) false,
        ⟨(Cell.surplus values).value, none, []⟩)

/- A round of the loop stores what it reads. -/
theorem readCell_eq
    (rd : Reader)
    (intake : Intake)
    (cell : String × Cell) :
    readCell rd intake cell =
      match reading rd cell with
      | none => intake
      | some (place, coerced) =>
          intake.store place cell.1 cell.2.value coerced := by
  rcases cell with ⟨col, raw | values⟩
  · simp only [readCell, reading]
    by_cases hEmpty : Python.strip raw = ""
    · simp [hEmpty]
    · simp only [hEmpty, if_false]
      rfl
  · rfl

/- What a cell writes into the fields of the event. -/
def fieldWrite (rd : Reader) (cell : String × Cell) :
    Option (String × Value) :=
  match reading rd cell with
  | some (.top name, coerced) => some (name, coerced.value)
  | _ => none

def kdeWrite (rd : Reader) (cell : String × Cell) :
    Option (String × Value) :=
  match reading rd cell with
  | some (.kde name _, coerced) => some (name, coerced.value)
  | _ => none

/- The checks that a cell fails. -/
def cellFailures (rd : Reader) (cell : String × Cell) :
    List Failure :=
  match reading rd cell with
  | some (_, coerced) => coerced.failures
  | none => []

/- The fields after the loop over the cells. -/
theorem foldl_readCell_fields
    (rd : Reader)
    (cells : List (String × Cell))
    (intake : Intake) :
    (cells.foldl (readCell rd) intake).event.fields =
      (cells.filterMap (fieldWrite rd)).foldl
        (fun d entry => Dict.set d entry.1 entry.2)
        intake.event.fields := by
  induction cells generalizing intake with
  | nil => rfl
  | cons cell rest ih =>
      rw [List.foldl_cons, ih, readCell_eq, List.filterMap_cons,
        fieldWrite]
      cases reading rd cell with
      | none => rfl
      | some read =>
          rcases read with ⟨name | ⟨name, dated⟩, coerced⟩
          · rfl
          · rfl

/- The KDEs after the loop over the cells. -/
theorem foldl_readCell_kdes
    (rd : Reader)
    (cells : List (String × Cell))
    (intake : Intake) :
    (cells.foldl (readCell rd) intake).event.kdes =
      (cells.filterMap (kdeWrite rd)).foldl
        (fun d entry => Dict.set d entry.1 entry.2)
        intake.event.kdes := by
  induction cells generalizing intake with
  | nil => rfl
  | cons cell rest ih =>
      rw [List.foldl_cons, ih, readCell_eq, List.filterMap_cons,
        kdeWrite]
      cases reading rd cell with
      | none => rfl
      | some read =>
          rcases read with ⟨name | ⟨name, dated⟩, coerced⟩
          · rfl
          · rfl

/- The failures after the loop over the cells. -/
theorem foldl_readCell_failures
    (rd : Reader)
    (cells : List (String × Cell))
    (intake : Intake) :
    (cells.foldl (readCell rd) intake).failures =
      intake.failures ++ cells.flatMap (cellFailures rd) := by
  induction cells generalizing intake with
  | nil => simp
  | cons cell rest ih =>
      rw [List.foldl_cons, ih, readCell_eq, List.flatMap_cons,
        cellFailures]
      cases reading rd cell with
      | none => rfl
      | some read => simp [Intake.store]

theorem buildEventFromRow_fields
    (rd : Reader)
    (row : RawRow) :
    (buildEventFromRow rd row).event.fields =
      Dict.ofWrites (row.cells.filterMap (fieldWrite rd)) :=
  foldl_readCell_fields rd row.cells _

theorem buildEventFromRow_kdes
    (rd : Reader)
    (row : RawRow) :
    (buildEventFromRow rd row).event.kdes =
      Dict.ofWrites (row.cells.filterMap (kdeWrite rd)) :=
  foldl_readCell_kdes rd row.cells _

theorem buildEventFromRow_failures
    (rd : Reader)
    (row : RawRow) :
    (buildEventFromRow rd row).failures =
      row.cells.flatMap (cellFailures rd) ++
        quantityFailures (some "quantity")
          ((buildEventFromRow rd row).event.fields.get
            "quantity") ++
        tlcFailures
          ((buildEventFromRow rd row).event.fields.get
            "traceability_lot_code") := by
  have hLoop :=
    foldl_readCell_failures rd row.cells ⟨⟨[], []⟩, [], []⟩
  rw [List.nil_append] at hLoop
  rw [← hLoop]
  rfl

--------
-- Settled Rows
--------

/- The place without the way its text is read. -/
def Place.slot : Place → Place
| .top name => .top name
| .kde name _ => .kde name false

/- A place whose text is read as a date at intake. -/
def Place.isDate : Place → Bool
| .top name => name == "timestamp"
| .kde _ dated => dated

/- A cell of the row that is not blank, with its text. -/
def HasCell
    (rd : Reader)
    (row : RawRow)
    (place : Place)
    (text : String) :
    Prop :=
  ∃ col raw, (col, Cell.text raw) ∈ row.cells ∧
    placeOf rd col = place ∧ Python.strip raw = text ∧ text ≠ ""

/- A cell whose place no later cell of the row fills. -/
def LastCell
    (rd : Reader)
    (row : RawRow)
    (place : Place)
    (text : String) :
    Prop :=
  ∃ front col raw back,
    row.cells = front ++ (col, Cell.text raw) :: back ∧
      placeOf rd col = place ∧ Python.strip raw = text ∧
      text ≠ "" ∧
      ∀ later ∈ back, ∀ read,
        reading rd later = some read →
          read.1.slot ≠ place.slot

/-
  The rows that revalidation does not coerce once more: every
  cell for a quantity or a date can be read, the quantity that
  counts is above zero, the unit that counts stays as it is
  when it is normalized again, and a column that intake takes
  over as it is, though its name ends in `date`, holds a date
  as the date parser writes it.
-/
structure Settled (rd : Reader) (row : RawRow) : Prop where
  number :
    ∀ text, HasCell rd row (.top "quantity") text →
      ∃ x, finiteFloat rd text = some x
  date :
    ∀ place text, place.isDate = true →
      HasCell rd row place text →
        ∃ iso, CsvTemplates.parseDateFlexible rd text = .ok iso
  positive :
    ∀ text x, LastCell rd row (.top "quantity") text →
      finiteFloat rd text = some x → x.nonpos = false
  unit :
    ∀ text, LastCell rd row (.top "unit_of_measure") text →
      CsvTemplates.normalizeUom rd text ≠ "" →
        CsvTemplates.normalizeUom rd
            (CsvTemplates.normalizeUom rd text) =
          CsvTemplates.normalizeUom rd text
  plain :
    ∀ name text, endsWithDate name = true →
      LastCell rd row (.kde name false) text →
        CsvTemplates.parseDateFlexible rd text = .ok text

--------
-- The Cells of a Row
--------

variable {place : Place} {name : String}

theorem LastCell.hasCell
    {rd : Reader}
    {row : RawRow}
    {text : String}
    (hLast : LastCell rd row place text) :
    HasCell rd row place text := by
  rcases hLast with
    ⟨front, col, raw, back, hSplit, hPlace, hText, hSome, -⟩
  refine ⟨col, raw, ?_, hPlace, hText, hSome⟩
  rw [hSplit]
  simp

/- A date that is read is stored as it is written. -/
theorem normalizeDate_of_ok
    {rd : Reader}
    {text iso : String}
    (hParse :
      CsvTemplates.parseDateFlexible rd text = .ok iso)
    (col path : String)
    (trimRule : Option String) :
    (normalizeDate rd text col path trimRule).value = .str iso ∧
      (normalizeDate rd text col path trimRule).failures =
        [] := by
  simp [normalizeDate, hParse]

/- A date that is not read fails. -/
theorem normalizeDate_failures
    {rd : Reader}
    {text col path : String}
    {trimRule : Option String} :
    (normalizeDate rd text col path trimRule).failures = [] ↔
      ∃ iso,
        CsvTemplates.parseDateFlexible rd text = .ok iso := by
  unfold normalizeDate
  cases CsvTemplates.parseDateFlexible rd text with
  | error warning => simp
  | ok iso => simp

/- A text passes the checks of its place. -/
theorem normalizeText_failures
    {rd : Reader}
    {col text : String}
    {trimRule : Option String} :
    (normalizeText rd place col text trimRule).failures = [] ↔
      (place = .top "quantity" →
          ∃ x, finiteFloat rd text = some x) ∧
        (place.isDate = true →
          ∃ iso, CsvTemplates.parseDateFlexible rd text =
            .ok iso) := by
  rcases place with name | ⟨name, _ | _⟩
  · simp only [normalizeText, Place.isDate, Place.top.injEq,
      beq_iff_eq]
    unfold normalizeField
    split
    · cases finiteFloat rd text with
      | none => simp
      | some x => simp
    · simp
    · simp
    · rw [normalizeDate_failures]
      simp
    · rename_i hQuantity _ _ hTimestamp
      have hBoth :
          ¬ name = "quantity" ∧ ¬ name = "timestamp" :=
        ⟨hQuantity, hTimestamp⟩
      simp [hBoth.1, hBoth.2]
  · simp [normalizeText, Place.isDate]
  · simp only [normalizeText, normalizeDate_failures,
      Place.isDate]
    simp

/- The cells of a row fail no check. -/
theorem cellFailures_eq_nil_iff
    {rd : Reader}
    {row : RawRow} :
    row.cells.flatMap (cellFailures rd) = [] ↔
      (∀ text, HasCell rd row (.top "quantity") text →
          ∃ x, finiteFloat rd text = some x) ∧
        ∀ place text, place.isDate = true →
          HasCell rd row place text →
            ∃ iso, CsvTemplates.parseDateFlexible rd text =
              .ok iso := by
  rw [List.flatMap_eq_nil_iff]
  constructor
  · intro hNone
    have hRead :
        ∀ place text, HasCell rd row place text →
          (place = .top "quantity" →
              ∃ x, finiteFloat rd text = some x) ∧
            (place.isDate = true →
              ∃ iso, CsvTemplates.parseDateFlexible rd text =
                .ok iso) := by
      rintro place text ⟨col, raw, hMem, rfl, rfl, hSome⟩
      have hCell := hNone _ hMem
      simp only [cellFailures, reading, hSome, if_false]
        at hCell
      exact normalizeText_failures.mp hCell
    refine ⟨?_, ?_⟩
    · intro text hCell
      exact (hRead _ text hCell).1 rfl
    · intro place text hDate hCell
      exact (hRead place text hCell).2 hDate
  · rintro ⟨hNumber, hDate⟩ ⟨col, raw | values⟩ hMem
    · by_cases hEmpty : Python.strip raw = ""
      · simp [cellFailures, reading, hEmpty]
      · simp only [cellFailures, reading, hEmpty, if_false]
        apply normalizeText_failures.mpr
        refine ⟨?_, ?_⟩
        · intro hPlace
          exact hNumber _ ⟨col, raw, hMem, hPlace, rfl, hEmpty⟩
        · intro hPlace
          exact hDate _ _ hPlace
            ⟨col, raw, hMem, rfl, rfl, hEmpty⟩
    · rfl

/- The value that the text of a field is stored as. -/
def fieldValue (rd : Reader) (name text : String) : Value :=
  (normalizeField rd name "" text none).value

/- The column and the trimming do not change the value. -/
theorem normalizeField_value
    (rd : Reader)
    (name col text : String)
    (trimRule : Option String) :
    (normalizeField rd name col text trimRule).value =
      fieldValue rd name text := by
  have hDate :
      ∀ path,
        (normalizeDate rd text col path trimRule).value =
          (normalizeDate rd text "" path none).value := by
    intro path
    unfold normalizeDate
    cases CsvTemplates.parseDateFlexible rd text with
    | error warning => rfl
    | ok iso => rfl
  unfold fieldValue normalizeField
  split
  · cases finiteFloat rd text with
    | none => rfl
    | some x => rfl
  · rfl
  · rfl
  · exact hDate _
  · rfl

/- A cell of a field of the event writes its value. -/
theorem fieldWrite_text
    {rd : Reader}
    {col raw name : String}
    (hPlace : placeOf rd col = .top name)
    (hSome : Python.strip raw ≠ "") :
    fieldWrite rd (col, .text raw) =
      some (name, fieldValue rd name (Python.strip raw)) := by
  simp only [fieldWrite, reading, hSome, if_false, hPlace,
    normalizeText, normalizeField_value]

/- The last writes of a row's fields are its last cells. -/
theorem last_fieldWrite
    {rd : Reader}
    {row : RawRow}
    {value : Value} :
    Dict.Last (row.cells.filterMap (fieldWrite rd))
        (name, value) ↔
      ∃ text, LastCell rd row (.top name) text ∧
        fieldValue rd name text = value := by
  have hLater :
      ∀ later : String × Cell,
        (∀ write, fieldWrite rd later = some write →
            write.1 ≠ name) ↔
          ∀ read, reading rd later = some read →
            read.1.slot ≠ (Place.top name).slot := by
    intro later
    unfold fieldWrite
    cases reading rd later with
    | none => simp
    | some read =>
        rcases read with ⟨other | ⟨other, dated⟩, coerced⟩
        · simp [Place.slot]
        · simp [Place.slot]
  rw [Dict.last_filterMap]
  constructor
  · rintro ⟨front, ⟨col, raw | values⟩, back, hSplit, hItem, hBack⟩
    · by_cases hEmpty : Python.strip raw = ""
      · simp [fieldWrite, reading, hEmpty] at hItem
      · cases hPlace : placeOf rd col with
        | kde other dated =>
            simp [fieldWrite, reading, hEmpty, hPlace] at hItem
        | top other =>
            rw [fieldWrite_text hPlace hEmpty,
              Option.some.injEq, Prod.mk.injEq] at hItem
            rw [hItem.1] at hPlace hItem
            refine ⟨Python.strip raw,
              ⟨front, col, raw, back, hSplit, hPlace, rfl,
                hEmpty, ?_⟩, hItem.2⟩
            exact fun later hMem =>
              (hLater later).mp (hBack later hMem)
    · simp [fieldWrite, reading] at hItem
  · rintro ⟨text, ⟨front, col, raw, back, hSplit, hPlace, rfl,
      hSome, hBack⟩, hValue⟩
    refine ⟨front, (col, .text raw), back, hSplit, ?_, ?_⟩
    · rw [fieldWrite_text hPlace hSome, hValue]
    · exact fun later hMem =>
        (hLater later).mpr (hBack later hMem)

/- The text that a KDE's cell is stored as. -/
def kdeValue (rd : Reader) (dated : Bool) (text : String) :
    Value :=
  (normalizeText rd (.kde "" dated) "" text none).value

/- A cell of a KDE writes its value. -/
theorem kdeWrite_text
    {rd : Reader}
    {col raw name : String}
    {dated : Bool}
    (hPlace : placeOf rd col = .kde name dated)
    (hSome : Python.strip raw ≠ "") :
    kdeWrite rd (col, .text raw) =
      some (name, kdeValue rd dated (Python.strip raw)) := by
  simp only [kdeWrite, reading, hSome, if_false, hPlace,
    kdeValue, Option.some.injEq, Prod.mk.injEq, true_and]
  cases dated with
  | false => rfl
  | true =>
      simp only [normalizeText, normalizeDate]
      cases CsvTemplates.parseDateFlexible rd
          (Python.strip raw) with
      | error warning => rfl
      | ok iso => rfl

/- The last texts among a row's KDEs are those of last cells. -/
theorem last_kdeWrite
    {rd : Reader}
    {row : RawRow}
    {name stored : String} :
    Dict.Last (row.cells.filterMap (kdeWrite rd))
        (name, .str stored) ↔
      ∃ dated text, LastCell rd row (.kde name dated) text ∧
        kdeValue rd dated text = .str stored := by
  have hLater :
      ∀ later : String × Cell,
        (∀ write, kdeWrite rd later = some write →
            write.1 ≠ name) ↔
          ∀ read, reading rd later = some read →
            read.1.slot ≠ Place.kde name false := by
    intro later
    unfold kdeWrite
    cases reading rd later with
    | none => simp
    | some read =>
        rcases read with ⟨other | ⟨other, dated⟩, coerced⟩
        · simp [Place.slot]
        · simp [Place.slot]
  rw [Dict.last_filterMap]
  constructor
  · rintro ⟨front, ⟨col, raw | values⟩, back, hSplit, hItem, hBack⟩
    · by_cases hEmpty : Python.strip raw = ""
      · simp [kdeWrite, reading, hEmpty] at hItem
      · cases hPlace : placeOf rd col with
        | top other =>
            simp [kdeWrite, reading, hEmpty, hPlace] at hItem
        | kde other dated =>
            rw [kdeWrite_text hPlace hEmpty,
              Option.some.injEq, Prod.mk.injEq] at hItem
            rw [hItem.1] at hPlace
            refine ⟨dated, Python.strip raw,
              ⟨front, col, raw, back, hSplit, hPlace, rfl,
                hEmpty, ?_⟩, hItem.2⟩
            exact fun later hMem =>
              (hLater later).mp (hBack later hMem)
    · simp [kdeWrite, reading, Cell.value] at hItem
  · rintro ⟨dated, text, ⟨front, col, raw, back, hSplit, hPlace,
      rfl, hSome, hBack⟩, hValue⟩
    refine ⟨front, (col, .text raw), back, hSplit, ?_, ?_⟩
    · rw [kdeWrite_text hPlace hSome, hValue]
    · exact fun later hMem =>
        (hLater later).mpr (hBack later hMem)

--------
-- Coercing the Event of a Row
--------

variable {rd : Reader} {row : RawRow}

/- A field that is set was written by a last cell. -/
theorem exists_lastCell
    (hSome :
      (buildEventFromRow rd row).event.fields.get name ≠
        .none) :
    ∃ text, LastCell rd row (.top name) text ∧
      fieldValue rd name text =
        (buildEventFromRow rd row).event.fields.get name := by
  rw [buildEventFromRow_fields] at hSome ⊢
  exact Iff.mp last_fieldWrite (Dict.last_of_get hSome)

/- A last cell sets its field. -/
theorem LastCell.get
    {name text : String}
    (hLast : LastCell rd row (.top name) text) :
    (buildEventFromRow rd row).event.fields.get name =
      fieldValue rd name text := by
  rw [buildEventFromRow_fields]
  exact Dict.get_ofWrites
    (Iff.mpr last_fieldWrite ⟨text, hLast, rfl⟩)

/- The stored value of a finite number. -/
theorem fieldValue_quantity
    {text : String}
    {x : Python.Float}
    (hFloat : finiteFloat rd text = some x) :
    fieldValue rd "quantity" text = .float x := by
  simp [fieldValue, normalizeField, hFloat]

theorem fieldValue_unit
    (rd : Reader)
    (text : String) :
    fieldValue rd "unit_of_measure" text =
      .str (CsvTemplates.normalizeUom rd text) :=
  rfl

/- The stored value of a time stamp that is read. -/
theorem fieldValue_timestamp
    {text iso : String}
    (hParse :
      CsvTemplates.parseDateFlexible rd text = .ok iso) :
    fieldValue rd "timestamp" text = .str iso := by
  simp [fieldValue, normalizeField, normalizeDate, hParse]

/- The quantity that is set is a number above zero. -/
theorem quantityFailures_eq_nil_iff
    (hNumber :
      ∀ text, HasCell rd row (.top "quantity") text →
        ∃ x, finiteFloat rd text = some x)
    (sourceColumn : Option String) :
    quantityFailures sourceColumn
        ((buildEventFromRow rd row).event.fields.get
          "quantity") = [] ↔
      ∀ text x, LastCell rd row (.top "quantity") text →
        finiteFloat rd text = some x → x.nonpos = false := by
  constructor
  · intro hNone text x hLast hFloat
    rw [hLast.get, fieldValue_quantity hFloat] at hNone
    simpa [quantityFailures] using hNone
  · intro hPositive
    by_cases hSome :
        (buildEventFromRow rd row).event.fields.get
          "quantity" = .none
    · rw [hSome]
      rfl
    · rcases exists_lastCell hSome with ⟨text, hLast, hValue⟩
      rcases hNumber text hLast.hasCell with ⟨x, hFloat⟩
      rw [← hValue, fieldValue_quantity hFloat]
      simp [quantityFailures, hPositive text x hLast hFloat]

/- A number is not coerced. -/
theorem coerceQuantity_row
    (hNumber :
      ∀ text, HasCell rd row (.top "quantity") text →
        ∃ x, finiteFloat rd text = some x) :
    coerceQuantity rd
        ((buildEventFromRow rd row).event.fields.get
          "quantity") =
      ⟨(buildEventFromRow rd row).event.fields.get "quantity",
        none,
        quantityFailures none
          ((buildEventFromRow rd row).event.fields.get
            "quantity")⟩ := by
  by_cases hSome :
      (buildEventFromRow rd row).event.fields.get
        "quantity" = .none
  · rw [hSome]
    rfl
  · rcases exists_lastCell hSome with ⟨text, hLast, hValue⟩
    rcases hNumber text hLast.hasCell with ⟨x, hFloat⟩
    rw [← hValue, fieldValue_quantity hFloat]
    rfl

/- A date as the parser writes it is not coerced. -/
theorem coerceDate_eq_self
    {path iso : String}
    (hParse :
      CsvTemplates.parseDateFlexible rd iso = .ok iso) :
    coerceDate rd path (.str iso) = ⟨.str iso, none, []⟩ := by
  simp only [coerceDate, hParse, if_true, ite_self]

/- A time stamp that intake read is not coerced. -/
theorem coerceDate_row
    (hDate :
      ∀ place text, place.isDate = true →
        HasCell rd row place text →
          ∃ iso,
            CsvTemplates.parseDateFlexible rd text = .ok iso)
    (path : String) :
    coerceDate rd path
        ((buildEventFromRow rd row).event.fields.get
          "timestamp") =
      ⟨(buildEventFromRow rd row).event.fields.get "timestamp",
        none, []⟩ := by
  by_cases hSome :
      (buildEventFromRow rd row).event.fields.get
        "timestamp" = .none
  · rw [hSome]
    rfl
  · rcases exists_lastCell hSome with ⟨text, hLast, hValue⟩
    rcases hDate _ text rfl hLast.hasCell with ⟨iso, hParse⟩
    rw [← hValue, fieldValue_timestamp hParse]
    exact coerceDate_eq_self
      (CsvTemplates.parseDateFlexible_written hParse)

/- The fields stay as they are just when the unit does. -/
theorem coerceFields_row
    (hNumber :
      ∀ text, HasCell rd row (.top "quantity") text →
        ∃ x, finiteFloat rd text = some x)
    (hDate :
      ∀ place text, place.isDate = true →
        HasCell rd row place text →
          ∃ iso,
            CsvTemplates.parseDateFlexible rd text = .ok iso) :
    coerceFields rd (buildEventFromRow rd row).event.fields =
        (buildEventFromRow rd row).event.fields ↔
      ∀ text, LastCell rd row (.top "unit_of_measure") text →
        CsvTemplates.normalizeUom rd text ≠ "" →
          CsvTemplates.normalizeUom rd
              (CsvTemplates.normalizeUom rd text) =
            CsvTemplates.normalizeUom rd text := by
  unfold coerceFields
  rw [coerceQuantity_row hNumber, coerceDate_row hDate]
  simp only [putCoerced]
  constructor
  · intro hSame text hLast hSome
    by_contra hChanged
    rw [hLast.get, fieldValue_unit] at hSame
    simp only [coerceUom, hSome, hChanged, ne_eq,
      not_false_eq_true, and_self, if_true] at hSame
    have hGet := congrArg (fun d => Dict.get d "unit_of_measure")
      hSame
    simp only [Dict.get_set, if_true, hLast.get,
      fieldValue_unit, Value.str.injEq] at hGet
    exact hChanged hGet
  · intro hUnit
    by_cases hSome :
        (buildEventFromRow rd row).event.fields.get
          "unit_of_measure" = .none
    · rw [hSome]
      rfl
    · rcases exists_lastCell hSome with ⟨text, hLast, hValue⟩
      have hKept :
          coerceUom rd
              (.str (CsvTemplates.normalizeUom rd text)) =
            ⟨.str (CsvTemplates.normalizeUom rd text), none,
              []⟩ := by
        by_cases hEmpty :
            CsvTemplates.normalizeUom rd text = ""
        · simp [coerceUom, hEmpty]
        · simp [coerceUom, hUnit text hLast hEmpty]
      rw [← hValue, fieldValue_unit, hKept]

--------
-- Coercing the KDEs of a Row
--------

/- A KDE that no coercion changes or refuses. -/
theorem coerceKde_eq_self_iff
    {entry : String × Value} :
    (coerceKde rd entry).value = entry.2 ∧
        (coerceKde rd entry).failures = [] ↔
      (endsWithDate entry.1 = true →
        ∀ text, entry.2 = .str text →
          Python.strip text ≠ "" →
            CsvTemplates.parseDateFlexible rd text =
              .ok text) := by
  rcases entry with ⟨name, value⟩
  unfold coerceKde
  by_cases hDate : endsWithDate name = true
  · simp only [hDate, if_true, true_imp_iff]
    cases value with
    | str text =>
        by_cases hBlank : Python.strip text = ""
        · simp [coerceDate, hBlank]
        · simp only [coerceDate, hBlank, if_false]
          cases hParse :
              CsvTemplates.parseDateFlexible rd text with
          | error warning => simp [hBlank, hParse]
          | ok iso =>
              by_cases hSame : iso = text
              · simp [hSame, hParse]
              · simp [hSame, hBlank, hParse]
    | none => simp [coerceDate]
    | bool flag => simp [coerceDate]
    | int number => simp [coerceDate]
    | float number => simp [coerceDate]
    | list items => simp [coerceDate]
    | dict entries => simp [coerceDate]
    | object other => simp [coerceDate]
  · simp [hDate]

/- The KDEs of a row that no coercion changes or refuses. -/
theorem coerceKdes_row
    (hDate :
      ∀ place text, place.isDate = true →
        HasCell rd row place text →
          ∃ iso,
            CsvTemplates.parseDateFlexible rd text = .ok iso) :
    coerceKdes rd (buildEventFromRow rd row).event.kdes =
          (buildEventFromRow rd row).event.kdes ∧
        (buildEventFromRow rd row).event.kdes.flatMap (fun entry =>
          (coerceKde rd entry).failures) = [] ↔
      ∀ name text, endsWithDate name = true →
        LastCell rd row (.kde name false) text →
          CsvTemplates.parseDateFlexible rd text = .ok text := by
  have hMap :
      coerceKdes rd (buildEventFromRow rd row).event.kdes =
          (buildEventFromRow rd row).event.kdes ↔
        ∀ entry ∈ (buildEventFromRow rd row).event.kdes,
          (coerceKde rd entry).value = entry.2 := by
    unfold coerceKdes
    conv =>
      lhs
      rhs
      rw [← List.map_id (buildEventFromRow rd row).event.kdes]
    rw [List.map_inj_left]
    simp [Prod.ext_iff]
  have hStored :
      (∀ entry ∈ (buildEventFromRow rd row).event.kdes,
        (coerceKde rd entry).value = entry.2 ∧
          (coerceKde rd entry).failures = []) ↔
        ∀ name stored,
          Dict.Last (row.cells.filterMap (kdeWrite rd))
              (name, .str stored) →
            endsWithDate name = true →
              Python.strip stored ≠ "" →
                CsvTemplates.parseDateFlexible rd stored =
                  .ok stored := by
    simp only [coerceKde_eq_self_iff, buildEventFromRow_kdes,
      Dict.mem_ofWrites, Prod.forall]
    constructor
    · intro hAll name stored hLast hName
      exact hAll name _ hLast hName stored rfl
    · rintro hAll name _ hLast hName stored rfl
      exact hAll name stored hLast hName
  rw [hMap, List.flatMap_eq_nil_iff, ← forall₂_and, hStored]
  constructor
  · intro hAll name text hName hLast
    have hText : Python.strip text = text ∧ text ≠ "" := by
      rcases hLast with
        ⟨front, col, raw, back, -, -, rfl, hSome, -⟩
      exact ⟨Chars.strip_strip raw, hSome⟩
    apply hAll name text (last_kdeWrite.mpr ?_) hName
    · rw [hText.1]
      exact hText.2
    · exact ⟨false, text, hLast, rfl⟩
  · intro hPlain name stored hLast hName hSome
    rcases last_kdeWrite.mp hLast with
      ⟨_ | _, text, hCell, hValue⟩
    · cases hValue
      exact hPlain name _ hName hCell
    · rcases hDate _ text rfl hCell.hasCell with ⟨iso, hParse⟩
      have hIso := (normalizeDate_of_ok hParse "" "kdes." none).1
      simp only [kdeValue, normalizeText] at hValue
      rw [show (Place.kde "" true).path = "kdes." from rfl,
        hIso] at hValue
      cases hValue
      exact CsvTemplates.parseDateFlexible_written hParse

/-
  A row is settled just when intake finds no unreadable or
  nonpositive value, and the coercions of revalidation find
  none either and leave the event as it is.
-/
theorem settled_iff :
    (row.cells.flatMap (cellFailures rd) ++
          quantityFailures (some "quantity")
            ((buildEventFromRow rd row).event.fields.get
              "quantity") = [] ∧
        coercionFailures rd (buildEventFromRow rd row).event =
          [] ∧
        coerceEvent rd (buildEventFromRow rd row).event =
          (buildEventFromRow rd row).event) ↔
      Settled rd row := by
  have hEvent :
      coerceEvent rd (buildEventFromRow rd row).event =
          (buildEventFromRow rd row).event ↔
        coerceFields rd (buildEventFromRow rd row).event.fields =
            (buildEventFromRow rd row).event.fields ∧
          coerceKdes rd (buildEventFromRow rd row).event.kdes =
            (buildEventFromRow rd row).event.kdes := by
    unfold coerceEvent
    constructor
    · intro hSame
      exact ⟨congrArg ManifestEvent.fields hSame,
        congrArg ManifestEvent.kdes hSame⟩
    · rintro ⟨hFields, hKdes⟩
      rw [hFields, hKdes]
  rw [List.append_eq_nil_iff, cellFailures_eq_nil_iff, hEvent]
  constructor
  · rintro ⟨⟨⟨hNumber, hDate⟩, hPositive⟩, hAgain, hFields,
      hKdes⟩
    simp only [coercionFailures, List.append_eq_nil_iff]
      at hAgain
    exact
      { number := hNumber
        date := hDate
        positive :=
          (quantityFailures_eq_nil_iff hNumber _).mp hPositive
        unit := (coerceFields_row hNumber hDate).mp hFields
        plain := (coerceKdes_row hDate).mp ⟨hKdes, hAgain.2⟩ }
  · intro hSettled
    have hKdes :=
      (coerceKdes_row hSettled.date).mpr hSettled.plain
    have hPositive :=
      fun sourceColumn =>
        (quantityFailures_eq_nil_iff hSettled.number
          sourceColumn).mpr hSettled.positive
    refine ⟨⟨⟨hSettled.number, hSettled.date⟩, hPositive _⟩, ?_,
      (coerceFields_row hSettled.number hSettled.date).mpr
        hSettled.unit, hKdes.1⟩
    simp only [coercionFailures,
      coerceQuantity_row hSettled.number,
      coerceDate_row hSettled.date, hPositive, hKdes.2,
      List.append_nil]

end Remediation

end RegEngine
