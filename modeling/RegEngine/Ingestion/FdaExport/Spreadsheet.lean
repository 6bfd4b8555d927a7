import RegEngine.Library.Csv.Writer
import RegEngine.Library.Lookup
import RegEngine.Library.Value.Str
import RegEngine.Shared.CsvSafety

/-
  The FDA spreadsheet of a list of events
  (`fda_export_service.py`).

  Main declarations:
    * `Spreadsheet.redactLocationValue`
    * `Spreadsheet.eventToFdaRow`
    * `Spreadsheet.eventToFdaRow_eq`
-/

--------
-- Columns
--------

namespace RegEngine

namespace Spreadsheet

def openGapsColumn : String :=
  "Open Data Gaps"

def additionalKdesColumn : String :=
  "Additional KDEs (JSON)"

/- `FDA_COLUMNS`. -/
def fdaColumns : List String :=
  ["Traceability Lot Code (TLC)",
    "Product Description",
    "Quantity",
    "Unit of Measure",
    "Event Type (CTE)",
    "Event Date",
    "Event Time",
    "Location GLN",
    "Location Name",
    "Ship From GLN",
    "Ship From Name",
    "Ship To GLN",
    "Ship To Name",
    "Immediate Previous Source",
    "TLC Source GLN",
    "TLC Source FDA Registration",
    "Source Document",
    "Record Hash (SHA-256)",
    "Chain Hash",
    "Reference Document Number",
    "Receive Date",
    "Ship Date",
    "Harvest Date",
    "Cooling Date",
    "Packing Date",
    "Transformation Date",
    "Landing Date",
    "Receiving Location",
    "Temperature (°F)",
    "Carrier",
    "Growing Area",
    additionalKdesColumn,
    "System Entry Timestamp",
    openGapsColumn]

/- `_NAMED_KDE_COLUMNS`. -/
def namedKdeColumns : List (String × String) :=
  [("reference_document_number", "Reference Document Number"),
    ("receive_date", "Receive Date"),
    ("ship_date", "Ship Date"),
    ("harvest_date", "Harvest Date"),
    ("cooling_date", "Cooling Date"),
    ("packing_date", "Packing Date"),
    ("transformation_date", "Transformation Date"),
    ("landing_date", "Landing Date"),
    ("receiving_location", "Receiving Location"),
    ("temperature", "Temperature (°F)"),
    ("carrier", "Carrier"),
    ("growing_area_name", "Growing Area")]

/- `_LITERAL_CONSUMED_KDES`. -/
def literalConsumedKdes : List String :=
  ["ship_from_gln",
    "ship_from_location",
    "ship_to_gln",
    "ship_to_location",
    "immediate_previous_source",
    "tlc_source_gln",
    "tlc_source_fda_reg"]

/- `_PII_LOCATION_COLUMNS`. -/
def piiLocationColumns : List String :=
  ["Location Name",
    "Ship From Name",
    "Ship To Name",
    "Immediate Previous Source",
    "Receiving Location"]

/- `_PII_EXTRA_KDE_SUBSTRINGS`. -/
def piiExtraKdeSubstrings : List String :=
  ["address",
    "street",
    "location_name",
    "facility_name",
    "contact",
    "phone",
    "email",
    "owner_name",
    "operator_name",
    "driver_name",
    "receiver_name",
    "consignee_name"]

/- `PII_REDACTION_PLACEHOLDER`. -/
def piiRedactionPlaceholder : String :=
  "[REDACTED]"

--------
-- Rows
--------

/- A map of key data elements, as JSON has them. -/
abbrev Kdes := List (String × Json)

/-
  An event as the exports hand it over: its map of KDEs, the
  gaps open on it, and the other fields.
-/
structure Event where
  fields : Python.Dict
  kdes : Kdes
  openDataGaps : List String
  distinct : (kdes.map Prod.fst).Nodup

/-
  What the row takes from the libraries: how values print, and
  the date and the time of day that `datetime.fromisoformat`
  and `strftime` make of a timestamp.
-/
structure Runtime extends Python.Reprs where
  dateAndTime : String → Option (String × String)

/- `sanitize_cell`. -/
def sanitizeCell (rt : Runtime) : Python.Value → String
| .none => ""
| value => CsvSafety.safeCell (value.toStr rt.toReprs)

/- `_redact_location_value`. -/
def redactLocationValue
    (value columnName : String)
    (includePii : Bool) :
    String :=
  if includePii then value
  else if columnName ∉ piiLocationColumns then value
  else if value = "" then value
  else piiRedactionPlaceholder

/- `event.get(key, "")`. -/
def Event.get (event : Event) (key : String) : Python.Value :=
  (event.fields.lookup key).getD (.str "")

/- `kdes.get(key)`, with what stands for a key that is missing. -/
def Kdes.getD
    (kdes : Kdes)
    (key : String)
    (default : Python.Value) :
    Python.Value :=
  ((kdes.lookup key).map Python.Value.ofJson).getD default

/- `value or ""`. -/
def orEmpty (value : Python.Value) : Python.Value :=
  value.orElse (.str "")

/- The date and the time columns of a timestamp. -/
def splitTimestamp
    (rt : Runtime)
    (timestamp : Python.Value) :
    String × String :=
  if timestamp.truthy then
    let text := timestamp.toStr rt.toReprs
    match rt.dateAndTime (text.replace "Z" "+00:00") with
    | some dateAndTime => dateAndTime
    | none => (String.ofList (text.toList.take 10), "")
  else ("", "")

/- A KDE under a key that marks personal data. -/
def isPii (key : String) : Bool :=
  piiExtraKdeSubstrings.any (fun marker =>
    Python.contains (Python.lower key) marker)

/- `_redact_extra_kde_pii`, for the value of one key. -/
def redactExtraValue (key : String) : Json → Json
| .str value =>
    if isPii key ∧ value ≠ "" then .str piiRedactionPlaceholder
    else .str value
| value => value

/- `_redact_extra_kde_pii`. -/
def redactExtraKdePii (extra : Kdes) : Kdes :=
  extra.map (fun entry =>
    (entry.1, redactExtraValue entry.1 entry.2))

/- A KDE that has no column of its own. -/
def isExtra (key : String) : Bool :=
  key ∉ namedKdeColumns.map Prod.fst ∧ key ∉ literalConsumedKdes

/- The KDEs without a column, as the export may show them. -/
def extraKdes (kdes : Kdes) (includePii : Bool) : Kdes :=
  let extra := kdes.filter (fun entry => isExtra entry.1)
  if extra ≠ [] ∧ !includePii then redactExtraKdePii extra
  else extra

/- `_event_to_fda_row`. -/
def eventToFdaRow
    (rt : Runtime)
    (includePii : Bool)
    (event : Event) :
    List (String × String) :=
  let kdes := event.kdes
  let cell := sanitizeCell rt
  let dateAndTime :=
    splitTimestamp rt (event.get "event_timestamp")
  let extra := extraKdes kdes includePii
  [("Traceability Lot Code (TLC)",
      cell (event.get "traceability_lot_code")),
    ("Product Description",
      cell (event.get "product_description")),
    ("Quantity", cell (event.get "quantity")),
    ("Unit of Measure", cell (event.get "unit_of_measure")),
    ("Event Type (CTE)", cell (event.get "event_type")),
    ("Event Date", CsvSafety.safeCell dateAndTime.1),
    ("Event Time", CsvSafety.safeCell dateAndTime.2),
    ("Location GLN", cell (orEmpty (event.get "location_gln"))),
    ("Location Name",
      redactLocationValue
        (cell (orEmpty (event.get "location_name")))
        "Location Name" includePii),
    ("Ship From GLN",
      cell (orEmpty (kdes.getD "ship_from_gln" (.str "")))),
    ("Ship From Name",
      redactLocationValue
        (cell (orEmpty
          (kdes.getD "ship_from_location" (.str ""))))
        "Ship From Name" includePii),
    ("Ship To GLN",
      cell (orEmpty (kdes.getD "ship_to_gln" (.str "")))),
    ("Ship To Name",
      redactLocationValue
        (cell (orEmpty (kdes.getD "ship_to_location"
          (kdes.getD "receiving_location" (.str "")))))
        "Ship To Name" includePii),
    ("Immediate Previous Source",
      redactLocationValue
        (cell (orEmpty
          (kdes.getD "immediate_previous_source" (.str ""))))
        "Immediate Previous Source" includePii),
    ("TLC Source GLN",
      cell (orEmpty (kdes.getD "tlc_source_gln" (.str "")))),
    ("TLC Source FDA Registration",
      cell (orEmpty (kdes.getD "tlc_source_fda_reg" (.str "")))),
    ("Source Document", cell (event.get "source")),
    ("Record Hash (SHA-256)", cell (event.get "sha256_hash")),
    ("Chain Hash", cell (event.get "chain_hash"))] ++
  namedKdeColumns.map (fun named =>
    (named.2,
      redactLocationValue
        (if (kdes.getD named.1 .none).truthy then
          cell (kdes.getD named.1 .none)
        else "")
        named.2 includePii)) ++
  [(additionalKdesColumn,
      if extra ≠ [] then
        CsvSafety.safeCell (Json.dumpsUnsorted (.obj extra))
      else ""),
    ("System Entry Timestamp",
      cell (orEmpty (event.get "ingested_at"))),
    (openGapsColumn,
      CsvSafety.safeCell (Python.join "; " event.openDataGaps))]

/- The cell of a column, as the writer of rows looks it up. -/
def cellAt (row : List (String × String)) (column : String) :
    String :=
  (row.lookup column).getD ""

/- A row, in the order of the columns. -/
def csvRow (row : List (String × String)) : List String :=
  fdaColumns.map (cellAt row)

/- `_generate_csv`. -/
def generateCsv
    (rt : Runtime)
    (includePii : Bool)
    (events : List Event) :
    List Char :=
  Csv.writeRows (fdaColumns :: events.map (fun event =>
    csvRow (eventToFdaRow rt includePii event)))

--------
-- Sources of the Columns
--------

/- What a column of a row is made of. -/
inductive Source where
  | field (key : String)
  | present (key : String)
  | date
  | time
  | gaps
  | kde (key : String)
  | shipTo
  | extra
  deriving DecidableEq

/- The text of a source, before any redaction of the column. -/
def Source.text
    (rt : Runtime)
    (includePii : Bool)
    (event : Event) :
    Source → String
| .field key => sanitizeCell rt (event.get key)
| .present key => sanitizeCell rt (orEmpty (event.get key))
| .date =>
    CsvSafety.safeCell
      (splitTimestamp rt (event.get "event_timestamp")).1
| .time =>
    CsvSafety.safeCell
      (splitTimestamp rt (event.get "event_timestamp")).2
| .gaps =>
    CsvSafety.safeCell (Python.join "; " event.openDataGaps)
| .kde key =>
    sanitizeCell rt (orEmpty (event.kdes.getD key (.str "")))
| .shipTo =>
    sanitizeCell rt (orEmpty
      (event.kdes.getD "ship_to_location"
        (event.kdes.getD "receiving_location" (.str ""))))
| .extra =>
    if extraKdes event.kdes includePii ≠ [] then
      CsvSafety.safeCell (Json.dumpsUnsorted
        (.obj (extraKdes event.kdes includePii)))
    else ""

/- The columns of a row with their sources. -/
def sources : List (String × Source) :=
  [("Traceability Lot Code (TLC)",
      .field "traceability_lot_code"),
    ("Product Description", .field "product_description"),
    ("Quantity", .field "quantity"),
    ("Unit of Measure", .field "unit_of_measure"),
    ("Event Type (CTE)", .field "event_type"),
    ("Event Date", .date),
    ("Event Time", .time),
    ("Location GLN", .present "location_gln"),
    ("Location Name", .present "location_name"),
    ("Ship From GLN", .kde "ship_from_gln"),
    ("Ship From Name", .kde "ship_from_location"),
    ("Ship To GLN", .kde "ship_to_gln"),
    ("Ship To Name", .shipTo),
    ("Immediate Previous Source",
      .kde "immediate_previous_source"),
    ("TLC Source GLN", .kde "tlc_source_gln"),
    ("TLC Source FDA Registration", .kde "tlc_source_fda_reg"),
    ("Source Document", .field "source"),
    ("Record Hash (SHA-256)", .field "sha256_hash"),
    ("Chain Hash", .field "chain_hash")] ++
  namedKdeColumns.map (fun named =>
    (named.2, .kde named.1)) ++
  [(additionalKdesColumn, .extra),
    ("System Entry Timestamp", .present "ingested_at"),
    (openGapsColumn, .gaps)]

/- A value that is false has no cell. -/
theorem sanitizeCell_orEmpty
    (rt : Runtime)
    (value : Python.Value) :
    sanitizeCell rt (orEmpty value) =
      if value.truthy then sanitizeCell rt value else "" := by
  unfold orEmpty Python.Value.orElse
  split
  · rfl
  · rfl

/- A key that is missing has the cell of a false value. -/
theorem named_text
    (rt : Runtime)
    (kdes : Kdes)
    (key : String) :
    (if (kdes.getD key .none).truthy then
        sanitizeCell rt (kdes.getD key .none)
      else "") =
      sanitizeCell rt (orEmpty (kdes.getD key (.str ""))) := by
  rw [sanitizeCell_orEmpty]
  unfold Kdes.getD
  cases kdes.lookup key with
  | none => rfl
  | some value => rfl

/- Other columns are not redacted. -/
theorem redactLocationValue_of_notMem
    {columnName : String}
    (hColumn : columnName ∉ piiLocationColumns)
    (value : String)
    (includePii : Bool) :
    redactLocationValue value columnName includePii = value := by
  unfold redactLocationValue
  rw [if_pos hColumn, ite_self]

/- A row is its sources, redacted. -/
theorem eventToFdaRow_eq
    (rt : Runtime)
    (includePii : Bool)
    (event : Event) :
    eventToFdaRow rt includePii event =
      sources.map (fun entry =>
        (entry.1,
          redactLocationValue
            (entry.2.text rt includePii event)
            entry.1 includePii)) := by
  unfold eventToFdaRow sources namedKdeColumns
    additionalKdesColumn openGapsColumn
  simp only [List.map_append, List.map_cons, List.map_nil,
    Source.text, named_text]
  simp (disch := decide) only [redactLocationValue_of_notMem]

theorem map_fst_sources :
    sources.map Prod.fst = fdaColumns := by
  rfl

theorem nodup_fdaColumns :
    fdaColumns.Nodup := by
  decide

theorem map_fst_eventToFdaRow
    (rt : Runtime)
    (includePii : Bool)
    (event : Event) :
    (eventToFdaRow rt includePii event).map Prod.fst =
      fdaColumns := by
  rw [eventToFdaRow_eq, List.map_map]
  exact map_fst_sources

/- A row is written as its cells, in their order. -/
theorem csvRow_eventToFdaRow
    (rt : Runtime)
    (includePii : Bool)
    (event : Event) :
    csvRow (eventToFdaRow rt includePii event) =
      sources.map (fun entry =>
        redactLocationValue
          (entry.2.text rt includePii event)
          entry.1 includePii) := by
  have hColumns := map_fst_eventToFdaRow rt includePii event
  have hNodup := nodup_fdaColumns
  rw [← hColumns] at hNodup
  have hCells := Lookup.map_keys hNodup ""
  rw [hColumns] at hCells
  unfold csvRow cellAt
  rw [hCells, eventToFdaRow_eq, List.map_map]
  rfl

/- The cell of a column, from its source. -/
theorem cellAt_eventToFdaRow
    (rt : Runtime)
    (includePii : Bool)
    (event : Event)
    {column : String}
    {source : Source}
    (hMem : (column, source) ∈ sources) :
    cellAt (eventToFdaRow rt includePii event) column =
      redactLocationValue (source.text rt includePii event)
        column includePii := by
  have hNodup := nodup_fdaColumns
  rw [← map_fst_eventToFdaRow rt includePii event] at hNodup
  have hLookup :
      (eventToFdaRow rt includePii event).lookup column =
        some (redactLocationValue
          (source.text rt includePii event) column
          includePii) := by
    rw [Lookup.eq_some_iff hNodup, eventToFdaRow_eq]
    exact List.mem_map.mpr ⟨(column, source), hMem, rfl⟩
  rw [cellAt, hLookup]
  rfl

--------
-- Files
--------

theorem not_dangerous_sanitizeCell
    (rt : Runtime)
    (value : Python.Value) :
    ¬ CsvSafety.Dangerous (sanitizeCell rt value).toList := by
  cases value with
  | none => exact CsvSafety.not_dangerous_nil
  | bool value => exact CsvSafety.not_dangerous_safeCell _
  | int value => exact CsvSafety.not_dangerous_safeCell _
  | float value => exact CsvSafety.not_dangerous_safeCell _
  | str value => exact CsvSafety.not_dangerous_safeCell _
  | list items => exact CsvSafety.not_dangerous_safeCell _
  | dict entries => exact CsvSafety.not_dangerous_safeCell _
  | object value => exact CsvSafety.not_dangerous_safeCell _

theorem not_dangerous_text
    (rt : Runtime)
    (includePii : Bool)
    (event : Event)
    (source : Source) :
    ¬ CsvSafety.Dangerous
      (source.text rt includePii event).toList := by
  cases source with
  | field key => exact not_dangerous_sanitizeCell _ _
  | present key => exact not_dangerous_sanitizeCell _ _
  | date => exact CsvSafety.not_dangerous_safeCell _
  | time => exact CsvSafety.not_dangerous_safeCell _
  | gaps => exact CsvSafety.not_dangerous_safeCell _
  | kde key => exact not_dangerous_sanitizeCell _ _
  | shipTo => exact not_dangerous_sanitizeCell _ _
  | extra =>
    rw [Source.text]
    by_cases hExtra : extraKdes event.kdes includePii ≠ []
    · rw [if_pos hExtra]
      exact CsvSafety.not_dangerous_safeCell _
    · rw [if_neg hExtra]
      exact CsvSafety.not_dangerous_nil

/- No cell of a written row is dangerous. -/
theorem not_dangerous_of_mem_csvRow
    {rt : Runtime}
    {includePii : Bool}
    {event : Event}
    {cell : String}
    (hMem : cell ∈ csvRow (eventToFdaRow rt includePii event)) :
    ¬ CsvSafety.Dangerous cell.toList := by
  rw [csvRow_eventToFdaRow] at hMem
  rcases List.mem_map.mp hMem with ⟨⟨column, source⟩, -, rfl⟩
  unfold redactLocationValue
  have hText := not_dangerous_text rt includePii event source
  split
  · exact hText
  · split
    · exact hText
    · split
      · exact hText
      · decide

/- What is written is read as the header and the rows. -/
theorem parse_generateCsv
    (rt : Runtime)
    (includePii : Bool)
    (events : List Event) :
    Csv.parse (generateCsv rt includePii events) =
      some (fdaColumns :: events.map (fun event =>
        csvRow (eventToFdaRow rt includePii event))) := by
  apply Csv.parse_writeRows
  intro row hRow
  rcases List.mem_cons.mp hRow with rfl | hRow
  · exact List.cons_ne_nil _ _
  · rcases List.mem_map.mp hRow with ⟨event, -, rfl⟩
    exact List.cons_ne_nil _ _

end Spreadsheet

end RegEngine
