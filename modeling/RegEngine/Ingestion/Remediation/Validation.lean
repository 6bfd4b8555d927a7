import RegEngine.Ingestion.CsvTemplates.Coercions
import RegEngine.Ingestion.Sandbox.CsvParser
import RegEngine.Shared.Rules.Types

/-
  Parsing and validation of the rows of a supplier manifest
  (`app/remediation/validation.py`).

  Main declarations:
    * `Remediation.RawRow`
    * `Remediation.ManifestEvent`
    * `Remediation.buildEventFromRow`
    * `Remediation.snapshotFailures`
-/

--------
-- Rows and Events
--------

namespace RegEngine

open Python (Value Dict)
open CsvTemplates (Reader)

namespace Remediation

/-
  The cell of a column: a text, or the texts that a row has
  beyond its header.
-/
inductive Cell where
  | text (value : String)
  | surplus (values : List String)
  deriving DecidableEq

def Cell.value : Cell → Value
| .text value => .str value
| .surplus values => .list (values.map .str)

/-
  A row of a manifest, in the order of its columns. Surplus
  cells stand under the empty name.
-/
structure RawRow where
  cells : List (String × Cell)
  distinct : (cells.map Prod.fst).Nodup
  surplus_unnamed :
    ∀ col values,
      (col, Cell.surplus values) ∈ cells → col = ""
  deriving DecidableEq

def RawRow.toDict (row : RawRow) : Dict :=
  row.cells.map (fun cell => (cell.1, cell.2.value))

/-
  The dictionary of an event: its own fields, and the KDEs
  under `kdes`.
-/
structure ManifestEvent where
  fields : Dict
  kdes : Dict

/- `_TOP_LEVEL_FIELDS`. -/
def topLevelFields : List String :=
  ["cte_type", "traceability_lot_code", "product_description",
    "quantity", "unit_of_measure", "location_name",
    "location_gln", "timestamp"]

/- `row_fingerprint`. -/
def rowFingerprint
    (sha256Hex : String → String)
    (row : RawRow) :
    String :=
  sha256Hex (Json.dumpsCompact (Value.toJson (.dict row.toDict)))

--------
-- Failures
--------

/- An issue that a check found. -/
structure Failure where
  issueId : String
  ruleId : String
  ruleVersion : Int
  ruleTitle : String
  severity : Severity
  category : String
  result : String
  whyFailed : String
  remediation : Option String
  source : String
  field : Option String
  sourceColumn : Option String
  remediationOwner : String
  autoResolvable : Bool
  deriving DecidableEq

/- `check.replace("_", " ")`. -/
def spaced (check : String) : String :=
  String.ofList (check.toList.map (fun c =>
    if c = '_' then ' ' else c))

/- `_service_failure`; every caller takes the severity given. -/
def serviceFailure
    (check field : String)
    (sourceColumn : Option String)
    (why remediation : String) :
    Failure where
  issueId := "svc:" ++ check ++ ":" ++ field
  ruleId := "svc." ++ check
  ruleVersion := 1
  ruleTitle := "Service check: " ++ spaced check
  severity := .critical
  category := "service_check"
  result := "fail"
  whyFailed := why
  remediation := some remediation
  source := "service"
  field := some field
  sourceColumn := sourceColumn
  remediationOwner := "supplier"
  autoResolvable := false

/- A quantity that is no finite number. -/
def invalidQuantity
    (sourceColumn : Option String)
    (text : String) :
    Failure :=
  serviceFailure "invalid_quantity" "quantity" sourceColumn
    ("Quantity '" ++ text ++ "' is not a finite number.")
    "Provide a positive numeric quantity."

/- A quantity that is not above zero. -/
def nonpositiveQuantity
    (sourceColumn : Option String)
    (quantity : Python.Float) :
    Failure :=
  serviceFailure "invalid_quantity" "quantity" sourceColumn
    ("Quantity " ++ quantity.repr ++
      " must be greater than zero.")
    "Provide a positive numeric quantity."

/- A date that could not be read. -/
def invalidDate
    (sourceColumn : Option String)
    (fieldPath text warning : String) :
    Failure :=
  serviceFailure "invalid_date" fieldPath sourceColumn
    ("Date '" ++ text ++ "' could not be parsed: " ++ warning ++
      ".")
    "Provide the date as YYYY-MM-DD."

/- A lot code of one or two characters. -/
def invalidTlc (tlc : String) : Failure :=
  serviceFailure "invalid_tlc" "traceability_lot_code" none
    ("Traceability lot code '" ++ tlc ++
      "' is too short (minimum 3 characters).")
    "Provide the full traceability lot code (at least 3 characters)."

--------
-- Cells
--------

/- Where the value of a column is kept in the event. -/
inductive Place where
  | top (name : String)
  | kde (name : String) (dated : Bool)
  deriving DecidableEq

def Place.path : Place → String
| .top name => name
| .kde name _ => "kdes." ++ name

/- A character of `[a-z_]`. -/
def isKdeChar (c : Char) : Bool :=
  c.isLower || c == '_'

/- `_DATE_KDE_RE.match(kde)`. -/
def isDateKde (kde : String) : Bool :=
  kde.toList.all isKdeChar &&
    "date".toList.isSuffixOf kde.toList

/- `text.replace(" ", "_")`. -/
def underscored (text : String) : String :=
  String.ofList (text.toList.map (fun c =>
    if c = ' ' then '_' else c))

/- The name that a column is looked up under. -/
def columnName (rd : Reader) (col : String) : String :=
  underscored (rd.lower (Python.strip col))

def placeOf (rd : Reader) (col : String) : Place :=
  match Sandbox.csvColumnMap.lookup (columnName rd col) with
  | some mapped => .top mapped
  | none =>
      match
        Sandbox.kdeFieldAliases.lookup (columnName rd col) with
      | some kde => .kde kde (isDateKde kde)
      | none => .kde (columnName rd col) false

/-
  The value read from a cell, the rule that changed it, and
  the checks that it fails.
-/
structure Coercion where
  value : Value
  rule : Option String
  failures : List Failure

/- `float(text)`, when it is finite. -/
def finiteFloat (rd : Reader) (text : String) :
    Option Python.Float :=
  (rd.float text).filter (fun x =>
    !(["inf", "-inf", "nan"].contains x.repr))

/- `text.replace("-", "_")`. -/
def dashless (text : String) : String :=
  String.ofList (text.toList.map (fun c =>
    if c = '-' then '_' else c))

/- The event type that a cell names. -/
def cteTypeOf (rd : Reader) (text : String) : String :=
  let cteLower :=
    dashless (underscored (rd.lower (Python.strip text)))
  (Sandbox.cteTypeAliases.lookup cteLower).getD cteLower

/- `_normalize_date`. -/
def normalizeDate
    (rd : Reader)
    (stripped sourceColumn fieldPath : String)
    (trimRule : Option String) :
    Coercion :=
  match CsvTemplates.parseDateFlexible rd stripped with
  | .error warning =>
      ⟨.str stripped, trimRule,
        [invalidDate (some sourceColumn) fieldPath stripped
          warning]⟩
  | .ok iso =>
      ⟨.str iso,
        if iso = stripped then trimRule else some "date_format",
        []⟩

/- The coercion of the text of a column of the event itself. -/
def normalizeField
    (rd : Reader)
    (mapped col stripped : String)
    (trimRule : Option String) :
    Coercion :=
  match mapped with
  | "quantity" =>
      match finiteFloat rd stripped with
      | some x => ⟨.float x, trimRule, []⟩
      | none =>
          ⟨.str stripped, trimRule,
            [invalidQuantity (some col) stripped]⟩
  | "unit_of_measure" =>
      let normalized := CsvTemplates.normalizeUom rd stripped
      ⟨.str normalized,
        if normalized = stripped then trimRule
        else some "uom_alias", []⟩
  | "cte_type" =>
      let canonical := cteTypeOf rd stripped
      ⟨.str canonical,
        if canonical = stripped then trimRule
        else some "cte_type_alias", []⟩
  | "timestamp" =>
      normalizeDate rd stripped col "timestamp" trimRule
  | _ => ⟨.str stripped, trimRule, []⟩

/- The coercion of the text of a cell. -/
def normalizeText
    (rd : Reader)
    (place : Place)
    (col stripped : String)
    (trimRule : Option String) :
    Coercion :=
  match place with
  | .top mapped => normalizeField rd mapped col stripped trimRule
  | .kde _ true =>
      normalizeDate rd stripped col place.path trimRule
  | .kde _ false => ⟨.str stripped, trimRule, []⟩

--------
-- The Event of a Row
--------

/- A value stored in the event. -/
def ManifestEvent.put
    (event : ManifestEvent)
    (place : Place)
    (value : Value) :
    ManifestEvent :=
  match place with
  | .top name =>
      { event with fields := event.fields.set name value }
  | .kde name _ => { event with kdes := event.kdes.set name value }

/- What `_record` notes about a field. -/
def provenanceEntry
    (col : String)
    (raw value : Value)
    (rule : Option String) :
    Value :=
  .dict
    ([("source_column", .str col), ("raw_value", raw),
        ("value", value),
        ("source",
          .str (if rule.isSome then "auto_normalization"
            else "csv"))] ++
      (rule.map (fun text => ("rule", Value.str text))).toList)

/- What the loop over the cells has gathered. -/
structure Intake where
  event : ManifestEvent
  provenance : Dict
  failures : List Failure

/- The value of a cell stored and recorded. -/
def Intake.store
    (intake : Intake)
    (place : Place)
    (col : String)
    (raw : Value)
    (coerced : Coercion) :
    Intake where
  event := intake.event.put place coerced.value
  provenance :=
    intake.provenance.set place.path
      (provenanceEntry col raw coerced.value coerced.rule)
  failures := intake.failures ++ coerced.failures

/-
  One round of the loop. Surplus cells stand under the empty
  column, which no table knows.
-/
def readCell
    (rd : Reader)
    (intake : Intake)
    (cell : String × Cell) :
    Intake :=
  match cell with
  | (col, .text raw) =>
      let stripped := Python.strip raw
      if stripped = "" then
        intake
      else
        let trimRule :=
          if stripped = raw then none else some "trim_whitespace"
        intake.store (placeOf rd col) col (.str raw)
          (normalizeText rd (placeOf rd col) col stripped
            trimRule)
  | (col, .surplus values) =>
      let value := (Cell.surplus values).value
      intake.store (.kde (columnName rd col) false) col value
        ⟨value, none, []⟩

/- The check that the quantity is above zero. -/
def quantityFailures
    (sourceColumn : Option String)
    (quantity : Value) :
    List Failure :=
  match quantity with
  | .float x =>
      if x.nonpos then [nonpositiveQuantity sourceColumn x]
      else []
  | _ => []

/- The check that a lot code is not too short. -/
def tlcFailures (tlc : Value) : List Failure :=
  match tlc with
  | .str text =>
      if 0 < text.toList.length ∧ text.toList.length < 3 then
        [invalidTlc text]
      else
        []
  | _ => []

/- `build_event_from_row`. -/
def buildEventFromRow (rd : Reader) (row : RawRow) : Intake :=
  let read := row.cells.foldl (readCell rd) ⟨⟨[], []⟩, [], []⟩
  { read with
    failures :=
      read.failures ++
        quantityFailures (some "quantity")
          (read.event.fields.get "quantity") ++
        tlcFailures
          (read.event.fields.get "traceability_lot_code") }

--------
-- Validation
--------

/-
  The checks that see nothing but the event: the reading of
  cells, the messages of `_validate_kdes`, and the results of
  the stateless rules.
-/
structure Validator extends Reader where
  kdeErrors : ManifestEvent → List String
  ruleResults : ManifestEvent → List RuleEvaluationResult

/- `_field_path`. -/
def fieldPath (canonical : String) : String :=
  if topLevelFields.contains canonical then canonical
  else "kdes." ++ canonical

/- A product code that is no approved alias. -/
def unknownProductAlias (code : String) : Failure :=
  serviceFailure "unknown_product_alias" "kdes.product_code"
    (some "product_code")
    ("Product code '" ++ code ++
      "' is not an approved alias for this supplier.")
    "Use an approved product code, or ask the buyer to approve this alias."

/-
  `check_product_alias`, on the approved aliases with their
  entities: the failures, and the note of the alias applied.
  A KDE with a name holds a text.
-/
def checkProductAlias
    (aliases : List (String × String))
    (event : ManifestEvent) :
    List Failure × Option Dict :=
  match event.kdes.get "product_code" with
  | .str code =>
      if code = "" then
        ([], none)
      else
        match aliases.lookup code with
        | some entity =>
            ([], some
              [("field", .str "kdes.product_code"),
                ("source", .str "approved_mapping"),
                ("rule", .str "entity_alias"),
                ("entity_id", .str entity)])
        | none => ([unknownProductAlias code], none)
  | _ => ([], none)

/- The name quoted at the front of a text after `KDE`. -/
def quotedKde (text : List Char) : Option String :=
  if "KDE '".toList.isPrefixOf text then
    let name := (text.drop 5).takeWhile isKdeChar
    if name ≠ [] ∧
        (text.drop (5 + name.length)).head? = some '\'' then
      some (String.ofList name)
    else
      none
  else
    none

/- `_KDE_ERROR_FIELD_RE.search(err)`, with its group. -/
def kdeErrorField (message : String) : Option String :=
  message.toList.tails.findSome? quotedKde

/- The issue of a message about a KDE. -/
def kdeFailure (message : String) : Failure where
  issueId := "kde:" ++ Python.orElse (kdeErrorField message) "row"
  ruleId := "kde.completeness"
  ruleVersion := 1
  ruleTitle := "Required KDE completeness"
  severity := .critical
  category := "kde_presence"
  result := "fail"
  whyFailed := message
  remediation := some "Provide the missing key data element."
  source := "kde"
  field := (kdeErrorField message).map fieldPath
  sourceColumn := none
  remediationOwner := "supplier"
  autoResolvable := false

/- The first field that a rule inspected. -/
def inspectedField (fields : List Dict) : Option String :=
  fields.findSome? (fun candidate =>
    (Dict.get candidate "field").str?)

/- `_rule_failure`. -/
def ruleFailure (rule : RuleEvaluationResult) (result : String) :
    Failure where
  issueId := "rule:" ++ rule.ruleTitle
  ruleId := rule.ruleId
  ruleVersion := rule.ruleVersion
  ruleTitle := rule.ruleTitle
  severity := rule.severity
  category := rule.category
  result := result
  whyFailed := Python.orElse rule.whyFailed rule.ruleTitle
  remediation := rule.remediationSuggestion
  source := "rule"
  field := inspectedField rule.evidenceFieldsInspected
  sourceColumn := none
  remediationOwner := "supplier"
  autoResolvable := false

/- The results that block: errors, and critical failures. -/
def blocks (rule : RuleEvaluationResult) : Bool :=
  rule.result == .error ||
    (rule.result == .fail && rule.severity == .critical)

/- The warning of a result that does not block. -/
def ruleWarning (rule : RuleEvaluationResult) : Option String :=
  if !blocks rule &&
      (rule.result == .fail || rule.result == .warn) then
    some (Python.strip ("[" ++ rule.ruleTitle ++ "] " ++
      Python.orElse rule.whyFailed ""))
  else
    none

/- The first issue under each id. -/
def dedupe (seen : List String) : List Failure → List Failure
| [] => []
| failure :: rest =>
    if seen.contains failure.issueId then
      dedupe seen rest
    else
      failure :: dedupe (failure.issueId :: seen) rest

/- What a validation found. -/
structure Snapshot where
  failures : List Failure
  warnings : List String
  blocking : Bool
  deriving DecidableEq

/- The issues of the checks that see nothing but the event. -/
def eventFailures (vd : Validator) (event : ManifestEvent) :
    List Failure :=
  (vd.kdeErrors event).map kdeFailure ++
    ((vd.ruleResults event).filter blocks).map (fun rule =>
      ruleFailure rule "fail")

/-
  `validate_event` and `snapshot_failures`; the failures of
  the service checks are all critical.
-/
def snapshotFailures
    (vd : Validator)
    (event : ManifestEvent)
    (serviceFailures : List Failure) :
    Snapshot :=
  let failures :=
    dedupe [] (eventFailures vd event ++ serviceFailures)
  { failures := failures
    warnings := (vd.ruleResults event).filterMap ruleWarning
    blocking := !failures.isEmpty }

--------
-- Correctable Fields
--------

/- `_RULE_FIELD_TO_EVENT_PATH`. -/
def ruleFieldToEventPath : List (String × String) :=
  [("traceability_lot_code", "traceability_lot_code"),
    ("product_reference", "product_description"),
    ("quantity", "quantity"),
    ("from_facility_reference", "location_name"),
    ("to_facility_reference", "kdes.receiving_location"),
    ("ftl_covered", "product_description")]

/- A field that the supplier may correct. -/
structure AllowedField where
  fieldPath : String
  reason : String
  expectedFormat : String
  issueId : String
  deriving DecidableEq

/- The event path that a failure asks to correct. -/
def correctablePath (failure : Failure) : Option String :=
  match failure.field with
  | none => none
  | some field =>
      let path := (ruleFieldToEventPath.lookup field).getD field
      if field = "" then none
      else if topLevelFields.contains path ||
          "kdes.".toList.isPrefixOf path.toList then
        some path
      else if Sandbox.kdeFields.contains path then
        some ("kdes." ++ path)
      else
        none

def allowedField (path : String) (failure : Failure) :
    AllowedField where
  fieldPath := path
  reason := failure.whyFailed
  expectedFormat :=
    Python.orElse failure.remediation "See failure reason."
  issueId := failure.issueId

/- The loop of `correctable_fields`. -/
def correctableLoop (seen : List String) :
    List Failure → List AllowedField
| [] => []
| failure :: rest =>
    match correctablePath failure with
    | none => correctableLoop seen rest
    | some path =>
        if seen.contains path then
          correctableLoop seen rest
        else
          allowedField path failure ::
            correctableLoop (path :: seen) rest

/- `correctable_fields`. -/
def correctableFields (failures : List Failure) :
    List AllowedField :=
  correctableLoop [] failures

end Remediation

end RegEngine
