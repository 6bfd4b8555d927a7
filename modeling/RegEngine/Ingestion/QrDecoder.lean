import RegEngine.Library.Chars
import RegEngine.Library.Datetime
import RegEngine.Library.Url

/-
  Decoding of GS1 Digital Links and GS1 element strings
  (`ingestion/app/qr_decoder.py`). Texts are lists of their
  characters.

  Main declarations:
    * `QrDecoder.parseDigitalLink`
    * `QrDecoder.parseGs1Ai`
    * `QrDecoder.scan`
-/

--------
-- Decoded Fields
--------

namespace RegEngine

namespace QrDecoder

/- `source_format`. -/
inductive SourceFormat where
  | unknown
  | digitalLink
  | gs1Ai
  deriving DecidableEq

/- `QRDecodedFields`. -/
structure QrDecodedFields where
  gtin : Option (List Char) := none
  traceabilityLotCode : Option (List Char) := none
  serial : Option (List Char) := none
  expiryDate : Option (List Char) := none
  packDate : Option (List Char) := none
  sourceFormat : SourceFormat := .unknown
  validGtin : Option Bool := none
  deriving DecidableEq

/- `not field`. -/
def isUnset (field : Option (List Char)) : Bool :=
  field.getD [] = []

/- The weights 3, 1, 3, 1, ... over the digits from the right. -/
def weightedTotal : Nat → Nat → List Nat → Nat
| total, _, [] => total
| total, weight, digit :: rest =>
    weightedTotal (total + digit * weight)
      (if weight = 3 then 1 else 3) rest

/- `_is_valid_gtin_check_digit`. -/
def isValidGtinCheckDigit (gtin : List Char) : Bool :=
  match gtin.mapM Chars.decimalValue with
  | none => false
  | some digits =>
      if digits.length ≠ 14 then
        false
      else
        let total := weightedTotal 0 3 digits.dropLast.reverse
        decide ((10 - total % 10) % 10 = digits.getLastD 0)

/- `_parse_yymmdd`. -/
def parseYymmdd (value : List Char) : Option (List Char) :=
  if value.length ≠ 6 then
    none
  else do
    let year ← Chars.intOfDigits (value.take 2)
    let month ← Chars.intOfDigits ((value.drop 2).take 2)
    let day ← Chars.intOfDigits ((value.drop 4).take 2)
    let date : CalendarDate := ⟨2000 + year, month, day⟩
    if date.isValid then
      some (Python.pad 4 date.year ++ '-' ::
        (Python.pad 2 date.month ++ '-' ::
          Python.pad 2 date.day))
    else
      none

/- The application identifiers of `_AI_SUPPORTED`. -/
inductive Field where
  | gtin
  | packDate
  | expiry
  | lot
  | serial
  deriving DecidableEq

/- `_AI_FIXED_LENGTH`; the others are of `_AI_VARIABLE`. -/
def Field.fixedLength : Field → Option Nat
| .gtin => some 14
| .packDate => some 6
| .expiry => some 6
| .lot => none
| .serial => none

/- A value for a field that is not set yet. -/
def record (field : Field) (value : List Char)
    (fields : QrDecodedFields) : QrDecodedFields :=
  match field with
  | .gtin =>
      if isUnset fields.gtin then
        { fields with gtin := some value }
      else
        fields
  | .lot =>
      if isUnset fields.traceabilityLotCode then
        { fields with traceabilityLotCode := some value }
      else
        fields
  | .serial =>
      if isUnset fields.serial then
        { fields with serial := some value }
      else
        fields
  | .expiry =>
      if isUnset fields.expiryDate then
        { fields with expiryDate := parseYymmdd value }
      else
        fields
  | .packDate =>
      if isUnset fields.packDate then
        { fields with packDate := parseYymmdd value }
      else
        fields

/- The check of the GTIN at the end of both parsers. -/
def withValidGtin (fields : QrDecodedFields) :
    QrDecodedFields :=
  if isUnset fields.gtin then
    fields
  else
    { fields with
      validGtin := fields.gtin.map isValidGtinCheckDigit }

--------
-- Element Strings
--------

/- `_GROUP_SEPARATOR`. -/
def groupSeparator : Char :=
  Char.ofNat 29

/- The supported application identifier two characters are. -/
def readAi (first second : Char) : Option Field :=
  if first = '0' ∧ second = '1' then some .gtin
  else if first = '1' ∧ second = '3' then some .packDate
  else if first = '1' ∧ second = '7' then some .expiry
  else if first = '1' ∧ second = '0' then some .lot
  else if first = '2' ∧ second = '1' then some .serial
  else none

/- `_is_supported_ai` of the two characters at the front. -/
def supportedAi : List Char → Option Field
| first :: second :: _ => readAi first second
| _ => none

/- `_looks_like_ai_at`, on the text from the index on. -/
def looksLikeAi (text : List Char) : Bool :=
  match supportedAi text with
  | none => false
  | some field =>
      match field.fixedLength with
      | some length => decide (2 + length ≤ text.length)
      | none => true

/-
  `_find_next_field_boundary`: the number of characters before
  the boundary.
-/
def findNextFieldBoundary : List Char → Nat
| [] => 0
| c :: rest =>
    if c = groupSeparator ∨ looksLikeAi (c :: rest) then
      0
    else
      findNextFieldBoundary rest + 1

/- `_normalize_payload`. -/
def normalizePayload (payload : List Char) : List Char :=
  (((Chars.strip payload).filter (· ≠ ' ')).filter
    (· ≠ '(')).filter (· ≠ ')')

/-
  The loop of `_parse_gs1_ai` on the text from `index` on. The
  index grows each time, so that the length is fuel enough.
-/
def parseLoop :
    Nat → List Char → QrDecodedFields → QrDecodedFields
| 0, _, fields => fields
| _, [], fields => fields
| fuel + 1, c :: rest, fields =>
    if c = groupSeparator then
      parseLoop fuel rest fields
    else
      match supportedAi (c :: rest) with
      | none => parseLoop fuel rest fields
      | some field =>
          let body := rest.drop 1
          match field.fixedLength with
          | some length =>
              let value := body.take length
              parseLoop fuel (body.drop length)
                (if value.length = length then
                  record field value fields
                else
                  fields)
          | none =>
              let stop := findNextFieldBoundary body
              let value := body.take stop
              parseLoop fuel (body.drop stop)
                (if value ≠ [] then
                  record field value fields
                else
                  fields)

/- The loop over a whole text. -/
def scan (text : List Char) (fields : QrDecodedFields) :
    QrDecodedFields :=
  parseLoop text.length text fields

/- `_parse_gs1_ai`. -/
def parseGs1Ai (payload : List Char) : QrDecodedFields :=
  withValidGtin
    (scan (normalizePayload payload) { sourceFormat := .gs1Ai })

--------
-- Digital Links
--------

def linkPath
    (refused : List Char → Bool)
    (cleaned : List Char) :
    Option (List Char) :=
  if cleaned.head? = some '/' then
    some ((cleaned.takeWhile (· ≠ '?')).takeWhile (· ≠ '#'))
  else
    match Url.urlparse refused cleaned with
    | none => none
    | some (scheme, path) =>
        if scheme = "http".toList ∨ scheme = "https".toList then
          some path
        else
          none

def segmentsOf (path : List Char) : List (List Char) :=
  (path.splitOn '/').filter (· ≠ [])

/- A segment that is a supported application identifier. -/
def segmentAi : List Char → Option Field
| [first, second] => readAi first second
| _ => none

def segmentValue (segment : List Char) : List Char :=
  Chars.strip (Url.unquote segment)

def linkStep
    (fields : QrDecodedFields)
    (pair : List Char × List Char) :
    QrDecodedFields :=
  if segmentValue pair.2 = [] then
    fields
  else
    match segmentAi pair.1 with
    | none => fields
    | some field => record field (segmentValue pair.2) fields

/- The loop of `_parse_digital_link`. -/
def readSegments (segments : List (List Char)) :
    QrDecodedFields :=
  (segments.zip segments.tail).foldl linkStep
    { sourceFormat := .digitalLink }

/-
  `_parse_digital_link`. `refused` are the host parts at which
  `urlparse` raises a `ValueError`.
-/
def parseDigitalLink
    (refused : List Char → Bool)
    (payload : List Char) :
    Option QrDecodedFields :=
  if Chars.strip payload = [] then
    none
  else
    match linkPath refused (Chars.strip payload) with
    | none => none
    | some path =>
        let fields := readSegments (segmentsOf path)
        if ['0', '1'] ∉ segmentsOf path then
          none
        else if isUnset fields.gtin ∧
            isUnset fields.traceabilityLotCode ∧
            isUnset fields.serial then
          none
        else
          some (withValidGtin fields)

/- `_parse_gs1_payload`. -/
def parseGs1Payload
    (refused : List Char → Bool)
    (payload : List Char) :
    QrDecodedFields :=
  match parseDigitalLink refused payload with
  | some fields => fields
  | none => parseGs1Ai payload

--------
-- The Scan Step By Step
--------

variable {text rest : List Char}
  {fields : QrDecodedFields} {field : Field}

/- The fields after a value of a fixed length. -/
def recordFixed
    (field : Field)
    (length : Nat)
    (text : List Char)
    (fields : QrDecodedFields) :
    QrDecodedFields :=
  if (text.take length).length = length then
    record field (text.take length) fields
  else
    fields

/- The fields after a value that ends at a boundary. -/
def recordVariable
    (field : Field)
    (text : List Char)
    (fields : QrDecodedFields) :
    QrDecodedFields :=
  if text.take (findNextFieldBoundary text) ≠ [] then
    record field (text.take (findNextFieldBoundary text)) fields
  else
    fields

theorem ne_groupSeparator_of_readAi
    {first second : Char}
    (hRead : readAi first second = some field) :
    first ≠ groupSeparator := by
  intro hEq
  rw [hEq] at hRead
  simp [readAi, groupSeparator] at hRead

/- A separator or an unknown character is passed over. -/
theorem parseLoop_skip
    {c : Char}
    (fuel : Nat)
    (hSkip : c = groupSeparator ∨
      supportedAi (c :: rest) = none) :
    parseLoop (fuel + 1) (c :: rest) fields =
      parseLoop fuel rest fields := by
  rw [parseLoop]
  rcases hSkip with hSeparator | hNone
  · rw [if_pos hSeparator]
  · rw [hNone]
    split <;> rfl

/- A value is read behind an application identifier. -/
theorem parseLoop_read
    {first second : Char}
    (fuel : Nat)
    (hRead : readAi first second = some field) :
    parseLoop (fuel + 1) (first :: second :: text) fields =
      match field.fixedLength with
      | some length =>
          parseLoop fuel (text.drop length)
            (recordFixed field length text fields)
      | none =>
          parseLoop fuel
            (text.drop (findNextFieldBoundary text))
            (recordVariable field text fields) := by
  have hAi :
      supportedAi (first :: second :: text) = some field := hRead
  rw [parseLoop, if_neg (ne_groupSeparator_of_readAi hRead), hAi]
  rfl

/- More fuel than characters changes nothing. -/
theorem parseLoop_fuel
    (fuel other : Nat)
    (hFuel : text.length ≤ fuel)
    (hOther : text.length ≤ other) :
    parseLoop fuel text fields = parseLoop other text fields := by
  induction fuel generalizing other text fields with
  | zero =>
      have hNil : text = [] :=
        List.length_eq_zero_iff.mp (by omega)
      rw [hNil]
      cases other <;> rfl
  | succ fuel ih =>
      rcases other with _ | other
      · have hNil : text = [] :=
          List.length_eq_zero_iff.mp (by omega)
        rw [hNil]
        rfl
      rcases text with _ | ⟨first, rest⟩
      · rfl
      rw [List.length_cons] at hFuel hOther
      by_cases hSkip :
          first = groupSeparator ∨ supportedAi (first :: rest) = none
      · rw [parseLoop_skip fuel hSkip, parseLoop_skip other hSkip]
        exact ih other (by omega) (by omega)
      rcases rest with _ | ⟨second, text⟩
      · exact absurd (Or.inr rfl) hSkip
      rw [not_or] at hSkip
      rcases Option.ne_none_iff_exists'.mp hSkip.2 with
        ⟨field, hRead⟩
      rw [parseLoop_read fuel hRead, parseLoop_read other hRead]
      rw [List.length_cons] at hFuel hOther
      split <;>
        exact ih other (by rw [List.length_drop]; omega)
          (by rw [List.length_drop]; omega)

theorem scan_nil :
    scan [] fields = fields :=
  rfl

theorem scan_skip
    {c : Char}
    (hSkip : c = groupSeparator ∨
      supportedAi (c :: rest) = none) :
    scan (c :: rest) fields = scan rest fields :=
  parseLoop_skip rest.length hSkip

theorem scan_fixed
    {first second : Char}
    {length : Nat}
    (hRead : readAi first second = some field)
    (hLength : field.fixedLength = some length) :
    scan (first :: second :: text) fields =
      scan (text.drop length)
        (recordFixed field length text fields) := by
  rw [scan, List.length_cons, parseLoop_read _ hRead, hLength]
  apply parseLoop_fuel
  · rw [List.length_drop, List.length_cons]
    omega
  · exact le_refl _

theorem scan_variable
    {first second : Char}
    (hRead : readAi first second = some field)
    (hLength : field.fixedLength = none) :
    scan (first :: second :: text) fields =
      scan (text.drop (findNextFieldBoundary text))
        (recordVariable field text fields) := by
  rw [scan, List.length_cons, parseLoop_read _ hRead, hLength]
  apply parseLoop_fuel
  · rw [List.length_drop, List.length_cons]
    omega
  · exact le_refl _

/-
  Induction along a scan: the characters passed over, the
  values of a fixed length, and those that end at a boundary.
-/
theorem scan_induction
    {motive : List Char → QrDecodedFields → Prop}
    (nil : ∀ fields, motive [] fields)
    (skip : ∀ c rest fields,
      (c = groupSeparator ∨ supportedAi (c :: rest) = none) →
        motive rest fields → motive (c :: rest) fields)
    (fixed : ∀ first second text fields field length,
      readAi first second = some field →
        field.fixedLength = some length →
          motive (text.drop length)
            (recordFixed field length text fields) →
            motive (first :: second :: text) fields)
    (variableLength : ∀ first second text fields field,
      readAi first second = some field →
        field.fixedLength = none →
          motive (text.drop (findNextFieldBoundary text))
            (recordVariable field text fields) →
            motive (first :: second :: text) fields)
    (text : List Char)
    (fields : QrDecodedFields) :
    motive text fields := by
  induction hSize : text.length using Nat.strong_induction_on
    generalizing text fields with
  | _ size ih =>
      match text with
      | [] => exact nil fields
      | [c] =>
          exact skip c [] fields (Or.inr rfl)
            (ih 0 (by simp [← hSize]) [] fields rfl)
      | first :: second :: later =>
          have hLess :
              ∀ (k : Nat) (fields' : QrDecodedFields),
                motive (later.drop k) fields' := by
            intro k fields'
            apply ih (later.drop k).length _ _ _ rfl
            simp only [List.length_cons] at hSize
            rw [List.length_drop]
            omega
          cases hRead : readAi first second with
          | none =>
              refine skip first (second :: later) fields
                (Or.inr hRead) ?_
              apply ih (second :: later).length _ _ _ rfl
              simp only [List.length_cons] at hSize ⊢
              omega
          | some field =>
              cases hLength : field.fixedLength with
              | none =>
                  exact variableLength first second later fields
                    field hRead hLength (hLess _ _)
              | some length =>
                  exact fixed first second later fields field
                    length hRead hLength (hLess _ _)

end QrDecoder

end RegEngine
