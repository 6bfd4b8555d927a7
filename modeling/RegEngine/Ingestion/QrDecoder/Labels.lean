import RegEngine.Ingestion.Labels.Elements
import RegEngine.Ingestion.QrDecoder.Scan

/-
  Which labels the scanner reads back. The scanner keeps step
  with a label as long as no value holds what it takes for an
  application identifier of its own, and the label has no
  bracket in a value and no date without a day.

  Main declarations:
    * `QrDecoder.ReadsBack`
    * `QrDecoder.isQuiet`
    * `QrDecoder.isLegible`
-/

--------
-- Fields One By One
--------

namespace RegEngine

namespace QrDecoder

section

/- A field of the decoded fields. -/
def get (field : Field) (fields : QrDecodedFields) :
    Option (List Char) :=
  match field with
  | .gtin => fields.gtin
  | .packDate => fields.packDate
  | .expiry => fields.expiryDate
  | .lot => fields.traceabilityLotCode
  | .serial => fields.serial

/- The decoded fields with one of them changed. -/
def assign (field : Field) (value : Option (List Char))
    (fields : QrDecodedFields) : QrDecodedFields :=
  match field with
  | .gtin => { fields with gtin := value }
  | .packDate => { fields with packDate := value }
  | .expiry => { fields with expiryDate := value }
  | .lot => { fields with traceabilityLotCode := value }
  | .serial => { fields with serial := value }

theorem get_assign
    (field other : Field)
    (value : Option (List Char))
    (fields : QrDecodedFields) :
    get other (assign field value fields) =
      if other = field then value else get other fields := by
  cases field <;> cases other <;> rfl

/- What the scanner makes of a value. -/
def reading (field : Field) (value : List Char) :
    Option (List Char) :=
  match field with
  | .packDate | .expiry => parseYymmdd value
  | _ => some value

theorem record_of_none
    {field : Field}
    {fields : QrDecodedFields}
    (hNone : get field fields = none)
    (value : List Char) :
    record field value fields =
      assign field (reading field value) fields := by
  cases field <;> simp only [get] at hNone <;>
    simp [record, isUnset, hNone, assign, reading]

/- Two of the six digits of a date. -/
def dateNumber (value : List Char) (start : Nat) : Nat :=
  (Chars.intOfDigits ((value.drop start).take 2)).getD 0

/- The date that six digits stand for. -/
def dateText (value : List Char) : List Char :=
  Python.pad 4 (2000 + dateNumber value 0) ++ '-' ::
    (Python.pad 2 (dateNumber value 2) ++ '-' ::
      Python.pad 2 (dateNumber value 4))

/- A value as the decoded fields should have it. -/
def written (field : Field) (value : List Char) : List Char :=
  match field with
  | .packDate | .expiry => dateText value
  | _ => value

--------
-- What A Label Says
--------

open Gs1128 (Ai Element)

/- The scanner's field for an application identifier. -/
def knownField : Ai → Option Field
| .gtin => some .gtin
| .packDate => some .packDate
| .expiry => some .expiry
| .lot => some .lot
| .serial => some .serial
| _ => none

theorem knownField_inj
    {ai other : Ai}
    {field : Field}
    (hAi : knownField ai = some field)
    (hOther : knownField other = some field) :
    ai = other := by
  have hSame : knownField ai = knownField other :=
    hAi.trans hOther.symm
  clear hOther
  cases ai <;> cases hAi <;> cases other <;> cases hSame <;> rfl

/- The application identifier of a field, in a label. -/
theorem readAi_of_knownField
    {ai : Ai}
    {field : Field}
    (hKnown : knownField ai = some field) :
    ∃ first second, ai.text = [first, second] ∧
      readAi first second = some field := by
  cases ai <;> simp [knownField] at hKnown <;> subst hKnown <;>
    exact ⟨_, _, rfl, by decide⟩

/- What the elements of a label say about a field. -/
def said (field : Field) : List Element → Option (List Char)
| [] => none
| element :: rest =>
    if knownField element.ai = some field then
      some (written field element.value)
    else
      said field rest

/-
  The decoded fields are those of the label: GTIN, lot code,
  serial, pack date and expiry date, each of them set just
  when the label has it.
-/
def ReadsBack
    (elements : List Element)
    (fields : QrDecodedFields) : Prop :=
  ∀ field ∈ [Field.gtin, .lot, .serial, .packDate, .expiry],
    get field fields = said field elements

instance
    (elements : List Element)
    (fields : QrDecodedFields) :
    Decidable (ReadsBack elements fields) := by
  unfold ReadsBack
  infer_instance

/-
  The decoded fields have what the elements say, and elsewhere
  what was there before.
-/
def ReadsFrom
    (before : QrDecodedFields)
    (elements : List Element)
    (fields : QrDecodedFields) : Prop :=
  ∀ field, get field fields =
    (said field elements).or (get field before)

/- The fields that elements set are not set yet. -/
def Fresh
    (elements : List Element)
    (fields : QrDecodedFields) : Prop :=
  ∀ element ∈ elements, ∀ field,
    knownField element.ai = some field → get field fields = none

/- The decoded fields with one element put in. -/
def put (element : Element) (fields : QrDecodedFields) :
    QrDecodedFields :=
  match knownField element.ai with
  | none => fields
  | some field =>
      assign field (some (written field element.value)) fields

variable {elements : List Element}

theorem readsBack_iff_scan
    {format : SourceFormat}
    {fields : QrDecodedFields} :
    ReadsBack elements fields ↔
      ReadsFrom { sourceFormat := format } elements fields := by
  have hNone :
      ∀ field, get field
        ({ sourceFormat := format } : QrDecodedFields) = none := by
    intro field
    cases field <;> rfl
  constructor
  · intro hReads field
    rw [hNone, Option.or_none]
    exact hReads field (by cases field <;> simp)
  · intro hReads field _
    rw [hReads field, hNone, Option.or_none]

/- A field no element is for. -/
theorem said_eq_none
    {field : Field}
    (hMissing : ∀ element ∈ elements,
      knownField element.ai ≠ some field) :
    said field elements = none := by
  induction elements with
  | nil => rfl
  | cons element rest ih =>
      rw [said, if_neg (hMissing element (by simp))]
      exact ih (fun other hOther =>
        hMissing other (List.mem_cons_of_mem _ hOther))

/- The other elements are for other fields. -/
theorem ne_of_distinct
    {element : Element}
    {rest : List Element}
    {field : Field}
    (hDistinct : ((element :: rest).map Element.ai).Nodup)
    (hKnown : knownField element.ai = some field) :
    ∀ other ∈ rest, knownField other.ai ≠ some field := by
  intro other hOther hSame
  rw [List.map_cons, List.nodup_cons] at hDistinct
  apply hDistinct.1
  rw [knownField_inj hKnown hSame]
  exact List.mem_map_of_mem hOther

/- What an element of the label says. -/
theorem said_of_mem
    {element : Element}
    {field : Field}
    (hDistinct : (elements.map Element.ai).Nodup)
    (hMem : element ∈ elements)
    (hKnown : knownField element.ai = some field) :
    said field elements = some (written field element.value) := by
  induction elements with
  | nil => cases hMem
  | cons first rest ih =>
      rcases List.mem_cons.mp hMem with hHere | hLater
      · rw [hHere] at hKnown ⊢
        rw [said, if_pos hKnown]
      · have hFirst : knownField first.ai ≠ some field :=
          fun h => ne_of_distinct hDistinct h element hLater
            hKnown
        rw [said, if_neg hFirst]
        exact ih (List.nodup_cons.mp hDistinct).2 hLater

/- The field of the first element. -/
theorem ReadsFrom.head
    {before fields : QrDecodedFields}
    {element : Element}
    {rest : List Element}
    (hReads : ReadsFrom before (element :: rest) fields)
    (field : Field)
    (hKnown : knownField element.ai = some field) :
    get field fields = some (written field element.value) := by
  rw [hReads field, said, if_pos hKnown, Option.some_or]

theorem readsFrom_cons
    {before fields : QrDecodedFields}
    {element : Element}
    {rest : List Element}
    (hDistinct : ((element :: rest).map Element.ai).Nodup) :
    ReadsFrom before (element :: rest) fields ↔
      ReadsFrom (put element before) rest fields := by
  apply forall_congr'
  intro field
  rw [said, put]
  cases hKnown : knownField element.ai with
  | none => simp
  | some known =>
      rw [get_assign]
      by_cases hSame : field = known
      · have hNone :=
          said_eq_none (ne_of_distinct hDistinct hKnown)
        simp [hSame, hNone]
      · have hOther : some known ≠ some field :=
          fun h => hSame (Option.some.inj h).symm
        rw [if_neg hOther, if_neg hSame]

theorem Fresh.tail
    {fields : QrDecodedFields}
    {element : Element}
    {rest : List Element}
    (hDistinct : ((element :: rest).map Element.ai).Nodup)
    (hFresh : Fresh (element :: rest) fields) :
    Fresh rest (put element fields) := by
  intro other hOther field hField
  have hNone := hFresh other (List.mem_cons_of_mem _ hOther)
    field hField
  rw [put]
  cases hKnown : knownField element.ai with
  | none => exact hNone
  | some known =>
      have hNe : field ≠ known := by
        intro hSame
        exact ne_of_distinct hDistinct hKnown other hOther
          (hSame ▸ hField)
      rw [get_assign, if_neg hNe]
      exact hNone

--------
-- Dates
--------

open Gs1128 (validDate intOf)

/- The date has a day: day 00 is the whole month. -/
def hasDay (value : List Char) : Bool :=
  dateNumber value 4 ≠ 0

theorem intOf_eq_ok
    {text : List Char}
    {number : Nat}
    (hInt : intOf text = .ok number) :
    Chars.intOfDigits text = some number := by
  rw [intOf] at hInt
  split at hInt
  · rename_i hSome
    rw [hSome, Except.ok.inj hInt]
  · cases hInt

theorem numbers_of_validDate
    {value : List Char}
    (hDate : validDate value = .ok true)
    (hDay : hasDay value = true) :
    ∃ year month day,
      Chars.intOfDigits (value.take 2) = some year ∧
      Chars.intOfDigits ((value.drop 2).take 2) = some month ∧
      Chars.intOfDigits ((value.drop 4).take 2) = some day ∧
      year < 100 ∧ 1 ≤ month ∧ month ≤ 12 ∧ 1 ≤ day ∧
      day ≤ CalendarDate.daysInMonth (2000 + year) month := by
  have hDigits := Gs1128.digits_of_validDate hDate
  rw [validDate, if_neg (by simpa using hDigits)] at hDate
  cases hMonth : intOf ((value.drop 2).take 2) with
  | error error => simp [hMonth, bind, Except.bind] at hDate
  | ok month =>
      cases hDayInt : intOf ((value.drop 4).take 2) with
      | error error =>
          simp [hMonth, hDayInt, bind, Except.bind] at hDate
      | ok day =>
          have hMonthValue := intOf_eq_ok hMonth
          have hDayValue := intOf_eq_ok hDayInt
          have hDayNe : day ≠ 0 := by
            simpa [hasDay, dateNumber, hDayValue] using hDay
          simp only [hMonth, hDayInt, bind, Except.bind] at hDate
          split at hDate
          · cases hDate
          rename_i hRange
          cases hYear : intOf (value.take 2) with
          | error error => simp [hYear] at hDate
          | ok year =>
              have hYearValue := intOf_eq_ok hYear
              have hSmall : year < 100 := by
                have hBound := Chars.intOfDigits_lt hYearValue
                rw [List.length_take, hDigits.1] at hBound
                simpa using hBound
              simp only [hYear, pure, Except.pure,
                Except.ok.injEq, Bool.and_eq_true,
                decide_eq_true_eq] at hDate
              exact ⟨year, month, day, hYearValue, hMonthValue,
                hDayValue, hSmall, by omega, by omega, hDate⟩

/- A valid date with a day is read back. -/
theorem parseYymmdd_of_validDate
    {value : List Char}
    (hDate : validDate value = .ok true)
    (hDay : hasDay value = true) :
    parseYymmdd value = some (dateText value) := by
  rcases numbers_of_validDate hDate hDay with
    ⟨year, month, day, hYear, hMonth, hDayValue, hSmall, hLow,
      hHigh, hFirst, hLast⟩
  have hLength := (Gs1128.digits_of_validDate hDate).1
  have hValid :
      (⟨2000 + year, month, day⟩ : CalendarDate).isValid =
        true := by
    simp only [CalendarDate.isValid, Bool.and_eq_true,
      decide_eq_true_eq]
    omega
  rw [parseYymmdd, if_neg (by omega)]
  simp [hYear, hMonth, hDayValue, hValid, dateText, dateNumber]

/- Dates written alike have the same day. -/
theorem day_of_date_eq
    {year month day year' month' day' : Nat}
    (hEq : Python.pad 4 year ++ '-' ::
      (Python.pad 2 month ++ '-' :: Python.pad 2 day) =
        Python.pad 4 year' ++ '-' ::
          (Python.pad 2 month' ++ '-' :: Python.pad 2 day')) :
    Python.pad 2 day = Python.pad 2 day' := by
  have hRest := Text.append_delim_inj_of_length
    (by rw [Python.length_pad, Python.length_pad]) hEq
  exact (Text.append_delim_inj_of_length
    (by rw [Python.length_pad, Python.length_pad]) hRest.2).2

/- No date that is read back lacks its day. -/
theorem hasDay_of_parseYymmdd
    {value other : List Char}
    (hParse : parseYymmdd other = some (dateText value)) :
    hasDay value = true := by
  rw [parseYymmdd] at hParse
  split at hParse
  · cases hParse
  simp only [Option.bind_eq_bind, Option.bind_eq_some_iff]
    at hParse
  rcases hParse with ⟨year, _, month, _, day, _, hParse⟩
  split at hParse
  · rename_i hValid
    simp only [CalendarDate.isValid, Bool.and_eq_true,
      decide_eq_true_eq] at hValid
    have hMonthLength :
        CalendarDate.daysInMonth (2000 + year) month ≤ 31 := by
      rw [CalendarDate.daysInMonth]
      split
      · split <;> omega
      · split <;> omega
    have hDay := day_of_date_eq (Option.some.inj hParse)
    simp only [hasDay, ne_eq, decide_eq_true_eq]
    intro hZero
    rw [hZero] at hDay
    have hSame : day = 0 :=
      Python.pad_inj (by omega) (by omega) hDay
    omega
  · cases hParse

--------
-- Labels That Can Be Read
--------

open Gs1128 (Ai Element textOf separatorAfter)

/- The text behind an element. -/
def following (element : Element) (rest : List Element) :
    List Char :=
  separatorAfter element rest ++ textOf rest

/- A test of every element and the text behind it. -/
def everyElement (test : Element → List Char → Bool) :
    List Element → Bool
| [] => true
| element :: rest =>
    test element (following element rest) &&
      everyElement test rest

/-
  An element of an application identifier that the scanner
  does not know has no place that reads as one it knows.
-/
def isQuiet (element : Element) (behind : List Char) : Bool :=
  match knownField element.ai with
  | some _ => true
  | none => nowhere startsAi element.block behind

/-
  An element the scanner knows can be read back: a lot code or
  serial has no bracket and no place that looks like an
  application identifier, and a date has a day.
-/
def isLegible (element : Element) (behind : List Char) : Bool :=
  match element.ai with
  | .lot | .serial =>
      !element.value.contains '(' &&
        !element.value.contains ')' &&
        nowhere looksLikeAi element.value behind
  | .packDate | .expiry => hasDay element.value
  | _ => true

/- No element holds a bracket. -/
def Plain (elements : List Element) : Prop :=
  ∀ element ∈ elements, ∀ c ∈ element.value,
    c ≠ '(' ∧ c ≠ ')'

theorem Plain.tail
    {element : Element}
    {rest : List Element}
    (hPlain : Plain (element :: rest)) :
    Plain rest :=
  fun other hOther =>
    hPlain other (List.mem_cons_of_mem _ hOther)

--------
-- Keeping Step
--------

open Gs1128 (Ai Element Admits Prepared textOf separatorAfter)

variable {fields : QrDecodedFields} {field : Field}
  {value behind : List Char} {element : Element}
  {rest : List Element}

/- A separator is passed over. -/
theorem scan_following :
    scan (following element rest) fields =
      scan (textOf rest) fields := by
  rw [following, separatorAfter]
  split
  · exact scan_skip (Or.inl rfl)
  · rfl

/- Text without application identifiers is passed over. -/
theorem scan_nowhere
    (hNowhere : nowhere startsAi value behind = true) :
    scan (value ++ behind) fields = scan behind fields := by
  induction value with
  | nil => rfl
  | cons c later ih =>
      simp only [nowhere, startsAi, Bool.and_eq_true,
        Bool.not_eq_true', Option.isSome_eq_false_iff,
        Option.isNone_iff_eq_none] at hNowhere
      rw [List.cons_append, scan_skip (Or.inr hNowhere.1)]
      exact ih hNowhere.2

/- The text behind a value of variable length. -/
def EndsValue (behind : List Char) : Prop :=
  behind = [] ∨ ∃ later, behind = groupSeparator :: later

/- A value without a boundary inside is read to its end. -/
theorem boundary_of_nowhere
    (hSeparator : groupSeparator ∉ value)
    (hBehind : EndsValue behind)
    (hNowhere : nowhere looksLikeAi value behind = true) :
    findNextFieldBoundary (value ++ behind) = value.length := by
  induction value with
  | nil =>
      rcases hBehind with hNil | ⟨later, hLater⟩
      · rw [hNil]
        rfl
      · rw [List.nil_append, hLater, findNextFieldBoundary,
          if_pos (Or.inl rfl)]
        rfl
  | cons c later ih =>
      rw [List.mem_cons, not_or] at hSeparator
      simp only [nowhere, Bool.and_eq_true,
        Bool.not_eq_true'] at hNowhere
      have hChar :
          ¬ (c = groupSeparator ∨
            looksLikeAi (c :: (later ++ behind)) = true) := by
        rw [not_or, Bool.not_eq_true]
        exact ⟨fun h => hSeparator.1 h.symm, hNowhere.1⟩
      rw [List.cons_append, findNextFieldBoundary, if_neg hChar,
        ih hSeparator.2 hNowhere.2, List.length_cons]

/- A value with a boundary inside is cut off there. -/
theorem boundary_lt
    (hNowhere : nowhere looksLikeAi value behind = false) :
    findNextFieldBoundary (value ++ behind) < value.length := by
  induction value with
  | nil => simp [nowhere] at hNowhere
  | cons c later ih =>
      rw [List.cons_append, findNextFieldBoundary]
      split
      · simp
      · rename_i hChar
        rw [not_or, Bool.not_eq_true] at hChar
        have hLater :
            nowhere looksLikeAi later behind = false := by
          simpa [nowhere, hChar.2] using hNowhere
        have hLess := ih hLater
        rw [List.length_cons]
        omega

/- An element of a fixed length is read whole. -/
theorem scan_fixed_element
    {length : Nat}
    (hKnown : knownField element.ai = some field)
    (hLength : field.fixedLength = some length)
    (hValue : element.value.length = length)
    (hNone : get field fields = none) :
    scan (element.block ++ behind) fields =
      scan behind
        (assign field (reading field element.value) fields) := by
  rcases readAi_of_knownField hKnown with
    ⟨first, second, hText, hRead⟩
  have hBlock :
      element.block ++ behind =
        first :: second :: (element.value ++ behind) := by
    rw [Gs1128.Element.block, hText]
    rfl
  rw [hBlock, scan_fixed hRead hLength, recordFixed, ← hValue,
    List.take_left, List.drop_left, if_pos rfl,
    record_of_none hNone]

/- A lot code or serial is read up to the boundary. -/
theorem scan_variable_element
    (behind : List Char)
    (fields : QrDecodedFields)
    (hKnown : knownField element.ai = some field)
    (hLength : field.fixedLength = none) :
    scan (element.block ++ behind) fields =
      scan ((element.value ++ behind).drop
          (findNextFieldBoundary (element.value ++ behind)))
        (recordVariable field (element.value ++ behind)
          fields) := by
  rcases readAi_of_knownField hKnown with
    ⟨first, second, hText, hRead⟩
  have hBlock :
      element.block ++ behind =
        first :: second :: (element.value ++ behind) := by
    rw [Gs1128.Element.block, hText]
    rfl
  rw [hBlock, scan_variable hRead hLength]

end

--------
-- The Room Of A Label
--------

section

open Gs1128 (Ai Element Admits Prepared textOf separatorAfter)

variable {fields : QrDecodedFields} {element : Element}
  {rest : List Element}

/- What an element adds to the lot code and serial. -/
def width (element : Element) : Nat :=
  match element.ai with
  | .lot | .serial => element.value.length + 2
  | _ => 0

/- The characters the lot code and serial are printed with. -/
def demand : List Element → Nat
| [] => 0
| element :: rest => width element + demand rest

theorem held_put
    (hFresh : Fresh (element :: rest) fields) :
    held (put element fields) = held fields + width element := by
  have hNone := hFresh element (by simp)
  cases hAi : element.ai <;>
    simp only [put, knownField, hAi, width, assign, held,
      Nat.add_zero]
  · have hLot : fields.traceabilityLotCode = none :=
      hNone .lot (by rw [hAi]; rfl)
    simp only [written, widthOf, hLot]
    omega
  · have hSerial : fields.serial = none :=
      hNone .serial (by rw [hAi]; rfl)
    simp only [written, widthOf, hSerial]
    omega

variable {elements : List Element}

/- Fields with all a label says hold what it printed. -/
theorem held_of_readsFrom
    {before : QrDecodedFields}
    (hDistinct : (elements.map Element.ai).Nodup)
    (hFresh : Fresh elements before)
    (hReads : ReadsFrom before elements fields) :
    held fields = held before + demand elements := by
  induction elements generalizing before with
  | nil =>
      have hLot := hReads .lot
      have hSerial := hReads .serial
      simp only [said, Option.none_or, get] at hLot hSerial
      simp [held, demand, hLot, hSerial]
  | cons element rest ih =>
      have hRest := (List.nodup_cons.mp hDistinct).2
      have hPut := held_put hFresh
      rw [ih hRest (hFresh.tail hDistinct)
        ((readsFrom_cons hDistinct).mp hReads), demand]
      omega

/- The separator stands in no element. -/
theorem separator_notMem_block
    (hAdmits : Admits element.ai element.value) :
    groupSeparator ∉ element.block := by
  have hSpace : Python.isSpace groupSeparator = true := by
    decide
  have hText : groupSeparator ∉ element.ai.text := by
    cases element.ai <;> decide
  rw [Element.block, List.mem_append, not_or]
  refine ⟨hText, fun hMem => ?_⟩
  rw [hAdmits.isSpace hMem] at hSpace
  exact absurd hSpace Bool.false_ne_true

theorem separator_notMem_value
    (hAdmits : Admits element.ai element.value) :
    groupSeparator ∉ element.value := by
  intro hMem
  exact separator_notMem_block hAdmits
    (List.mem_append_right _ hMem)

/- The elements behind one of variable length. -/
theorem following_of_variable
    (hOrdered : ∀ other ∈ rest, other.isVariable = true)
    (hVariable : element.isVariable = true) :
    (rest = [] ∧ following element rest = []) ∨
      following element rest = groupSeparator :: textOf rest := by
  cases rest with
  | nil => exact Or.inl ⟨rfl, by simp [following, separatorAfter,
      textOf]⟩
  | cons other more =>
      right
      have hOther := hOrdered other (by simp)
      simp [following, separatorAfter, hVariable, hOther]
      rfl

/- A group takes the room of the lot code or serial in it. -/
theorem room_block_le
    (hAdmits : Admits element.ai element.value)
    (hVariable : element.isVariable = true)
    (hOrdered : ∀ other ∈ rest, other.isVariable = true)
    (hQuiet : isQuiet element (following element rest) = true) :
    room (element.block ++ following element rest) ≤
      width element + room (textOf rest) := by
  have hSeparator := separator_notMem_block hAdmits
  cases hKnown : knownField element.ai with
  | none =>
      rw [isQuiet, hKnown] at hQuiet
      rcases following_of_variable hOrdered hVariable with
        ⟨_, hNil⟩ | hGroup
      · rw [hNil] at hQuiet ⊢
        rw [List.append_nil, room_quiet hSeparator hQuiet]
        exact Nat.zero_le _
      · rw [hGroup] at hQuiet ⊢
        rw [room_quiet_group hSeparator hQuiet]
        exact Nat.le_add_left _ _
  | some field =>
      have hWidth : element.block.length = width element := by
        cases hAi : element.ai <;>
          simp [hAi, knownField] at hKnown <;>
          simp [Gs1128.Element.isVariable, Ai.spec, hAi]
            at hVariable <;>
          simp only [Element.block, width, Ai.text, hAi,
            List.length_append, List.length_cons,
            List.length_nil] <;>
          omega
      rcases following_of_variable hOrdered hVariable with
        ⟨_, hNil⟩ | hGroup
      · have hRoom := room_le_length hSeparator
        rw [hNil, List.append_nil]
        omega
      · have hRoom := room_group_le (textOf rest) hSeparator
        rw [hGroup]
        omega

theorem room_textOf_le
    (hPrepared : Prepared elements)
    (hVariable : ∀ element ∈ elements,
      element.isVariable = true)
    (hQuiet : everyElement isQuiet elements = true) :
    room (textOf elements) ≤ demand elements := by
  induction elements with
  | nil => simp [textOf, demand, room, groupsOf, Groups.total]
  | cons element rest ih =>
      rw [everyElement, Bool.and_eq_true] at hQuiet
      have hOrdered : ∀ other ∈ rest, other.isVariable = true :=
        fun other hOther =>
          hVariable other (List.mem_cons_of_mem _ hOther)
      have hBlock := room_block_le
        (hPrepared.admits element (by simp))
        (hVariable element (by simp)) hOrdered hQuiet.1
      have hRest := ih hPrepared.tail hOrdered hQuiet.2
      have hText :
          textOf (element :: rest) =
            element.block ++ following element rest := rfl
      rw [hText, demand]
      omega

end

--------
-- Element By Element
--------

open Gs1128 (Ai Element Admits Prepared textOf separatorAfter)

variable {fields : QrDecodedFields} {field : Field}
  {element : Element} {rest : List Element}

/- The scanner reads an element as the label has it. -/
def InStep
    (element : Element)
    (rest : List Element)
    (fields : QrDecodedFields) : Prop :=
  scan (textOf (element :: rest)) fields =
    scan (textOf rest) (put element fields)

/- The state of the scanner at the start of some elements. -/
structure AtStart
    (elements : List Element)
    (fields : QrDecodedFields) : Prop where
  prepared : Prepared elements
  plain : Plain elements
  quiet : everyElement isQuiet elements = true
  fresh : Fresh elements fields
  readable : Readable (fun _ => True) fields

theorem put_eq_record
    (hKnown : knownField element.ai = some field)
    (hNone : get field fields = none)
    (hReading : reading field element.value =
      some (written field element.value)) :
    put element fields = record field element.value fields := by
  rw [record_of_none hNone, hReading, put, hKnown]

theorem AtStart.none
    (hStart : AtStart (element :: rest) fields)
    (hKnown : knownField element.ai = some field) :
    get field fields = none :=
  hStart.fresh element (by simp) field hKnown

/- The next element, once this one is read. -/
theorem AtStart.next
    (hStart : AtStart (element :: rest) fields)
    (hReading : ∀ field, knownField element.ai = some field →
      reading field element.value =
        some (written field element.value)) :
    AtStart rest (put element fields) := by
  have hQuiet := hStart.quiet
  rw [everyElement, Bool.and_eq_true] at hQuiet
  refine ⟨hStart.prepared.tail, hStart.plain.tail, hQuiet.2,
    hStart.fresh.tail hStart.prepared.distinct, ?_⟩
  cases hKnown : knownField element.ai with
  | none =>
      rw [put, hKnown]
      exact hStart.readable
  | some field =>
      rw [put_eq_record hKnown (hStart.none hKnown)
        (hReading field hKnown)]
      exact hStart.readable.record (fun _ _ => trivial)

theorem inStep_unknown
    (hKnown : knownField element.ai = none)
    (hQuiet : isQuiet element (following element rest) = true) :
    InStep element rest fields := by
  rw [isQuiet, hKnown] at hQuiet
  rw [InStep, put, hKnown, textOf]
  exact (scan_nowhere hQuiet).trans scan_following

theorem inStep_fixed
    {length : Nat}
    (hStart : AtStart (element :: rest) fields)
    (hKnown : knownField element.ai = some field)
    (hLength : field.fixedLength = some length)
    (hValue : element.value.length = length)
    (hReading : reading field element.value =
      some (written field element.value)) :
    InStep element rest fields := by
  have hPut := put_eq_record hKnown (hStart.none hKnown) hReading
  rw [record_of_none (hStart.none hKnown)] at hPut
  rw [InStep, hPut]
  exact (scan_fixed_element hKnown hLength hValue
    (hStart.none hKnown)).trans scan_following

theorem inStep_variable
    (hStart : AtStart (element :: rest) fields)
    (hKnown : knownField element.ai = some field)
    (hLength : field.fixedLength = none)
    (hBehind : EndsValue (following element rest))
    (hNowhere : nowhere looksLikeAi element.value
      (following element rest) = true) :
    InStep element rest fields := by
  have hAdmits := hStart.prepared.admits element (by simp)
  have hReading :
      reading field element.value =
        some (written field element.value) := by
    cases field <;> simp [Field.fixedLength] at hLength <;> rfl
  have hBoundary := boundary_of_nowhere
    (separator_notMem_value hAdmits) hBehind hNowhere
  have hScan := scan_variable_element (following element rest)
    fields hKnown hLength
  rw [recordVariable, hBoundary, List.take_left, List.drop_left,
    if_pos hAdmits.ne_nil] at hScan
  rw [InStep, put_eq_record hKnown (hStart.none hKnown) hReading]
  exact hScan.trans scan_following

/- A date without its day is not read back. -/
theorem not_readsFrom_of_date
    (hStart : AtStart (element :: rest) fields)
    (hDate : element.ai = .packDate ∨ element.ai = .expiry)
    (hDay : hasDay element.value = false) :
    ¬ ReadsFrom fields (element :: rest)
      (scan (textOf (element :: rest)) fields) := by
  intro hReads
  have hReadable := readable_scan (textOf (element :: rest))
    (fun _ _ => trivial) hStart.readable
  have hParsed :
      ∃ other, parseYymmdd other =
        some (dateText element.value) := by
    rcases hDate with hPack | hExpiry
    · exact hReadable.packDate _
        (hReads.head .packDate (by rw [hPack]; rfl))
    · exact hReadable.expiryDate _
        (hReads.head .expiry (by rw [hExpiry]; rfl))
  rcases hParsed with ⟨other, hOther⟩
  rw [hasDay_of_parseYymmdd hOther] at hDay
  exact absurd hDay (by decide)

theorem isVariable_of_text
    (hText : element.ai = .lot ∨ element.ai = .serial) :
    element.isVariable = true := by
  rcases hText with hAi | hAi <;>
    simp [Gs1128.Element.isVariable, hAi, Ai.spec]

/- Elements of variable length come last. -/
theorem AtStart.variable_rest
    (hStart : AtStart (element :: rest) fields)
    (hVariable : element.isVariable = true) :
    ∀ other ∈ rest, other.isVariable = true :=
  fun other hOther => (List.pairwise_cons.mp
    hStart.prepared.ordered).1 other hOther hVariable

/- The fields of variable length: they stay once set. -/
theorem variableField
    (hText : element.ai = .lot ∨ element.ai = .serial) :
    ∃ field, knownField element.ai = some field ∧
      field.fixedLength = none ∧ Keeps (get field) ∧
        written field element.value = element.value ∧
          ∀ value, reading field value = some value := by
  rcases hText with hLot | hSerial
  · exact ⟨.lot, by rw [hLot]; rfl, rfl, keeps_lot, rfl,
      fun _ => rfl⟩
  · exact ⟨.serial, by rw [hSerial]; rfl, rfl, keeps_serial, rfl,
      fun _ => rfl⟩

/- A value that is cut off is set as far as it was read. -/
theorem get_scan_of_cut
    {behind : List Char}
    {stop : Nat}
    (hKnown : knownField element.ai = some field)
    (hLength : field.fixedLength = none)
    (hKeeps : Keeps (get field))
    (hReading : ∀ value, reading field value = some value)
    (hNone : get field fields = none)
    (hStop : findNextFieldBoundary (element.value ++ behind) =
      stop)
    (hCut : 0 < stop)
    (hLess : stop < element.value.length) :
    get field (scan (element.block ++ behind) fields) =
      some (element.value.take stop) := by
  have hTake :
      (element.value ++ behind).take stop =
        element.value.take stop :=
    List.take_append_of_le_length (le_of_lt hLess)
  have hSome : element.value.take stop ≠ [] := by
    apply List.ne_nil_of_length_pos
    rw [List.length_take]
    omega
  have hGet :
      get field (assign field
        (some (element.value.take stop)) fields) =
          some (element.value.take stop) := by
    rw [get_assign, if_pos rfl]
  rw [scan_variable_element behind fields hKnown hLength,
    recordVariable, hStop, hTake, if_pos hSome,
    record_of_none hNone, hReading, hKeeps.scan, hGet]
  rw [hGet]
  simpa [isUnset] using hSome

/- A lot code or serial that is cut off is not read back. -/
theorem not_readsFrom_of_cut
    (hStart : AtStart (element :: rest) fields)
    (hText : element.ai = .lot ∨ element.ai = .serial)
    (hCut : 0 < findNextFieldBoundary
      (element.value ++ following element rest))
    (hNowhere : nowhere looksLikeAi element.value
      (following element rest) = false) :
    ¬ ReadsFrom fields (element :: rest)
      (scan (textOf (element :: rest)) fields) := by
  intro hReads
  rcases variableField hText with
    ⟨field, hKnown, hLength, hKeeps, hWritten, hReading⟩
  have hLess := boundary_lt hNowhere
  have hSet := get_scan_of_cut hKnown hLength hKeeps hReading
    (hStart.none hKnown) rfl hCut hLess
  have hSaid := hReads.head field hKnown
  rw [hWritten] at hSaid
  have hSame := Option.some.inj (hSet.symm.trans hSaid)
  have hLengths := congrArg List.length hSame
  rw [List.length_take] at hLengths
  omega

/-
  A lot code or serial with a boundary at its start is not
  read back: what is left of the text has no room for it.
-/
theorem not_readsFrom_of_start
    (hStart : AtStart (element :: rest) fields)
    (hText : element.ai = .lot ∨ element.ai = .serial)
    (hCut : findNextFieldBoundary
      (element.value ++ following element rest) = 0) :
    ¬ ReadsFrom fields (element :: rest)
      (scan (textOf (element :: rest)) fields) := by
  intro hReads
  rcases variableField hText with
    ⟨field, hKnown, hLength, _, _, _⟩
  have hAdmits := hStart.prepared.admits element (by simp)
  have hVariable := isVariable_of_text hText
  have hOrdered := hStart.variable_rest hVariable
  have hQuiet := hStart.quiet
  rw [everyElement, Bool.and_eq_true] at hQuiet
  have hRest := room_textOf_le hStart.prepared.tail hOrdered
    hQuiet.2
  have hRoom :
      room (element.value ++ following element rest) ≤
        element.value.length + demand rest := by
    have hSeparator := separator_notMem_value hAdmits
    rcases following_of_variable hOrdered hVariable with
      ⟨_, hNil⟩ | hGroup
    · have hValue := room_le_length hSeparator
      rw [hNil, List.append_nil]
      omega
    · have hValue := room_group_le (textOf rest) hSeparator
      rw [hGroup]
      omega
  have hScan := scan_variable_element (following element rest)
    fields hKnown hLength
  rw [recordVariable, hCut, List.take_zero, List.drop_zero,
    if_neg (by simp)] at hScan
  have hHeld := held_of_readsFrom hStart.prepared.distinct
    hStart.fresh hReads
  have hWidth : width element = element.value.length + 2 := by
    rcases hText with hAi | hAi <;> simp [width, hAi]
  have hLess := held_scan_le
    (element.value ++ following element rest) fields
  rw [← hScan] at hLess
  rw [demand, hWidth] at hHeld
  have hSame :
      held (scan (textOf (element :: rest)) fields) =
        held (scan (element.block ++ following element rest)
          fields) := rfl
  omega

/- The legible elements of a label without brackets. -/
theorem isLegible_of_plain
    (behind : List Char)
    (hPlain : ∀ c ∈ element.value, c ≠ '(' ∧ c ≠ ')')
    (hText : element.ai = .lot ∨ element.ai = .serial) :
    isLegible element behind =
      nowhere looksLikeAi element.value behind := by
  have hOpen : '(' ∉ element.value :=
    fun hMem => (hPlain '(' hMem).1 rfl
  have hClose : ')' ∉ element.value :=
    fun hMem => (hPlain ')' hMem).2 rfl
  rcases hText with hAi | hAi <;>
    simp [isLegible, hAi, hOpen, hClose]

/-
  How the scanner goes over an element: in step when it is
  legible, and else the label is not read back.
-/
def Decides
    (element : Element)
    (rest : List Element)
    (fields : QrDecodedFields) : Prop :=
  (isLegible element (following element rest) = true ∧
      InStep element rest fields ∧
      AtStart rest (put element fields)) ∨
    (isLegible element (following element rest) = false ∧
      ¬ ReadsFrom fields (element :: rest)
        (scan (textOf (element :: rest)) fields))

theorem decides_unknown
    (hStart : AtStart (element :: rest) fields)
    (hKnown : knownField element.ai = none) :
    Decides element rest fields := by
  have hQuiet := hStart.quiet
  rw [everyElement, Bool.and_eq_true] at hQuiet
  refine Or.inl ⟨?_, inStep_unknown hKnown hQuiet.1,
    hStart.next (by simp [hKnown])⟩
  cases hAi : element.ai <;> simp [hAi, knownField] at hKnown <;>
    simp [isLegible, hAi]

theorem decides_gtin
    (hStart : AtStart (element :: rest) fields)
    (hAi : element.ai = .gtin) :
    Decides element rest fields := by
  have hAdmits := hStart.prepared.admits element (by simp)
  have hKnown : knownField element.ai = some .gtin := by
    rw [hAi]
    rfl
  have hValue : element.value.length = 14 := by
    rw [hAi] at hAdmits
    exact hAdmits.2
  refine Or.inl ⟨by simp [isLegible, hAi],
    inStep_fixed hStart hKnown rfl hValue rfl,
    hStart.next ?_⟩
  intro field hField
  rw [hKnown] at hField
  rw [← Option.some.inj hField]
  rfl

theorem decides_date
    (hStart : AtStart (element :: rest) fields)
    (hDate : element.ai = .packDate ∨ element.ai = .expiry) :
    Decides element rest fields := by
  have hAdmits := hStart.prepared.admits element (by simp)
  have hShape :
      element.value.length = 6 ∧
        Gs1128.validDate element.value = .ok true := by
    rcases hDate with hAi | hAi <;> rw [hAi] at hAdmits <;>
      exact ⟨hAdmits.1, hAdmits.2.2⟩
  have hField :
      ∃ field, knownField element.ai = some field ∧
        field.fixedLength = some 6 ∧
        reading field element.value =
          parseYymmdd element.value ∧
        written field element.value =
          dateText element.value := by
    rcases hDate with hAi | hAi
    · exact ⟨.packDate, by rw [hAi]; rfl, rfl, rfl, rfl⟩
    · exact ⟨.expiry, by rw [hAi]; rfl, rfl, rfl, rfl⟩
  have hLegible :
      isLegible element (following element rest) =
        hasDay element.value := by
    rcases hDate with hAi | hAi <;> simp [isLegible, hAi]
  cases hDay : hasDay element.value with
  | false =>
      exact Or.inr ⟨hLegible.trans hDay,
        not_readsFrom_of_date hStart hDate hDay⟩
  | true =>
      rcases hField with
        ⟨field, hKnown, hLength, hReading, hWritten⟩
      have hParse :
          reading field element.value =
            some (written field element.value) := by
        rw [hReading, hWritten]
        exact parseYymmdd_of_validDate hShape.2 hDay
      refine Or.inl ⟨hLegible.trans hDay,
        inStep_fixed hStart hKnown hLength hShape.1 hParse,
        hStart.next ?_⟩
      intro other hOther
      rw [hKnown] at hOther
      rw [← Option.some.inj hOther]
      exact hParse

theorem decides_text
    (hStart : AtStart (element :: rest) fields)
    (hText : element.ai = .lot ∨ element.ai = .serial) :
    Decides element rest fields := by
  have hLegible := isLegible_of_plain (following element rest)
    (hStart.plain element (by simp)) hText
  cases hNowhere : nowhere looksLikeAi element.value
      (following element rest) with
  | false =>
      refine Or.inr ⟨hLegible.trans hNowhere, ?_⟩
      rcases Nat.eq_zero_or_pos (findNextFieldBoundary
          (element.value ++ following element rest)) with
        hFirst | hLater
      · exact not_readsFrom_of_start hStart hText hFirst
      · exact not_readsFrom_of_cut hStart hText hLater hNowhere
  | true =>
      rcases variableField hText with
        ⟨field, hKnown, hLength, _, hWritten, hReading⟩
      have hVariable := isVariable_of_text hText
      have hBehind : EndsValue (following element rest) := by
        rcases following_of_variable
            (hStart.variable_rest hVariable) hVariable with
          ⟨_, hNil⟩ | hGroup
        · exact Or.inl hNil
        · exact Or.inr ⟨_, hGroup⟩
      refine Or.inl ⟨hLegible.trans hNowhere,
        inStep_variable hStart hKnown hLength hBehind hNowhere,
        hStart.next ?_⟩
      intro other hOther
      rw [hKnown] at hOther
      rw [← Option.some.inj hOther, hReading, hWritten]

theorem decides_of_atStart
    (hStart : AtStart (element :: rest) fields) :
    Decides element rest fields := by
  cases hAi : element.ai with
  | gtin => exact decides_gtin hStart hAi
  | packDate => exact decides_date hStart (Or.inl hAi)
  | expiry => exact decides_date hStart (Or.inr hAi)
  | lot => exact decides_text hStart (Or.inl hAi)
  | serial => exact decides_text hStart (Or.inr hAi)
  | sscc => exact decides_unknown hStart (by rw [hAi]; rfl)
  | content => exact decides_unknown hStart (by rw [hAi]; rfl)
  | productionDate =>
      exact decides_unknown hStart (by rw [hAi]; rfl)
  | bestBefore => exact decides_unknown hStart (by rw [hAi]; rfl)
  | shipTo => exact decides_unknown hStart (by rw [hAi]; rfl)
  | location => exact decides_unknown hStart (by rw [hAi]; rfl)
  | count => exact decides_unknown hStart (by rw [hAi]; rfl)

/- The scanner reads back just the legible labels. -/
theorem scan_textOf_iff
    {elements : List Element}
    (hStart : AtStart elements fields) :
    ReadsFrom fields elements
        (scan (textOf elements) fields) ↔
      everyElement isLegible elements = true := by
  induction elements generalizing fields with
  | nil =>
      refine iff_of_true ?_ rfl
      intro field
      rw [said, Option.none_or]
      rfl
  | cons element rest ih =>
      rw [everyElement, Bool.and_eq_true]
      rcases decides_of_atStart hStart with
        ⟨hLegible, hStep, hNext⟩ | ⟨hLegible, hReads⟩
      · rw [InStep] at hStep
        rw [readsFrom_cons hStart.prepared.distinct, hStep,
          ih hNext]
        simp [hLegible]
      · simp [hLegible, hReads]

end QrDecoder

end RegEngine
