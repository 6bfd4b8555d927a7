import RegEngine.Ingestion.FdaExport.Recovery

/-
  What the redacted FDA spreadsheet says about the values that
  it redacts.

  Main declarations:
    * `Spreadsheet.DifferOnly`
    * `Spreadsheet.Hidden`
    * `Spreadsheet.generateCsv_eq_iff`
-/

--------
-- Redacted Values
--------

namespace RegEngine

namespace Spreadsheet

section

/- The KDEs of places whose columns are redacted. -/
def locationKdes : List String :=
  ["ship_from_location",
    "ship_to_location",
    "receiving_location",
    "immediate_previous_source"]

/- The KDEs whose values a redacted export keeps back. -/
def Sensitive (key : String) : Prop :=
  key ∈ locationKdes ∨ isExtra key = true ∧ isPii key = true

/- A value that holds something. -/
def NonEmpty (value : Json) : Prop :=
  value ≠ .scalar .null ∧ value ≠ .str "" ∧
    value ≠ .arr [] ∧ value ≠ .obj []

/- Two values of a KDE that differ in what is kept back. -/
def ValueDiffers (key : String) (x y : Json) : Prop :=
  x = y ∨ Sensitive key ∧ NonEmpty x ∧ NonEmpty y

/- Two maps of KDEs that differ in what is kept back. -/
def KdesDiffer : Kdes → Kdes → Prop :=
  List.Forall₂ (fun x y =>
    x.1 = y.1 ∧ ValueDiffers x.1 x.2 y.2)

/-
  Two events that differ only in the values a redacted export
  keeps back, none of them empty.
-/
structure DifferOnly (x y : Event) : Prop where
  fields : ∀ key, key ≠ "location_name" → x.get key = y.get key
  locationName : x.get "location_name" = y.get "location_name" ∨
    ∃ value value',
      x.get "location_name" = Python.Value.ofJson value ∧
        y.get "location_name" = Python.Value.ofJson value' ∧
        NonEmpty value ∧ NonEmpty value'
  openDataGaps : x.openDataGaps = y.openDataGaps
  kdes : KdesDiffer x.kdes y.kdes

def IsText (value : Json) : Prop :=
  ∃ text, value = .str text

/-
  Two values that the redaction makes the same: for a place,
  Python takes both for true or neither; for a KDE without a
  column, both are texts when they differ.
-/
def ValueHidden (key : String) (x y : Json) : Prop :=
  (key ∈ locationKdes →
    (Python.Value.ofJson x).truthy =
      (Python.Value.ofJson y).truthy) ∧
  (isExtra key = true → x = y ∨ IsText x ∧ IsText y)

/- Two events that the redaction makes the same. -/
structure Hidden (x y : Event) : Prop where
  locationName :
    (x.get "location_name").truthy =
      (y.get "location_name").truthy
  kdes : List.Forall₂ (fun x y =>
    x.1 = y.1 ∧ ValueHidden x.1 x.2 y.2) x.kdes y.kdes

--------
-- Redacted Columns
--------

variable {rt : Runtime}

variable {x y : Event}

variable {key column : String}

variable {value value' : Json}

def Source.isLocation : Source → Bool
| .kde key => key ∈ locationKdes
| .shipTo => true
| .present key => key == "location_name"
| _ => false

/- The columns of places are the redacted ones. -/
theorem isLocation_iff
    {source : Source}
    (hMem : (column, source) ∈ sources) :
    source.isLocation = true ↔ column ∈ piiLocationColumns := by
  have hAll : ∀ entry ∈ sources,
      entry.2.isLocation = true ↔
        entry.1 ∈ piiLocationColumns := by
    decide
  exact hAll _ hMem

/- Two values of places, as the redaction compares them. -/
def Alike (x y : Python.Value) : Prop :=
  x = y ∨
    ∃ value value',
      x = Python.Value.ofJson value ∧
        y = Python.Value.ofJson value' ∧ x.truthy = y.truthy

/- The redacted cell of a place. -/
theorem redact_cell
    (hColumn : column ∈ piiLocationColumns) :
    redactLocationValue
        (sanitizeCell rt (orEmpty (Python.Value.ofJson value)))
        column false =
      if (Python.Value.ofJson value).truthy then
        piiRedactionPlaceholder
      else "" := by
  rw [redactLocationValue, if_neg Bool.false_ne_true,
    if_neg (not_not.mpr hColumn)]
  by_cases hTruthy : (Python.Value.ofJson value).truthy = true
  · have hNe : sanitizeCell rt
        (orEmpty (Python.Value.ofJson value)) ≠ "" := by
      rw [sanitizeCell_of_truthy hTruthy, Ne,
        CsvSafety.safeCell_eq_empty_iff]
      exact Python.Value.toStr_ofJson_ne_empty rt.toReprs hTruthy
    rw [if_neg hNe, if_pos hTruthy]
  · rw [sanitizeCell_orEmpty, if_neg hTruthy, if_pos rfl,
      if_neg hTruthy]

/- The redacted cells of two places are the same if alike. -/
theorem redact_eq_of_alike
    {x y : Python.Value}
    (hColumn : column ∈ piiLocationColumns)
    (hAlike : Alike x y) :
    redactLocationValue (sanitizeCell rt (orEmpty x))
        column false =
      redactLocationValue (sanitizeCell rt (orEmpty y))
        column false := by
  rcases hAlike with rfl | ⟨value, value', rfl, rfl, hTruthy⟩
  · rfl
  · rw [redact_cell hColumn, redact_cell hColumn, hTruthy]

/- They tell which values Python takes for true. -/
theorem truthy_eq_of_redact
    (hColumn : column ∈ piiLocationColumns)
    (hCells :
      redactLocationValue
          (sanitizeCell rt (orEmpty (Python.Value.ofJson value)))
          column false =
        redactLocationValue
          (sanitizeCell rt
            (orEmpty (Python.Value.ofJson value')))
          column false) :
    (Python.Value.ofJson value).truthy =
      (Python.Value.ofJson value').truthy := by
  rw [redact_cell hColumn, redact_cell hColumn] at hCells
  have hNe : piiRedactionPlaceholder ≠ "" := by
    decide
  cases hValue : (Python.Value.ofJson value).truthy with
  | true =>
    cases hValue' : (Python.Value.ofJson value').truthy with
    | true => rfl
    | false =>
      rw [hValue, hValue'] at hCells
      exact absurd hCells hNe
  | false =>
    cases hValue' : (Python.Value.ofJson value').truthy with
    | true =>
      rw [hValue, hValue'] at hCells
      exact absurd hCells.symm hNe
    | false => rfl

/- Hidden values under the key of a place are alike. -/
theorem alike_getD
    {default default' : Python.Value}
    (hKey : key ∈ locationKdes)
    (hKdes : Option.Rel (ValueHidden key) (x.kdes.lookup key)
      (y.kdes.lookup key))
    (hDefault : Alike default default') :
    Alike (x.kdes.getD key default)
      (y.kdes.getD key default') := by
  unfold Kdes.getD
  cases hX : x.kdes.lookup key with
  | none =>
    cases hY : y.kdes.lookup key with
    | none => exact hDefault
    | some value' =>
      rw [hX, hY] at hKdes
      cases hKdes
  | some value =>
    cases hY : y.kdes.lookup key with
    | none =>
      rw [hX, hY] at hKdes
      cases hKdes
    | some value' =>
      rw [hX, hY] at hKdes
      cases hKdes with
      | some hValue =>
        exact Or.inr ⟨value, value', rfl, rfl, hValue.1 hKey⟩

/- Values that are not kept back are the same. -/
theorem getD_eq
    (hKey : ¬ Sensitive key)
    (hKdes : KdesDiffer x.kdes y.kdes)
    (default : Python.Value) :
    x.kdes.getD key default = y.kdes.getD key default := by
  have hRel := Lookup.rel hKdes key
  unfold Kdes.getD
  cases hX : x.kdes.lookup key with
  | none =>
    rw [hX] at hRel
    cases hY : y.kdes.lookup key with
    | none => rfl
    | some value' =>
      rw [hY] at hRel
      cases hRel
  | some value =>
    rw [hX] at hRel
    cases hY : y.kdes.lookup key with
    | none =>
      rw [hY] at hRel
      cases hRel
    | some value' =>
      rw [hY] at hRel
      cases hRel with
      | some hValue =>
        rcases hValue with rfl | ⟨hSensitive, -, -⟩
        · rfl
        · exact absurd hSensitive hKey

end

--------
-- Redaction of the Other KDEs
--------

section

variable {rt : Runtime} {key : String} {value value' : Json}

theorem extraKdes_false
    (kdes : Kdes) :
    extraKdes kdes false =
      redactExtraKdePii
        (kdes.filter (fun entry => isExtra entry.1)) := by
  unfold extraKdes
  by_cases hNil : kdes.filter (fun entry => isExtra entry.1) = []
  · rw [hNil]
    rfl
  · exact if_pos ⟨hNil, rfl⟩

/- The redacted maps are the same if each value is. -/
theorem extraKdes_eq_iff
    {kdes kdes' : Kdes}
    (hKeys : List.Forall₂ (fun x y => x.1 = y.1) kdes kdes') :
    extraKdes kdes false = extraKdes kdes' false ↔
      List.Forall₂ (fun x y =>
        isExtra x.1 = true →
          redactExtraValue x.1 x.2 = redactExtraValue x.1 y.2)
        kdes kdes' := by
  rw [extraKdes_false, extraKdes_false]
  unfold redactExtraKdePii
  induction hKeys with
  | nil => exact iff_of_true rfl List.Forall₂.nil
  | @cons x y xs ys hKey _ ih =>
    rcases x with ⟨key, value⟩
    rcases y with ⟨_, value'⟩
    cases hKey
    rw [List.forall₂_cons, ← ih]
    cases hExtra : isExtra key with
    | true => simp [hExtra]
    | false => simp [hExtra]

/- The cell of the other KDEs tells what they are. -/
theorem extra_text_eq_iff
    {x y : Event} :
    Source.extra.text rt false x = Source.extra.text rt false y ↔
      extraKdes x.kdes false = extraKdes y.kdes false := by
  have hBlank : ∀ {event : Event},
      extraKdes event.kdes false ≠ [] →
        Source.extra.text rt false event ≠ "" := by
    intro event hNe hEmpty
    rw [extra_text hNe, ← safeCell_dumps,
      CsvSafety.safeCell_eq_empty_iff] at hEmpty
    have hList := congrArg String.toList hEmpty
    rw [Json.dumpsUnsorted, String.toList_ofList] at hList
    rcases Json.head?_dump Json.spaced
      (.obj (extraKdes event.kdes false)) with ⟨c, hHead, -⟩
    rw [hList] at hHead
    cases hHead
  constructor
  · intro hText
    by_cases hX : extraKdes x.kdes false = []
    · by_cases hY : extraKdes y.kdes false = []
      · rw [hX, hY]
      · refine absurd ?_ (hBlank hY)
        rw [← hText, Source.text, if_neg (not_not.mpr hX)]
    · by_cases hY : extraKdes y.kdes false = []
      · refine absurd ?_ (hBlank hX)
        rw [hText, Source.text, if_neg (not_not.mpr hY)]
      · rw [extra_text hX, extra_text hY] at hText
        exact dumps_entries_inj hText
  · intro hExtra
    rw [Source.text, Source.text, hExtra]

/- A KDE of a place has a column of its own. -/
theorem isExtra_of_mem_locationKdes
    (hKey : key ∈ locationKdes) :
    isExtra key = false := by
  revert key
  decide

/- A text that is kept back. -/
theorem redactExtraValue_str
    {text : String}
    (hPii : isPii key = true)
    (hNonEmpty : NonEmpty (.str text)) :
    redactExtraValue key (.str text) =
      .str piiRedactionPlaceholder := by
  have hText : text ≠ "" := by
    rintro rfl
    exact hNonEmpty.2.1 rfl
  exact if_pos ⟨hPii, hText⟩

/- Other values are not kept back. -/
theorem redactExtraValue_of_not_isText
    (hText : ¬ IsText value) :
    redactExtraValue key value = value := by
  cases value with
  | str text => exact absurd ⟨text, rfl⟩ hText
  | scalar value => rfl
  | arr items => rfl
  | obj entries => rfl

/- When the redaction makes two values the same. -/
theorem redactExtraValue_eq_iff
    (hKey : isExtra key = true)
    (hValue : ValueDiffers key value value') :
    redactExtraValue key value = redactExtraValue key value' ↔
      value = value' ∨ IsText value ∧ IsText value' := by
  rcases hValue with rfl | ⟨hSensitive, hX, hY⟩
  · exact iff_of_true rfl (Or.inl rfl)
  have hPii : isPii key = true := by
    rcases hSensitive with hPlace | ⟨-, hPii⟩
    · rw [isExtra_of_mem_locationKdes hPlace] at hKey
      cases hKey
    · exact hPii
  by_cases hTextX : IsText value
  · rcases hTextX with ⟨text, rfl⟩
    rw [redactExtraValue_str hPii hX]
    by_cases hTextY : IsText value'
    · rcases hTextY with ⟨text', rfl⟩
      rw [redactExtraValue_str hPii hY]
      exact iff_of_true rfl (Or.inr ⟨⟨_, rfl⟩, ⟨_, rfl⟩⟩)
    · rw [redactExtraValue_of_not_isText hTextY]
      refine iff_of_false ?_ ?_
      · rintro rfl
        exact hTextY ⟨_, rfl⟩
      · rintro (rfl | ⟨-, hText⟩)
        · exact hTextY ⟨_, rfl⟩
        · exact hTextY hText
  · rw [redactExtraValue_of_not_isText hTextX]
    by_cases hTextY : IsText value'
    · rcases hTextY with ⟨text', rfl⟩
      rw [redactExtraValue_str hPii hY]
      refine iff_of_false ?_ ?_
      · rintro rfl
        exact hTextX ⟨_, rfl⟩
      · rintro (rfl | ⟨hText, -⟩)
        · exact hTextX ⟨_, rfl⟩
        · exact hTextX hText
    · rw [redactExtraValue_of_not_isText hTextY]
      refine ⟨Or.inl, ?_⟩
      rintro (hEq | ⟨hText, -⟩)
      · exact hEq
      · exact absurd hText hTextX

end

--------
-- Redacted Events
--------

section

variable {rt : Runtime} {x y : Event}

/- The redacted cell of a column. -/
def redactedText
    (rt : Runtime)
    (event : Event)
    (entry : String × Source) :
    String :=
  redactLocationValue (entry.2.text rt false event) entry.1
    false

/- Events have one row if each column has one cell. -/
theorem csvRow_eq_iff :
    csvRow (eventToFdaRow rt false x) =
        csvRow (eventToFdaRow rt false y) ↔
      ∀ entry ∈ sources,
        redactedText rt x entry = redactedText rt y entry := by
  rw [csvRow_eventToFdaRow, csvRow_eventToFdaRow]
  exact List.map_inj_left

/- The locations of events that differ only in what is kept. -/
theorem alike_locationName
    (hDiffer : DifferOnly x y)
    (hTruthy : (x.get "location_name").truthy =
      (y.get "location_name").truthy) :
    Alike (x.get "location_name") (y.get "location_name") := by
  rcases hDiffer.locationName with
    hEq | ⟨value, value', hX, hY, -, -⟩
  · exact Or.inl hEq
  · exact Or.inr ⟨value, value', hX, hY, hTruthy⟩

/- The redaction of the other KDEs, entry by entry. -/
theorem extraKdes_eq_iff_of_differ
    (hDiffer : DifferOnly x y) :
    extraKdes x.kdes false = extraKdes y.kdes false ↔
      List.Forall₂ (fun x y =>
        isExtra x.1 = true →
          x.2 = y.2 ∨ IsText x.2 ∧ IsText y.2)
        x.kdes y.kdes := by
  have hKeys : List.Forall₂ (fun x y => x.1 = y.1) x.kdes
      y.kdes :=
    hDiffer.kdes.imp (fun _ _ hEntry => hEntry.1)
  rw [extraKdes_eq_iff hKeys]
  constructor
  · intro hRedact
    refine List.Forall₂.mp ?_ hDiffer.kdes hRedact
    intro x y hEntry hSame hKey
    exact (redactExtraValue_eq_iff hKey hEntry.2).mp
      (hSame hKey)
  · intro hTexts
    refine List.Forall₂.mp ?_ hDiffer.kdes hTexts
    intro x y hEntry hSame hKey
    exact (redactExtraValue_eq_iff hKey hEntry.2).mpr
      (hSame hKey)

theorem redactedText_eq_of_hidden
    (hDiffer : DifferOnly x y)
    (hHidden : Hidden x y)
    {entry : String × Source}
    (hMem : entry ∈ sources) :
    redactedText rt x entry = redactedText rt y entry := by
  rcases entry with ⟨column, source⟩
  have hLocation := isLocation_iff hMem
  unfold redactedText
  cases source with
  | field key =>
    have hFields : ∀ entry ∈ sources,
        entry.2 ≠ .field "location_name" := by
      decide
    have hKey : key ≠ "location_name" := by
      rintro rfl
      exact hFields _ hMem rfl
    rw [Source.text, Source.text, hDiffer.fields key hKey]
  | present key =>
    by_cases hKey : key = "location_name"
    · subst hKey
      exact redact_eq_of_alike (hLocation.mp rfl)
        (alike_locationName hDiffer hHidden.locationName)
    · rw [Source.text, Source.text, hDiffer.fields key hKey]
  | date =>
    rw [Source.text, Source.text,
      hDiffer.fields _ (by decide)]
  | time =>
    rw [Source.text, Source.text,
      hDiffer.fields _ (by decide)]
  | gaps =>
    rw [Source.text, Source.text, hDiffer.openDataGaps]
  | kde key =>
    by_cases hKey : key ∈ locationKdes
    · exact redact_eq_of_alike
        (hLocation.mp (decide_eq_true hKey))
        (alike_getD hKey (Lookup.rel hHidden.kdes key)
          (Or.inl rfl))
    · have hSensitive : ¬ Sensitive key := by
        rintro (hPlace | ⟨hExtra, -⟩)
        · exact hKey hPlace
        · rw [(isExtra_of_mem_sources hMem).1] at hExtra
          cases hExtra
      rw [Source.text, Source.text,
        getD_eq hSensitive hDiffer.kdes]
  | shipTo =>
    apply redact_eq_of_alike (hLocation.mp rfl)
    apply alike_getD (by decide) (Lookup.rel hHidden.kdes _)
    apply alike_getD (by decide) (Lookup.rel hHidden.kdes _)
    exact Or.inl rfl
  | extra =>
    have hExtra := (extraKdes_eq_iff_of_differ hDiffer).mpr
      (hHidden.kdes.imp (fun _ _ hEntry => hEntry.2.2))
    rw [extra_text_eq_iff.mpr hExtra]

/- One row tells which place Python takes for true. -/
theorem truthy_eq_of_row
    (hRow : ∀ entry ∈ sources,
      redactedText rt x entry = redactedText rt y entry)
    {key : String}
    {value value' : Json}
    (hKey : key ∈ locationKdes)
    (hX : (key, value) ∈ x.kdes)
    (hY : (key, value') ∈ y.kdes) :
    (Python.Value.ofJson value).truthy =
      (Python.Value.ofJson value').truthy := by
  rcases exists_feeds (isExtra_of_mem_locationKdes hKey) with
    ⟨⟨column, source⟩, hMem, hSource, hFeeds⟩
  have hColumn : column ∈ piiLocationColumns := by
    apply (isLocation_iff hMem).mp
    have hReads := hFeeds x
    cases source with
    | kde name =>
      cases hReads
      exact decide_eq_true hKey
    | shipTo => rfl
    | extra => exact absurd rfl hSource
    | field name => exact hReads.elim
    | present name => exact hReads.elim
    | date => exact hReads.elim
    | time => exact hReads.elim
    | gaps => exact hReads.elim
  have hCells := hRow _ hMem
  unfold redactedText at hCells
  rw [text_of_feeds (hFeeds x) hSource hX,
    text_of_feeds (hFeeds y) hSource hY] at hCells
  exact truthy_eq_of_redact hColumn hCells

theorem hidden_of_row
    (hDiffer : DifferOnly x y)
    (hRow : ∀ entry ∈ sources,
      redactedText rt x entry = redactedText rt y entry) :
    Hidden x y := by
  constructor
  · rcases hDiffer.locationName with
      hEq | ⟨value, value', hX, hY, -, -⟩
    · rw [hEq]
    · have hMem : ("Location Name",
          Source.present "location_name") ∈ sources :=
        List.mem_of_getElem? (i := 8) rfl
      have hCells :
          redactLocationValue
              (sanitizeCell rt (orEmpty (x.get "location_name")))
              "Location Name" false =
            redactLocationValue
              (sanitizeCell rt (orEmpty (y.get "location_name")))
              "Location Name" false :=
        hRow _ hMem
      rw [hX, hY] at hCells ⊢
      exact truthy_eq_of_redact
        ((isLocation_iff hMem).mp rfl) hCells
  · have hMem : (additionalKdesColumn, Source.extra) ∈
        sources :=
      List.mem_of_getElem? (i := 31) rfl
    have hNotPii : additionalKdesColumn ∉ piiLocationColumns := by
      decide
    have hExtra := hRow _ hMem
    unfold redactedText at hExtra
    rw [redactLocationValue_of_notMem hNotPii,
      redactLocationValue_of_notMem hNotPii,
      extra_text_eq_iff,
      extraKdes_eq_iff_of_differ hDiffer] at hExtra
    rw [List.forall₂_iff_zip] at hExtra ⊢
    refine ⟨hExtra.1, ?_⟩
    rintro ⟨key, value⟩ ⟨key', value'⟩ hZip
    have hEntry :=
      (List.forall₂_iff_zip.mp hDiffer.kdes).2 hZip
    rcases hEntry with ⟨hSame, -⟩
    cases hSame
    rcases List.of_mem_zip hZip with ⟨hX, hY⟩
    exact ⟨rfl,
      fun hKey => truthy_eq_of_row hRow hKey hX hY,
      hExtra.2 hZip⟩

end

--------
-- Redacted Files
--------

theorem generateCsv_eq_iff_rows
    {rt : Runtime}
    {includePii : Bool}
    {xs ys : List Event} :
    generateCsv rt includePii xs =
        generateCsv rt includePii ys ↔
      xs.map (fun event =>
          csvRow (eventToFdaRow rt includePii event)) =
        ys.map (fun event =>
          csvRow (eventToFdaRow rt includePii event)) := by
  constructor
  · intro hFiles
    have hParse := congrArg Csv.parse hFiles
    rw [parse_generateCsv, parse_generateCsv] at hParse
    exact (List.cons.inj (Option.some.inj hParse)).2
  · intro hRows
    rw [generateCsv, generateCsv, hRows]

/-
  The redacted files of two lists of events that differ only in
  values that are kept back are the same, when and only when
  Python takes the two values of each place for true or both
  for false, and the other values that differ are texts.
-/
theorem generateCsv_eq_iff
    (rt : Runtime)
    {xs ys : List Event}
    (hDiffer : List.Forall₂ DifferOnly xs ys) :
    generateCsv rt false xs = generateCsv rt false ys ↔
      List.Forall₂ Hidden xs ys := by
  rw [generateCsv_eq_iff_rows]
  induction hDiffer with
  | nil => exact iff_of_true rfl List.Forall₂.nil
  | @cons x y xs ys hHead _ ih =>
    rw [List.forall₂_cons, ← ih, List.map_cons, List.map_cons,
      List.cons.injEq, csvRow_eq_iff]
    refine and_congr_left' ⟨hidden_of_row hHead, ?_⟩
    intro hHidden entry hMem
    exact redactedText_eq_of_hidden hHead hHidden hMem

def oneKde (key : String) (value : Json) : Event where
  fields := [("traceability_lot_code", .str "L1")]
  kdes := [(key, value)]
  openDataGaps := []
  distinct := List.nodup_singleton _

/- Two such events differ in a value that is kept back. -/
theorem differOnly_oneKde
    {key : String}
    {value value' : Json}
    (hValue : ValueDiffers key value value') :
    DifferOnly (oneKde key value) (oneKde key value') where
  fields := fun _ _ => rfl
  locationName := Or.inl rfl
  openDataGaps := rfl
  kdes := .cons ⟨rfl, hValue⟩ .nil

/- Nothing tells the place one lot was shipped from. -/
theorem generateCsv_eq_places :
    generateCsv plainRuntime false
        [oneKde "ship_from_location" (.str "Acme")] =
      generateCsv plainRuntime false
        [oneKde "ship_from_location" (.str "Beta")] := by
  have hDiffer : ValueDiffers "ship_from_location"
      (.str "Acme") (.str "Beta") :=
    Or.inr ⟨Or.inl (by decide), by simp [NonEmpty],
      by simp [NonEmpty]⟩
  have hHidden : ValueHidden "ship_from_location"
      (.str "Acme") (.str "Beta") :=
    ⟨fun _ => rfl, fun _ => Or.inr ⟨⟨_, rfl⟩, ⟨_, rfl⟩⟩⟩
  exact (generateCsv_eq_iff plainRuntime
    (.cons (differOnly_oneKde hDiffer) .nil)).mpr
      (.cons ⟨rfl, .cons ⟨rfl, hHidden⟩ .nil⟩ .nil)

/- A number to call is shown as it is. -/
theorem generateCsv_ne_phones :
    List.Forall₂ DifferOnly
        [oneKde "contact_phone" (.scalar (.int 1))]
        [oneKde "contact_phone" (.scalar (.int 2))] ∧
      generateCsv plainRuntime false
          [oneKde "contact_phone" (.scalar (.int 1))] ≠
        generateCsv plainRuntime false
          [oneKde "contact_phone" (.scalar (.int 2))] := by
  have hExtra : isExtra "contact_phone" = true := by
    decide
  have hPii : isPii "contact_phone" = true := by
    decide
  have hDiffer : ValueDiffers "contact_phone"
      (.scalar (.int 1)) (.scalar (.int 2)) :=
    Or.inr ⟨Or.inr ⟨hExtra, hPii⟩, by simp [NonEmpty],
      by simp [NonEmpty]⟩
  refine ⟨.cons (differOnly_oneKde hDiffer) .nil, ?_⟩
  intro hFiles
  have hRows := generateCsv_eq_iff_rows.mp hFiles
  have hHidden := hidden_of_row (differOnly_oneKde hDiffer)
    (csvRow_eq_iff.mp (List.cons.inj hRows).1)
  cases hHidden.kdes with
  | cons hKde _ =>
    rcases hKde.2.2 hExtra with hEq | ⟨⟨_, hText⟩, -⟩
    · cases hEq
    · cases hText

end Spreadsheet

end RegEngine
