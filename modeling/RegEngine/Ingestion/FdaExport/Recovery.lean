import RegEngine.Ingestion.FdaExport.Spreadsheet

/-
  Which key data elements of an event can be recovered from its
  row of the FDA spreadsheet.

  Main declarations:
    * `Spreadsheet.Recoverable`
    * `Spreadsheet.Kept`
    * `Spreadsheet.noKdeLost_iff`
-/

--------
-- Recovery
--------

namespace RegEngine

namespace Spreadsheet

section

/- The event with another value under a key of its KDEs. -/
def Event.withKde
    (event : Event)
    (key : String)
    (value : Json) :
    Event where
  fields := event.fields
  kdes := event.kdes.map (fun entry =>
    (entry.1, if entry.1 = key then value else entry.2))
  openDataGaps := event.openDataGaps
  distinct := by
    rw [List.map_map]
    exact event.distinct

/-
  A cell that says what the value of a KDE is: one entry of a
  JSON document, or the text of the value.
-/
def Shows
    (rt : Runtime)
    (key : String)
    (value : Json)
    (column cell : String) :
    Prop :=
  if column = additionalKdesColumn then
    ∃ entries : Kdes,
      cell = Json.dumpsUnsorted (.obj entries) ∧
        (key, value) ∈ entries
  else
    cell ≠ "" ∧
      CsvSafety.shown cell =
        (Python.Value.ofJson value).toStr rt.toReprs

/- A cell that another value of the KDE would change. -/
def Follows
    (rt : Runtime)
    (event : Event)
    (key column : String) :
    Prop :=
  ∃ other : Json,
    cellAt (eventToFdaRow rt true (event.withKde key other))
        column ≠
      cellAt (eventToFdaRow rt true event) column

/-
  The value of a KDE can be read off a column: the cell shows
  it, and not by chance.
-/
def Recoverable
    (rt : Runtime)
    (event : Event)
    (key : String)
    (value : Json)
    (column : String) :
    Prop :=
  column ∈ fdaColumns ∧
    Shows rt key value column
      (cellAt (eventToFdaRow rt true event) column) ∧
    Follows rt event key column

/-
  Every KDE with a value can be recovered from one place of the
  row, and no cell of the file is dangerous once it is read.
-/
structure NoKdeLost (rt : Runtime) (event : Event) : Prop where
  recoverable : ∀ key value, (key, value) ∈ event.kdes →
    value ≠ .scalar .null →
      ∃! column, Recoverable rt event key value column
  parsed : Csv.parse (generateCsv rt true [event]) =
    some [fdaColumns, csvRow (eventToFdaRow rt true event)]
  safe : ∀ cell ∈ fdaColumns ++
    csvRow (eventToFdaRow rt true event),
      ¬ CsvSafety.Dangerous cell.toList

/-
  A value that a column of its own shows: one that Python takes
  for true, and that does not read as a guarded formula.
-/
def Legible (rt : Runtime) (value : Json) : Prop :=
  (Python.Value.ofJson value).truthy = true ∧
    ¬ CsvSafety.Guarded
      ((Python.Value.ofJson value).toStr rt.toReprs)

/-
  What a value needs under a key with a column of its own: that
  the column shows it, and that no other column falls back on
  it.
-/
def Kept
    (rt : Runtime)
    (event : Event)
    (key : String)
    (value : Json) :
    Prop :=
  isExtra key = false →
    Legible rt value ∧
      (key = "receiving_location" →
        event.kdes.lookup "ship_to_location" ≠ none)

--------
-- Keys and Their Columns
--------

variable {rt : Runtime} {event : Event}

variable {key : String} {value other : Json}

variable {column : String} {source : Source}

/- The KDE whose value a source reads. -/
def Feeds (event : Event) (key : String) : Source → Prop
| .kde name => name = key
| .shipTo =>
    key = "ship_to_location" ∨
      key = "receiving_location" ∧
        event.kdes.lookup "ship_to_location" = none
| .extra => isExtra key = true
| _ => False

/- Every key with a column of its own is read by a source. -/
theorem exists_feeds
    (hKey : isExtra key = false) :
    ∃ entry ∈ sources, entry.2 ≠ .extra ∧
      ∀ event, Feeds event key entry.2 := by
  have hCases : ∀ name ∈ namedKdeColumns.map Prod.fst ++
      literalConsumedKdes, name ≠ "ship_to_location" →
        ∃ entry ∈ sources, entry.2 = .kde name := by
    decide
  by_cases hShipTo : key = "ship_to_location"
  · refine ⟨("Ship To Name", .shipTo), ?_, Source.noConfusion,
      fun _ => Or.inl hShipTo⟩
    exact List.mem_of_getElem? (i := 12) rfl
  · have hMem : key ∈ namedKdeColumns.map Prod.fst ++
        literalConsumedKdes := by
      rw [List.mem_append]
      by_contra hNone
      rw [isExtra, decide_eq_false_iff_not] at hKey
      exact hKey (not_or.mp hNone)
    rcases hCases key hMem hShipTo with ⟨entry, hEntry, hKde⟩
    refine ⟨entry, hEntry, ?_, ?_⟩
    · rw [hKde]
      exact Source.noConfusion
    · intro event
      rw [hKde]
      rfl

/- The sources of the columns differ. -/
theorem eq_of_mem_sources
    {other : String}
    (hColumn : (column, source) ∈ sources)
    (hOther : (other, source) ∈ sources) :
    column = other := by
  have hNodup : (sources.map Prod.snd).Nodup := by
    decide
  have hEq := List.inj_on_of_nodup_map hNodup hColumn hOther rfl
  exact congrArg Prod.fst hEq

/- A source of the KDE of a column, which is no extra one. -/
def Source.ownKey : Source → Bool
| .kde name => !isExtra name && name != "ship_to_location"
| _ => true

variable {name : String}

/- The keys that the sources read have a column of their own. -/
theorem isExtra_of_mem_sources
    (hMem : (column, .kde name) ∈ sources) :
    isExtra name = false ∧ name ≠ "ship_to_location" := by
  have hAll : ∀ entry ∈ sources, entry.2.ownKey = true := by
    decide
  have hOwn : (!isExtra name && name != "ship_to_location") =
      true :=
    hAll _ hMem
  rw [Bool.and_eq_true, Bool.not_eq_true', bne_iff_ne] at hOwn
  exact hOwn

/- The other KDEs are in a column of their own. -/
theorem eq_additional_iff
    (hMem : (column, source) ∈ sources) :
    column = additionalKdesColumn ↔ source = .extra := by
  have hAll : ∀ entry ∈ sources,
      entry.1 = additionalKdesColumn ↔ entry.2 = .extra := by
    decide
  exact hAll _ hMem

theorem exists_source
    (hColumn : column ∈ fdaColumns) :
    ∃ source, (column, source) ∈ sources := by
  rw [← map_fst_sources] at hColumn
  rcases List.mem_map.mp hColumn with ⟨⟨_, source⟩, hMem, rfl⟩
  exact ⟨source, hMem⟩

/- With nothing redacted, a cell is the text of its source. -/
theorem cellAt_eq_text
    (hMem : (column, source) ∈ sources) :
    cellAt (eventToFdaRow rt true event) column =
      source.text rt true event := by
  rw [cellAt_eventToFdaRow rt true event hMem,
    redactLocationValue, if_pos rfl]

--------
-- Other Values
--------

/- What is looked up after a value was changed. -/
theorem lookup_withKde
    (event : Event)
    (key name : String)
    (other : Json) :
    (event.withKde key other).kdes.lookup name =
      (event.kdes.lookup name).map (fun value =>
        if name = key then other else value) :=
  Lookup.map_values
    (fun name value => if name = key then other else value)
    event.kdes name

/- Under another key nothing changes. -/
theorem getD_withKde
    (hNe : name ≠ key)
    (default : Python.Value) :
    (event.withKde key other).kdes.getD name default =
      event.kdes.getD name default := by
  rw [Kdes.getD, Kdes.getD, lookup_withKde]
  simp only [if_neg hNe, Option.map_id']

/- With nothing redacted the other KDEs are as they were. -/
theorem extraKdes_true
    (kdes : Kdes) :
    extraKdes kdes true =
      kdes.filter (fun entry => isExtra entry.1) := by
  unfold extraKdes
  exact if_neg (fun h => Bool.noConfusion h.2)

/- A KDE with a column of its own is not among the others. -/
theorem extraKdes_withKde
    (hKey : ¬ isExtra key = true) :
    extraKdes (event.withKde key other).kdes true =
      extraKdes event.kdes true := by
  have hSame : ∀ entry ∈ event.kdes.filter
      (fun entry => isExtra entry.1),
      (entry.1, if entry.1 = key then other else entry.2) =
        entry := by
    intro entry hEntry
    have hExtra := (List.mem_filter.mp hEntry).2
    have hNe : entry.1 ≠ key := by
      rintro rfl
      exact hKey hExtra
    rw [if_neg hNe]
  rw [extraKdes_true, extraKdes_true, Event.withKde,
    List.filter_map]
  exact (List.map_congr_left hSame).trans (List.map_id' _)

/- A source that does not read a KDE does not follow it. -/
theorem text_withKde
    (hFeeds : ¬ Feeds event key source) :
    source.text rt true (event.withKde key other) =
      source.text rt true event := by
  cases source with
  | field name => rfl
  | present name => rfl
  | date => rfl
  | time => rfl
  | gaps => rfl
  | kde name =>
    have hNe : name ≠ key := hFeeds
    rw [Source.text, Source.text, getD_withKde hNe]
  | shipTo =>
    have hShipTo : "ship_to_location" ≠ key := by
      rintro rfl
      exact hFeeds (Or.inl rfl)
    rw [Source.text, Source.text, getD_withKde hShipTo]
    by_cases hReceiving : "receiving_location" = key
    · cases hLookup : event.kdes.lookup "ship_to_location" with
      | none =>
        exact absurd (Or.inr ⟨hReceiving.symm, hLookup⟩) hFeeds
      | some value =>
        simp only [Kdes.getD, hLookup, Option.map_some,
          Option.getD_some]
    · rw [getD_withKde hReceiving]
  | extra =>
    rw [Source.text, Source.text, extraKdes_withKde hFeeds]

/- The text of a source is the cell of the value it reads. -/
theorem text_of_feeds
    {includePii : Bool}
    (hFeeds : Feeds event key source)
    (hSource : source ≠ .extra)
    (hMem : (key, value) ∈ event.kdes) :
    source.text rt includePii event =
      sanitizeCell rt (orEmpty (Python.Value.ofJson value)) := by
  have hLookup : event.kdes.lookup key = some value :=
    (Lookup.eq_some_iff event.distinct).mpr hMem
  cases source with
  | field name => exact hFeeds.elim
  | present name => exact hFeeds.elim
  | date => exact hFeeds.elim
  | time => exact hFeeds.elim
  | gaps => exact hFeeds.elim
  | extra => exact absurd rfl hSource
  | kde name =>
    cases hFeeds
    rw [Source.text, Kdes.getD, hLookup]
    rfl
  | shipTo =>
    rcases hFeeds with rfl | ⟨rfl, hNone⟩
    · rw [Source.text, Kdes.getD, hLookup]
      rfl
    · rw [Source.text, Kdes.getD, hNone, Kdes.getD, hLookup]
      rfl

/- A source reads a KDE whatever its value is. -/
theorem feeds_withKde
    (hFeeds : Feeds event key source) :
    Feeds (event.withKde key other) key source := by
  cases source with
  | field name => exact hFeeds
  | present name => exact hFeeds
  | date => exact hFeeds
  | time => exact hFeeds
  | gaps => exact hFeeds
  | extra => exact hFeeds
  | kde name => exact hFeeds
  | shipTo =>
    rcases hFeeds with hKey | ⟨hKey, hNone⟩
    · exact Or.inl hKey
    · refine Or.inr ⟨hKey, ?_⟩
      rw [lookup_withKde, hNone]
      rfl

/- The value of an entry, once it is changed. -/
theorem mem_withKde
    (other : Json)
    (hMem : (key, value) ∈ event.kdes) :
    (key, other) ∈ (event.withKde key other).kdes := by
  refine List.mem_map.mpr ⟨(key, value), hMem, ?_⟩
  rw [if_pos rfl]

/- A column that follows a KDE has a source that reads it. -/
theorem feeds_of_follows
    (hMem : (column, source) ∈ sources)
    (hFollows : Follows rt event key column) :
    Feeds event key source := by
  rcases hFollows with ⟨other, hNe⟩
  by_contra hFeeds
  rw [cellAt_eq_text hMem, cellAt_eq_text hMem] at hNe
  exact hNe (text_withKde hFeeds)

/- A column that reads a KDE and is not blank follows it. -/
theorem follows_of_feeds
    (hMem : (column, source) ∈ sources)
    (hFeeds : Feeds event key source)
    (hSource : source ≠ .extra)
    (hEntry : (key, value) ∈ event.kdes)
    (hText : source.text rt true event ≠ "") :
    Follows rt event key column := by
  refine ⟨.scalar .null, ?_⟩
  rw [cellAt_eq_text hMem, cellAt_eq_text hMem,
    text_of_feeds (feeds_withKde hFeeds) hSource
      (mem_withKde _ hEntry)]
  exact hText.symm

end

--------
-- Recovery from Columns
--------

section

variable {rt : Runtime} {event : Event} {key : String}
variable {value : Json} {column : String} {source : Source}

/- The cell of a value that is true. -/
theorem sanitizeCell_of_truthy
    (hTruthy : (Python.Value.ofJson value).truthy = true) :
    sanitizeCell rt (orEmpty (Python.Value.ofJson value)) =
      CsvSafety.safeCell
        ((Python.Value.ofJson value).toStr rt.toReprs) := by
  rw [sanitizeCell_orEmpty, if_pos hTruthy]
  cases hValue : Python.Value.ofJson value with
  | none =>
    rw [hValue] at hTruthy
    cases hTruthy
  | _ => rfl

/- A cell shows the value that it is made of, when it can. -/
theorem shows_cell_iff :
    (sanitizeCell rt (orEmpty (Python.Value.ofJson value)) ≠ "" ∧
        CsvSafety.shown
            (sanitizeCell rt
              (orEmpty (Python.Value.ofJson value))) =
          (Python.Value.ofJson value).toStr rt.toReprs) ↔
      Legible rt value := by
  unfold Legible
  by_cases hTruthy : (Python.Value.ofJson value).truthy = true
  · have hNe : sanitizeCell rt
        (orEmpty (Python.Value.ofJson value)) ≠ "" := by
      rw [sanitizeCell_of_truthy hTruthy]
      rw [Ne, CsvSafety.safeCell_eq_empty_iff]
      exact Python.Value.toStr_ofJson_ne_empty rt.toReprs hTruthy
    rw [← CsvSafety.shown_safeCell_iff,
      ← sanitizeCell_of_truthy hTruthy]
    exact and_congr_left' (iff_of_true hNe hTruthy)
  · rw [sanitizeCell_orEmpty, if_neg hTruthy]
    exact iff_of_false (fun h => h.1 rfl) (fun h => hTruthy h.1)

/- When a column that reads a KDE lets it be recovered. -/
theorem recoverable_iff_of_feeds
    (hMem : (column, source) ∈ sources)
    (hFeeds : Feeds event key source)
    (hSource : source ≠ .extra)
    (hEntry : (key, value) ∈ event.kdes) :
    Recoverable rt event key value column ↔
      Legible rt value := by
  have hText : source.text rt true event = _ :=
    text_of_feeds hFeeds hSource hEntry
  have hColumn : column ≠ additionalKdesColumn :=
    fun hEq => hSource ((eq_additional_iff hMem).mp hEq)
  have hShows :
      Shows rt key value column
          (cellAt (eventToFdaRow rt true event) column) ↔
        Legible rt value := by
    rw [Shows, if_neg hColumn, cellAt_eq_text hMem, hText]
    exact shows_cell_iff
  refine ⟨fun hRecover => hShows.mp hRecover.2.1, fun hKept => ?_⟩
  have hCell := hShows.mpr hKept
  have hNe : source.text rt true event ≠ "" := by
    rw [hText]
    exact (shows_cell_iff.mpr hKept).1
  refine ⟨?_, hCell, ?_⟩
  · rw [← map_fst_sources]
    exact List.mem_map_of_mem hMem
  · exact follows_of_feeds hMem hFeeds hSource hEntry hNe

end

--------
-- Recovery from the Other KDEs
--------

variable {rt : Runtime} {event : Event} {key : String}
variable {value : Json} {column : String}

/- The text of an object is no formula. -/
theorem safeCell_dumps
    (entries : Kdes) :
    CsvSafety.safeCell (Json.dumpsUnsorted (.obj entries)) =
      Json.dumpsUnsorted (.obj entries) := by
  apply CsvSafety.safeCell_eq_self
  rw [Json.dumpsUnsorted, String.toList_ofList]
  rcases Json.head?_dump Json.spaced (.obj entries) with
    ⟨c, hHead, rfl⟩
  rintro ⟨d, hDump, hDanger⟩
  cases hHead.symm.trans hDump
  revert hDanger
  decide

/- The text of the other KDEs determines them. -/
theorem dumps_entries_inj
    {entries entries' : Kdes}
    (hEq : Json.dumpsUnsorted (.obj entries) =
      Json.dumpsUnsorted (.obj entries')) :
    entries = entries' := by
  have hDump := congrArg String.toList hEq
  rw [Json.dumpsUnsorted, Json.dumpsUnsorted,
    String.toList_ofList, String.toList_ofList] at hDump
  cases Json.dump_inj Json.spaced_valid hDump
  rfl

/- The cell of the other KDEs, when there are some. -/
theorem extra_text
    {includePii : Bool}
    (hNe : extraKdes event.kdes includePii ≠ []) :
    Source.extra.text rt includePii event =
      Json.dumpsUnsorted
        (.obj (extraKdes event.kdes includePii)) := by
  rw [Source.text, if_pos hNe, safeCell_dumps]

/- A KDE without a column is among the other KDEs. -/
theorem mem_extraKdes
    (hKey : isExtra key = true)
    (hEntry : (key, value) ∈ event.kdes) :
    (key, value) ∈ extraKdes event.kdes true := by
  rw [extraKdes_true, List.mem_filter]
  exact ⟨hEntry, hKey⟩

/- It is recovered from their column. -/
theorem recoverable_extra
    (hKey : isExtra key = true)
    (hEntry : (key, value) ∈ event.kdes)
    (hValue : value ≠ .scalar .null) :
    Recoverable rt event key value additionalKdesColumn := by
  have hMem : (additionalKdesColumn, Source.extra) ∈ sources :=
    List.mem_of_getElem? (i := 31) rfl
  have hExtra := mem_extraKdes hKey hEntry
  have hOther := mem_extraKdes hKey
    (mem_withKde (.scalar .null) hEntry)
  have hColumn : additionalKdesColumn ∈ fdaColumns := by
    rw [← map_fst_sources]
    exact List.mem_map_of_mem hMem
  refine ⟨hColumn, ?_, .scalar .null, ?_⟩
  · rw [Shows, if_pos rfl, cellAt_eq_text hMem,
      extra_text (List.ne_nil_of_mem hExtra)]
    exact ⟨_, rfl, hExtra⟩
  · rw [cellAt_eq_text hMem, cellAt_eq_text hMem,
      extra_text (List.ne_nil_of_mem hExtra),
      extra_text (List.ne_nil_of_mem hOther)]
    intro hDumps
    rw [dumps_entries_inj hDumps, extraKdes_true] at hOther
    have hNull := (List.mem_filter.mp hOther).1
    rw [← Lookup.eq_some_iff event.distinct] at hEntry hNull
    rw [hEntry] at hNull
    exact hValue (Option.some.inj hNull)

--------
-- Recovery of Every KDE
--------

variable {source : Source}

/- A KDE without a column feeds the other KDEs alone. -/
theorem source_eq_extra
    (hMem : (column, source) ∈ sources)
    (hKey : isExtra key = true)
    (hFeeds : Feeds event key source) :
    source = .extra := by
  cases source with
  | field name => exact hFeeds.elim
  | present name => exact hFeeds.elim
  | date => exact hFeeds.elim
  | time => exact hFeeds.elim
  | gaps => exact hFeeds.elim
  | extra => rfl
  | kde name =>
    cases hFeeds
    rw [(isExtra_of_mem_sources hMem).1] at hKey
    cases hKey
  | shipTo =>
    rcases hFeeds with rfl | ⟨rfl, -⟩
    · revert hKey
      decide
    · revert hKey
      decide

/- A KDE that no column falls back on feeds one column. -/
theorem source_eq_of_feeds
    {source' : Source}
    {column' : String}
    (hMem : (column, source) ∈ sources)
    (hMem' : (column', source') ∈ sources)
    (hKey : isExtra key = false)
    (hFallback : key = "receiving_location" →
      event.kdes.lookup "ship_to_location" ≠ none)
    (hFeeds : Feeds event key source)
    (hFeeds' : Feeds event key source') :
    source = source' := by
  have hKde : ∀ {column : String} {source : Source},
      (column, source) ∈ sources → Feeds event key source →
        source = if key = "ship_to_location" then .shipTo
          else .kde key := by
    intro column source hMem hFeeds
    cases source with
    | field name => exact hFeeds.elim
    | present name => exact hFeeds.elim
    | date => exact hFeeds.elim
    | time => exact hFeeds.elim
    | gaps => exact hFeeds.elim
    | extra =>
      have hExtra : isExtra key = true := hFeeds
      rw [hKey] at hExtra
      cases hExtra
    | kde name =>
      cases hFeeds
      rw [if_neg (isExtra_of_mem_sources hMem).2]
    | shipTo =>
      rcases hFeeds with rfl | ⟨rfl, hNone⟩
      · rw [if_pos rfl]
      · exact absurd hNone (hFallback rfl)
  rw [hKde hMem hFeeds, hKde hMem' hFeeds']

/- When a KDE can be recovered from one place. -/
theorem existsUnique_recoverable_iff
    (hEntry : (key, value) ∈ event.kdes)
    (hValue : value ≠ .scalar .null) :
    (∃! column, Recoverable rt event key value column) ↔
      Kept rt event key value := by
  cases hKey : isExtra key with
  | true =>
    refine iff_of_true ?_ (fun hOwn => ?_)
    · refine ⟨_, recoverable_extra hKey hEntry hValue, ?_⟩
      intro column hRecover
      rcases exists_source hRecover.1 with ⟨source, hMem⟩
      exact (eq_additional_iff hMem).mpr
        (source_eq_extra hMem hKey
          (feeds_of_follows hMem hRecover.2.2))
    · rw [hKey] at hOwn
      cases hOwn
  | false =>
    rcases exists_feeds hKey with
      ⟨⟨column, source⟩, hMem, hSource, hFeeds⟩
    replace hFeeds := hFeeds event
    constructor
    · rintro ⟨place, hPlace, hUnique⟩ -
      rcases exists_source hPlace.1 with ⟨own, hOwn⟩
      have hReads := feeds_of_follows hOwn hPlace.2.2
      have hNe : own ≠ .extra := by
        rintro rfl
        rw [show isExtra key = true from hReads] at hKey
        cases hKey
      have hLegible :=
        (recoverable_iff_of_feeds hOwn hReads hNe hEntry).mp
          hPlace
      refine ⟨hLegible, ?_⟩
      -- Without a place to ship to, the receiving location is
      -- shown in two columns.
      rintro rfl hNone
      have hBoth : ∀ {column : String} {source : Source},
          (column, source) ∈ sources → source ≠ .extra →
            Feeds event "receiving_location" source →
              column = place := by
        intro column source hMem hSource hFeeds
        exact hUnique column
          ((recoverable_iff_of_feeds hMem hFeeds hSource
            hEntry).mpr hLegible)
      have hShipTo : "Ship To Name" = place :=
        hBoth (List.mem_of_getElem? (i := 12) rfl)
          Source.noConfusion (Or.inr ⟨rfl, hNone⟩)
      have hReceiving : "Receiving Location" = place :=
        hBoth (List.mem_of_getElem? (i := 27) rfl)
          Source.noConfusion rfl
      exact absurd (hShipTo.trans hReceiving.symm) (by decide)
    · intro hKept
      rcases hKept hKey with ⟨hLegible, hFallback⟩
      refine ⟨column,
        (recoverable_iff_of_feeds hMem hFeeds hSource
          hEntry).mpr hLegible, ?_⟩
      intro place hPlace
      rcases exists_source hPlace.1 with ⟨own, hOwn⟩
      have hReads := feeds_of_follows hOwn hPlace.2.2
      have hSame := source_eq_of_feeds hOwn hMem hKey hFallback
        hReads hFeeds
      rw [hSame] at hOwn
      exact eq_of_mem_sources hOwn hMem

/-
  No KDE of an event is lost from its row, when each value under
  a key with a column of its own is one that Python takes for
  true and does not read as a guarded formula, and the receiving
  location is not shown for a missing place to ship to.
-/
theorem noKdeLost_iff
    (rt : Runtime)
    (event : Event) :
    NoKdeLost rt event ↔
      ∀ key value, (key, value) ∈ event.kdes →
        value ≠ .scalar .null → Kept rt event key value := by
  constructor
  · intro hNoLoss key value hEntry hValue
    exact (existsUnique_recoverable_iff hEntry hValue).mp
      (hNoLoss.recoverable key value hEntry hValue)
  · intro hKept
    refine ⟨?_, parse_generateCsv rt true [event], ?_⟩
    · intro key value hEntry hValue
      exact (existsUnique_recoverable_iff hEntry hValue).mpr
        (hKept key value hEntry hValue)
    · have hHeader : ∀ cell ∈ fdaColumns,
          ¬ CsvSafety.Dangerous cell.toList := by
        decide
      intro cell hCell
      rcases List.mem_append.mp hCell with hColumn | hCell
      · exact hHeader cell hColumn
      · exact not_dangerous_of_mem_csvRow hCell

/- A runtime for events whose texts need no escapes. -/
def plainRuntime : Runtime where
  printable := fun _ => true
  object := Python.Object.text
  dateAndTime := fun _ => none

/- An event that was measured at zero degrees. -/
def zeroDegrees : Event where
  fields := [("traceability_lot_code", .str "L1")]
  kdes := [("temperature", .scalar (.int 0))]
  openDataGaps := []
  distinct := List.nodup_singleton _

/- The temperature of zero degrees is in no column. -/
theorem not_noKdeLost :
    ¬ NoKdeLost plainRuntime zeroDegrees := by
  intro hNoLoss
  have hEntry : ("temperature", Json.scalar (.int 0)) ∈
      zeroDegrees.kdes :=
    List.mem_singleton_self _
  have hValue : Json.scalar (.int 0) ≠ .scalar .null := by
    rintro ⟨⟩
  have hKept :=
    (existsUnique_recoverable_iff hEntry hValue).mp
      (hNoLoss.recoverable _ _ hEntry hValue)
  have hKey : isExtra "temperature" = false := by
    decide
  exact absurd (hKept hKey).1.1 (by decide)

end Spreadsheet

end RegEngine
