import RegEngine.Library.Csv.Lines

/-
  The writer that quotes every field.

  Main declarations:
    * `Csv.writeRows`
    * `Csv.value_quoted`
    * `Csv.parse_writeRows`
-/

--------
-- The Writer
--------

namespace Csv

open Reader

/- A quote inside a quoted field is doubled. -/
def doubleQuote (c : Char) : List Char :=
  if c = '"' then ['"', '"'] else [c]

/- A field as `csv.QUOTE_ALL` writes it. -/
def quoted (field : String) : List Char :=
  '"' :: (field.toList.flatMap doubleQuote ++ ['"'])

/- `writer.writerow(fields)`. -/
def writeRow : List String → List Char
| [] => ['\r', '\n']
| [field] => quoted field ++ ['\r', '\n']
| field :: next :: fields =>
    quoted field ++ ',' :: writeRow (next :: fields)

def writeRows (rows : List (List String)) : List Char :=
  rows.flatMap writeRow

/- A character inside a quoted field. -/
theorem run_doubleQuote
    (c : Char)
    (field : List Char)
    (rest : List Char) :
    (Reader.mk .inQuoted field []).run (doubleQuote c ++ rest) =
      (Reader.mk .inQuoted (field ++ [c]) []).run rest := by
  unfold doubleQuote
  split
  · rename_i hQuote
    subst hQuote
    have hFirst :
        (Reader.mk .inQuoted field []).advance '"' =
          some ([], Reader.mk .quoteInQuoted field []) := rfl
    have hSecond :
        (Reader.mk .quoteInQuoted field []).advance '"' =
          some ([], Reader.mk .inQuoted (field ++ ['"']) []) :=
      rfl
    exact (run_cons hFirst _).trans (run_cons hSecond rest)
  · rename_i hOther
    have hAdvance :
        (Reader.mk .inQuoted field []).advance c =
          some ([], Reader.mk .inQuoted (field ++ [c]) []) := by
      unfold advance
      simp only [step, if_neg hOther, add, Option.map_some,
        endLine, emit]
      split <;> rfl
    exact run_cons hAdvance rest

theorem run_flatMap_doubleQuote
    (text field : List Char)
    (rest : List Char) :
    (Reader.mk .inQuoted field []).run
        (text.flatMap doubleQuote ++ rest) =
      (Reader.mk .inQuoted (field ++ text) []).run rest := by
  induction text generalizing field with
  | nil => rw [List.append_nil]; rfl
  | cons c text ih =>
    rw [List.flatMap_cons, List.append_assoc, run_doubleQuote,
      ih, List.append_assoc]
    rfl

theorem value_quoted
    (field : String) :
    value (quoted field) = some field.toList := by
  apply value_eq_some_iff.mpr
  refine ⟨Reader.mk .quoteInQuoted field.toList [], ?_, rfl,
    rfl, rfl⟩
  have hOpens :
      (atField []).advance '"' =
        some ([], Reader.mk .inQuoted [] []) := rfl
  rw [quoted, run_cons hOpens, run_flatMap_doubleQuote]
  rfl

/- A field before a carriage return and a line feed. -/
theorem run_value_crlf
    {cell field : List Char}
    (hValue : value cell = some field)
    (record : List String) :
    (atField record).run (cell ++ ['\r', '\n']) =
      some ([record ++ [String.ofList field]], start) := by
  rcases value_eq_some_iff.mp hValue with
    ⟨⟨state, kept, fields⟩, hRun, hOpen, hRecord, hField⟩
  dsimp only at hOpen hRecord hField
  subst hRecord hField
  rw [run_append, run_atField, hRun]
  cases state with
  | startRecord => cases hOpen
  | inQuoted => cases hOpen
  | eatCrnl => cases hOpen
  | startField =>
    change some ([record ++ [] ++ [String.ofList kept]],
      start) = _
    rw [List.append_nil]
  | inField =>
    change some ([record ++ [] ++ [String.ofList kept]],
      start) = _
    rw [List.append_nil]
  | quoteInQuoted =>
    change some ([record ++ [] ++ [String.ofList kept]],
      start) = _
    rw [List.append_nil]

/- A written row is one record. -/
theorem run_writeRow
    {fields : List String}
    (hFields : fields ≠ [])
    (record : List String) :
    (atField record).run (writeRow fields) =
      some ([record ++ fields], start) := by
  induction fields generalizing record with
  | nil => exact absurd rfl hFields
  | cons field fields ih =>
    cases fields with
    | nil =>
      rw [writeRow, run_value_crlf (value_quoted field),
        String.ofList_toList]
    | cons next fields =>
      rw [writeRow, run_value_comma (value_quoted field),
        String.ofList_toList, ih (List.cons_ne_nil _ _),
        List.append_assoc]
      rfl

/- What the writer writes is parsed into the rows it was. -/
theorem parse_writeRows
    {rows : List (List String)}
    (hRows : ∀ row ∈ rows, row ≠ []) :
    parse (writeRows rows) = some rows := by
  rw [writeRows, List.flatMap_def]
  apply parse_lines
  rw [List.forall₂_map_left_iff, List.forall₂_same]
  intro row hRow
  have hQuote : ∃ text, writeRow row = '"' :: text := by
    cases row with
    | nil => exact absurd rfl (hRows _ hRow)
    | cons field fields =>
      cases fields with
      | nil => exact ⟨_, rfl⟩
      | cons next fields => exact ⟨_, rfl⟩
  rcases hQuote with ⟨text, hText⟩
  have hStart : start.run (writeRow row) =
      (atField []).run (writeRow row) := by
    rw [hText]
    refine run_start ?_ (List.cons_ne_nil _ _)
    rintro _ ⟨⟩
    rfl
  rw [hStart, run_writeRow (hRows row hRow)]
  rfl

end Csv
