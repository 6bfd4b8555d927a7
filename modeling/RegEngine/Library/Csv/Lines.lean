import Mathlib.Data.List.Forall2
import RegEngine.Library.Csv

/-
  Lines of fields with commas between them: when the reader
  takes each field as one, and what it reads of several lines.

  Main declarations:
    * `Csv.isSeparator`
    * `Csv.run_line`
    * `Csv.of_run_line`
-/

--------
-- Lines
--------

namespace Csv

open Reader

/- What a text that is one field leaves the reader with. -/
theorem value_eq_some_iff
    {cell field : List Char} :
    value cell = some field ↔
      ∃ reader,
        (atField []).run cell = some ([], reader) ∧
          reader.state.isOpenField = true ∧
          reader.record = [] ∧ reader.field = field := by
  unfold value
  constructor
  · intro hValue
    split at hValue
    · rename_i reader hRun
      split at hValue
      · rename_i hOpen
        cases hValue
        exact ⟨reader, hRun, hOpen.1, hOpen.2, rfl⟩
      · cases hValue
    · cases hValue
  · rintro ⟨reader, hRun, hOpen, hRecord, rfl⟩
    rw [hRun]
    dsimp only
    rw [if_pos ⟨hOpen, hRecord⟩]

theorem ne_of_isOpenField
    {state : State}
    (hOpen : state.isOpenField = true) :
    state ≠ .inQuoted ∧ state ≠ .eatCrnl := by
  cases state with
  | startField => exact ⟨nofun, nofun⟩
  | inField => exact ⟨nofun, nofun⟩
  | quoteInQuoted => exact ⟨nofun, nofun⟩
  | startRecord => cases hOpen
  | inQuoted => cases hOpen
  | eatCrnl => cases hOpen

variable {cell field : List Char}
variable {result : List (List String) × Reader}

/- A text that is one field leaves no quote open. -/
theorem quotesClosed_of_value
    (hValue : value cell = some field) :
    QuotesClosed cell := by
  rw [value_eq_some_iff] at hValue
  rcases hValue with
    ⟨reader, hRun, hOpen, -, -⟩
  intro result hResult
  rw [hRun] at hResult
  cases hResult
  exact (ne_of_isOpenField hOpen).1

theorem run_value_comma
    {cell field : List Char}
    (hValue : value cell = some field)
    (record : List String)
    (rest : List Char) :
    (atField record).run (cell ++ ',' :: rest) =
      (atField (record ++ [String.ofList field])).run rest := by
  rw [value_eq_some_iff] at hValue
  rcases hValue with
    ⟨reader, hRun, hOpen, hRecord, hField⟩
  rcases ne_of_isOpenField hOpen with ⟨hQuoted, hEat⟩
  rw [run_append, run_atField, hRun]
  simp only [Option.map_some, Option.bind_some, shift]
  rw [@run_comma (reader.under record) hQuoted hEat]
  simp only [under, hRecord, hField, List.append_nil]
  cases (atField (record ++ [String.ofList field])).run rest with
  | none => rfl
  | some result => rfl

/- A field before a line feed. -/
theorem run_value_newline
    (hValue : value cell = some field)
    (record : List String) :
    (atField record).run (cell ++ ['\n']) =
      some ([record ++ [String.ofList field]], start) := by
  rw [value_eq_some_iff] at hValue
  rcases hValue with
    ⟨reader, hRun, hOpen, hRecord, hField⟩
  rcases ne_of_isOpenField hOpen with ⟨hQuoted, hEat⟩
  have hInside := (of_run_nil (inside_atField []) hRun).1
  have hUnder : (reader.under record).Inside := by
    refine ⟨hInside.state_ne, ?_⟩
    intro hState
    exact absurd hState hEat
  rw [run_append, run_atField, hRun]
  simp only [Option.map_some, Option.bind_some, shift]
  rw [run_newline hUnder hQuoted]
  simp [under, hRecord, hField, hEat]

/- A line of fields is one record of their values. -/
theorem run_line
    {cells values : List (List Char)}
    (hValues :
      List.Forall₂ (fun cell field => value cell = some field)
        cells values)
    {last field : List Char}
    (hLast : value last = some field)
    (record : List String) :
    (atField record).run (line cells last) =
      some ([record ++ (values ++ [field]).map String.ofList],
        start) := by
  induction hValues generalizing record with
  | nil => exact run_value_newline hLast record
  | cons hValue _ ih =>
    rw [line, run_value_comma hValue, ih]
    simp [List.append_assoc]

/-
  A text before a comma that leaves no quote open: it is one
  field, or gives a record out, or more than one field.
-/
theorem of_run_comma
    {cell : List Char}
    (hClosed : QuotesClosed cell)
    {record : List String}
    {rest : List Char}
    (hRun :
      (atField record).run (cell ++ ',' :: rest) =
        some result) :
    (∃ field, value cell = some field ∧
        (atField (record ++ [String.ofList field])).run rest =
          some result) ∨
      ∃ given fields later,
        (atField fields).run rest = some later ∧
          result = (given ++ later.1, later.2) ∧
          (given = [] →
            record.length + 1 < fields.length) := by
  rw [run_append] at hRun
  rcases Option.bind_eq_some_iff.mp hRun with
    ⟨first, hFirst, hRest⟩
  rcases Option.map_eq_some_iff.mp hRest with
    ⟨later, hLater, hResult⟩
  rw [run_atField] at hFirst
  rcases Option.map_eq_some_iff.mp hFirst with
    ⟨⟨given, reader⟩, hCell, hShift⟩
  have hQuoted : reader.state ≠ .inQuoted := hClosed _ hCell
  have hEat : reader.state ≠ .eatCrnl := by
    intro hState
    have hSame : first.2.state = reader.state := by
      rw [← hShift]
      cases given <;> rfl
    rw [run_comma_eatCrnl (hSame.trans hState)] at hLater
    cases hLater
  cases given with
  | nil =>
    subst hShift
    change (reader.under record).run (',' :: rest) = _ at hLater
    rw [@run_comma (reader.under record) hQuoted hEat]
      at hLater
    rcases (of_run_nil (inside_atField []) hCell).1 with
      ⟨hState, -⟩
    by_cases hRecord : reader.record = []
    · left
      refine ⟨reader.field, ?_, ?_⟩
      · apply Iff.mpr value_eq_some_iff
        refine ⟨reader, hCell, ?_, hRecord, rfl⟩
        cases hOpen : reader.state with
        | startField => rfl
        | inField => rfl
        | quoteInQuoted => rfl
        | startRecord => exact absurd hOpen hState
        | inQuoted => exact absurd hOpen hQuoted
        | eatCrnl => exact absurd hOpen hEat
      · rw [← hResult]
        simp only [under, hRecord, List.append_nil] at hLater
        exact hLater
    · right
      refine ⟨[], _, later, hLater, hResult.symm, ?_⟩
      intro _
      have hPos := List.length_pos_iff.mpr hRecord
      simp only [under, List.length_append,
        List.length_singleton]
      omega
  | cons head given =>
    subst hShift
    right
    change reader.run (',' :: rest) = _ at hLater
    rw [run_comma hQuoted hEat] at hLater
    refine ⟨_, _, later, hLater, hResult.symm, ?_⟩
    intro hNil
    cases hNil

/- The same before a line feed, or a carriage return too. -/
theorem of_run_newline
    {cell : List Char}
    (hClosed : QuotesClosed cell)
    {record : List String}
    (hRun :
      (atField record).run (cell ++ ['\n']) = some result) :
    result.2 = start ∧
      ((∃ field,
          (value cell = some field ∨
            field.length < cell.length) ∧
          result.1 = [record ++ [String.ofList field]]) ∨
        1 < result.1.length ∨
        ∃ fields, result.1 = [fields] ∧
          record.length + 1 < fields.length) := by
  rw [run_append] at hRun
  rcases Option.bind_eq_some_iff.mp hRun with
    ⟨first, hFirst, hRest⟩
  rcases Option.map_eq_some_iff.mp hRest with
    ⟨later, hLater, hResult⟩
  rw [run_atField] at hFirst
  rcases Option.map_eq_some_iff.mp hFirst with
    ⟨⟨given, reader⟩, hCell, hShift⟩
  have hQuoted : reader.state ≠ .inQuoted := hClosed _ hCell
  cases given with
  | nil =>
    subst hShift
    change (reader.under record).run ['\n'] = _ at hLater
    rcases of_run_nil (inside_atField []) hCell with
      ⟨hInside, hWeight⟩
    have hUnder : (reader.under record).Inside := by
      refine ⟨hInside.state_ne, ?_⟩
      intro hState hNil
      exact hInside.record_ne hState
        (List.append_eq_nil_iff.mp hNil).2
    rw [run_newline hUnder hQuoted] at hLater
    cases hLater
    subst hResult
    refine ⟨rfl, ?_⟩
    by_cases hEat : reader.state = .eatCrnl
    · rw [if_pos (show (reader.under record).state = _ from
        hEat)]
      simp only [weight, hEat, breaks] at hWeight
      cases hRecord : reader.record with
      | nil => exact absurd hRecord (hInside.record_ne hEat)
      | cons field others =>
        cases others with
        | nil =>
          left
          refine ⟨field.toList, Or.inr ?_, ?_⟩
          · rw [hRecord] at hWeight
            simp only [List.map_cons, List.map_nil,
              List.sum_cons, List.sum_nil, atField] at hWeight
            rw [String.length_toList]
            simp only [List.length_nil] at hWeight
            omega
          · simp [shift, under, hRecord]
        | cons other others =>
          right
          right
          refine ⟨_, rfl, ?_⟩
          simp only [under, hRecord, List.length_append,
            List.length_cons]
          omega
    · rw [if_neg (show ¬ (reader.under record).state = _ from
        hEat)]
      by_cases hRecord : reader.record = []
      · left
        refine ⟨reader.field, Or.inl ?_, ?_⟩
        · apply Iff.mpr value_eq_some_iff
          refine ⟨reader, hCell, ?_, hRecord, rfl⟩
          cases hOpen : reader.state with
          | startField => rfl
          | inField => rfl
          | quoteInQuoted => rfl
          | startRecord => exact absurd hOpen hInside.state_ne
          | inQuoted => exact absurd hOpen hQuoted
          | eatCrnl => exact absurd hOpen hEat
        · simp [shift, under, hRecord]
      · right
        right
        refine ⟨_, rfl, ?_⟩
        have hPos := List.length_pos_iff.mpr hRecord
        simp only [under, List.length_append,
          List.length_singleton]
        omega
  | cons head given =>
    subst hShift
    change reader.run ['\n'] = _ at hLater
    rcases exists_run_newline hQuoted with ⟨fields, hFields⟩
    rw [hFields] at hLater
    cases hLater
    subst hResult
    refine ⟨rfl, Or.inr (Or.inl ?_)⟩
    simp only [shift, List.length_append, List.length_cons,
      List.length_nil]
    omega

variable {cells : List (List Char)} {last : List Char}

/-
  A line of texts that leave no quote open, read as one record
  with as many fields: each text is one field.
-/
theorem of_run_line
    (hCells : ∀ cell ∈ cells, QuotesClosed cell)
    (hLast : QuotesClosed last)
    {record : List String}
    (hRun :
      (atField record).run (line cells last) = some result) :
    result.2 = start ∧
      ((∃ values field,
          List.Forall₂
              (fun cell value' => value cell = some value')
              cells values ∧
            (value last = some field ∨
              field.length < last.length) ∧
            result.1 = [record ++
              (values ++ [field]).map String.ofList]) ∨
        1 < result.1.length ∨
        ∃ fields, result.1 = [fields] ∧
          record.length + cells.length + 1 < fields.length) := by
  induction cells generalizing record result with
  | nil =>
    rcases of_run_newline hLast hRun with
      ⟨hStart, ⟨field, hField, hOne⟩ | hMany | hLong⟩
    · exact ⟨hStart, Or.inl
        ⟨[], field, .nil, hField, hOne⟩⟩
    · exact ⟨hStart, Or.inr (Or.inl hMany)⟩
    · exact ⟨hStart, Or.inr (Or.inr hLong)⟩
  | cons cell cells ih =>
    have hRest : ∀ cell ∈ cells, QuotesClosed cell :=
      fun other hOther =>
        hCells other (List.mem_cons_of_mem _ hOther)
    rw [line] at hRun
    rcases of_run_comma (hCells cell List.mem_cons_self)
        hRun with
      ⟨field, hField, hLater⟩ |
        ⟨given, fields, later, hLater, hResult, hMore⟩
    · rcases ih hRest hLater with ⟨hStart, hCases⟩
      refine ⟨hStart, ?_⟩
      rcases hCases with
        ⟨values, value', hValues, hValue, hOne⟩ | hMany |
          ⟨fields, hFields, hLong⟩
      · left
        refine ⟨field :: values, value', .cons hField hValues,
          hValue, ?_⟩
        rw [hOne]
        simp [List.append_assoc]
      · exact Or.inr (Or.inl hMany)
      · refine Or.inr (Or.inr ⟨fields, hFields, ?_⟩)
        simp only [List.length_append, List.length_cons]
          at hLong ⊢
        omega
    · rcases ih hRest hLater with ⟨hStart, hCases⟩
      subst hResult
      refine ⟨hStart, Or.inr ?_⟩
      have hSome : 1 ≤ later.1.length := by
        rcases hCases with
          ⟨_, _, _, _, hOne⟩ | hMany | ⟨_, hFields, _⟩
        · rw [hOne]
          exact Nat.le_refl 1
        · exact Nat.le_of_lt hMany
        · rw [hFields]
          exact Nat.le_refl 1
      cases given with
      | cons head given =>
        left
        simp only [List.length_append, List.length_cons]
        omega
      | nil =>
        have hLess := hMore rfl
        rw [List.nil_append]
        rcases hCases with
          ⟨values, field, hValues, _, hOne⟩ | hMany |
            ⟨others, hFields, hLong⟩
        · refine Or.inr ⟨_, hOne, ?_⟩
          have hLength := hValues.length_eq
          simp only [List.length_append, List.length_map,
            List.length_cons, List.length_nil]
          omega
        · exact Or.inl hMany
        · refine Or.inr ⟨others, hFields, ?_⟩
          rw [List.length_cons]
          omega

/- Such a line gives some record out, and ends with it. -/
theorem of_run_line_start
    (hCells : ∀ cell ∈ cells, QuotesClosed cell)
    (hLast : QuotesClosed last)
    {record : List String}
    (hRun :
      (atField record).run (line cells last) = some result) :
    result.2 = start ∧ 1 ≤ result.1.length := by
  rcases of_run_line hCells hLast hRun with
    ⟨hStart, ⟨_, _, _, _, hOne⟩ | hMany | ⟨_, hFields, _⟩⟩
  · rw [hOne]
    exact ⟨hStart, Nat.le_refl 1⟩
  · exact ⟨hStart, Nat.le_of_lt hMany⟩
  · rw [hFields]
    exact ⟨hStart, Nat.le_refl 1⟩

/- A character that ends an unquoted field. -/
def isSeparator (c : Char) : Bool :=
  c == ',' || isBreak c

/- A text without separators, inside an unquoted field. -/
theorem run_inField
    {cell : List Char}
    (hPlain : ∀ c ∈ cell, isSeparator c = false)
    (field : List Char) :
    (Reader.mk .inField field []).run cell =
      some ([], Reader.mk .inField (field ++ cell) []) := by
  induction cell generalizing field with
  | nil => rw [List.append_nil]; rfl
  | cons c cell ih =>
    have hHead := hPlain c List.mem_cons_self
    simp only [isSeparator, Bool.or_eq_false_iff, beq_eq_false_iff_ne,
      ne_eq] at hHead
    have hLine : c ≠ '\n' := by
      rintro rfl
      cases hHead.2
    have hAdvance :
        (Reader.mk .inField field []).advance c =
          some ([], Reader.mk .inField (field ++ [c]) []) := by
      unfold advance
      simp only [step, hHead, add, Bool.false_eq_true, if_false,
        Option.map_some, hLine]
    rw [run_cons hAdvance,
      ih (fun d hD => hPlain d (List.mem_cons_of_mem _ hD)),
      List.append_assoc]
    rfl

/- A text that does not start with a quote is kept as it is. -/
theorem value_of_plain
    {cell : List Char}
    (hQuote : cell.head? ≠ some '"')
    (hPlain : ∀ c ∈ cell, isSeparator c = false) :
    value cell = some cell := by
  apply Iff.mpr value_eq_some_iff
  cases cell with
  | nil => exact ⟨atField [], rfl, rfl, rfl, rfl⟩
  | cons c cell =>
    have hHead := hPlain c List.mem_cons_self
    simp only [isSeparator, Bool.or_eq_false_iff,
      beq_eq_false_iff_ne, ne_eq] at hHead
    have hOpens : c ≠ '"' := by
      rintro rfl
      exact hQuote rfl
    have hLine : c ≠ '\n' := by
      rintro rfl
      cases hHead.2
    have hAdvance :
        (atField []).advance c =
          some ([], Reader.mk .inField [c] []) := by
      unfold advance
      simp only [atField, step, stepField, hHead, hOpens, add,
        Bool.false_eq_true, if_false, Option.map_some, hLine,
        List.nil_append]
    refine ⟨Reader.mk .inField (c :: cell) [], ?_, rfl, rfl, rfl⟩
    rw [run_cons hAdvance, run_inField
      (fun d hD => hPlain d (List.mem_cons_of_mem _ hD))]
    rfl

/- A field that starts with a quote is read as less. -/
theorem length_lt_of_quote
    (hQuote : cell.head? = some '"')
    (hValue : value cell = some field) :
    field.length < cell.length := by
  rcases Iff.mp value_eq_some_iff hValue with
    ⟨⟨state, kept, record⟩, hRun, -, hRecord, hField⟩
  dsimp only at hRecord hField
  subst hRecord hField
  cases cell with
  | nil => cases hQuote
  | cons c cell =>
    cases hQuote
    rw [run] at hRun
    rcases Option.bind_eq_some_iff.mp hRun with
      ⟨⟨given, middle⟩, hAdvance, hLater⟩
    rcases Option.map_eq_some_iff.mp hLater with
      ⟨⟨later, last⟩, hRest, hEq⟩
    rcases Prod.mk.inj hEq with ⟨hNil, hLast⟩
    rcases List.append_eq_nil_iff.mp hNil with ⟨-, hAfter⟩
    subst hAfter
    cases hLast
    cases hAdvance
    have hInside : (Reader.mk .inQuoted [] []).Inside :=
      ⟨by simp, by simp⟩
    have hWeight := (of_run_nil hInside hRest).2
    simp only [weight, List.map_nil, List.sum_nil,
      List.length_nil, breaks] at hWeight
    rw [List.length_cons]
    omega

/- After a field the record is never empty again. -/
theorem record_ne_nil_of_run
    {reader next : Reader}
    {text : List Char}
    (hRecord : reader.record ≠ [])
    (hRun : reader.run text = some ([], next)) :
    next.record ≠ [] := by
  have hUnder :
      reader =
        ({ reader with record := [] } : Reader).under
          reader.record := by
    simp [under]
  rw [hUnder, run_under] at hRun
  rcases Option.map_eq_some_iff.mp hRun with
    ⟨⟨given, after⟩, -, hShift⟩
  cases given with
  | nil =>
    cases hShift
    intro hNil
    exact hRecord (List.append_eq_nil_iff.mp hNil).1
  | cons head given => cases hShift

/- A separator ends a field that is not quoted. -/
theorem advance_separator
    {reader : Reader}
    (hOpen : reader.state.isOpenField = true)
    {c : Char}
    (hSeparator : isSeparator c = true) :
    ∃ given next, reader.advance c = some (given, next) ∧
      (given ≠ [] ∨ next.record ≠ []) := by
  have hSaved : ∀ state,
      (reader.save state).record ≠ [] := by
    intro state
    simp [save]
  have hCases : c = ',' ∨ c = '\n' ∨ c = '\r' := by
    simpa [isSeparator, isBreak] using hSeparator
  rcases reader with ⟨state, field, record⟩
  cases state with
  | startRecord => cases hOpen
  | inQuoted => cases hOpen
  | eatCrnl => cases hOpen
  | startField =>
    rcases hCases with rfl | rfl | rfl
    · exact ⟨[], _, rfl, Or.inr (hSaved .startField)⟩
    · exact ⟨_, _, rfl, Or.inl (List.cons_ne_nil _ _)⟩
    · exact ⟨[], _, rfl, Or.inr (hSaved .eatCrnl)⟩
  | inField =>
    rcases hCases with rfl | rfl | rfl
    · exact ⟨[], _, rfl, Or.inr (hSaved .startField)⟩
    · exact ⟨_, _, rfl, Or.inl (List.cons_ne_nil _ _)⟩
    · exact ⟨[], _, rfl, Or.inr (hSaved .eatCrnl)⟩
  | quoteInQuoted =>
    rcases hCases with rfl | rfl | rfl
    · exact ⟨[], _, rfl, Or.inr (hSaved .startField)⟩
    · exact ⟨_, _, rfl, Or.inl (List.cons_ne_nil _ _)⟩
    · exact ⟨[], _, rfl, Or.inr (hSaved .eatCrnl)⟩

/- An unquoted text that is one field has no separators. -/
theorem plain_of_value
    (hQuote : cell.head? ≠ some '"')
    (hValue : value cell = some field) :
    ∀ c ∈ cell, isSeparator c = false := by
  intro c hMem
  by_contra hNot
  rw [Bool.not_eq_false] at hNot
  -- Up to its first separator the text is kept as it is.
  cases hFind : cell.find? isSeparator with
  | none =>
    exact List.find?_eq_none.mp hFind c hMem hNot
  | some d =>
    rcases List.find?_eq_some_iff_append.mp hFind with
      ⟨hSeparator, front, back, rfl, hFront⟩
    have hHead : front.head? ≠ some '"' := by
      intro hFirst
      cases front with
      | nil => cases hFirst
      | cons first front => exact hQuote hFirst
    have hPlain : ∀ e ∈ front, isSeparator e = false := by
      intro e hE
      simpa using hFront e hE
    rcases Iff.mp value_eq_some_iff
      (value_of_plain hHead hPlain) with
      ⟨reader, hStart, hOpen, -, -⟩
    rcases advance_separator hOpen hSeparator with
      ⟨given, next, hAdvance, hMore⟩
    rcases Iff.mp value_eq_some_iff hValue with
      ⟨last, hRun, -, hRecord, -⟩
    rw [run_append, hStart, Option.bind_some, run, hAdvance,
      Option.bind_some] at hRun
    rcases Option.map_eq_some_iff.mp hRun with
      ⟨after, hAfter, hEq⟩
    rcases Option.map_eq_some_iff.mp hAfter with
      ⟨rest, hRest, rfl⟩
    rcases Prod.mk.inj hEq with ⟨hNil, hLast⟩
    rw [List.nil_append] at hNil
    rcases List.append_eq_nil_iff.mp hNil with ⟨hGiven, hNone⟩
    rcases hMore with hMore | hMore
    · exact hMore hGiven
    · have hLater : next.run back = some ([], last) := by
        rw [← hNone, ← hLast]
        exact hRest
      exact record_ne_nil_of_run hMore hLater hRecord

/- A text that is one field is kept just when it is plain. -/
theorem value_eq_self_iff
    {cell : List Char} :
    value cell = some cell ↔
      cell.head? ≠ some '"' ∧
        ∀ c ∈ cell, isSeparator c = false := by
  constructor
  · intro hValue
    have hQuote : cell.head? ≠ some '"' := by
      intro hQuote
      exact absurd (length_lt_of_quote hQuote hValue)
        (Nat.lt_irrefl _)
    exact ⟨hQuote, plain_of_value hQuote hValue⟩
  · rintro ⟨hQuote, hPlain⟩
    exact value_of_plain hQuote hPlain

end Csv

--------
-- Texts Of Several Lines
--------

namespace Csv

open Reader

/- The first character of a line may start a field. -/
theorem run_start
    {text : List Char}
    (hFirst : ∀ c ∈ text.head?, isBreak c = false) :
    text ≠ [] → start.run text = (atField []).run text := by
  intro hNe
  cases text with
  | nil => exact absurd rfl hNe
  | cons c text =>
    have hBreak : isBreak c = false := hFirst c rfl
    have hAdvance : start.advance c = (atField []).advance c := by
      unfold advance
      simp only [start, atField, step, hBreak,
        Bool.false_eq_true, if_false]
      rfl
    rw [run, run, hAdvance]

variable {texts : List (List Char)}
variable {records : List (List String)}

theorem run_lines
    (hLines :
      List.Forall₂
        (fun text record =>
          start.run text = some ([record], start))
        texts records) :
    start.run texts.flatten = some (records, start) := by
  induction hLines with
  | nil => rfl
  | cons hLine _ ih =>
    rw [List.flatten_cons, run_append, hLine, Option.bind_some,
      ih]
    rfl

/- A text of such lines is parsed into their records. -/
theorem parse_lines
    (hLines :
      List.Forall₂
        (fun text record =>
          start.run text = some ([record], start))
        texts records) :
    parse texts.flatten = some records := by
  rw [parse, run_lines hLines, Option.map_some]
  exact congrArg some (List.append_nil records)

/-
  Lines that each give some record out: as many records as
  lines are the records of the lines.
-/
theorem of_run_lines
    (hTexts :
      ∀ text ∈ texts, ∀ result, start.run text = some result →
        result.2 = start ∧ 1 ≤ result.1.length)
    {result : List (List String) × Reader}
    (hRun : start.run texts.flatten = some result) :
    result.2 = start ∧ texts.length ≤ result.1.length ∧
      (result.1.length = texts.length →
        List.Forall₂
          (fun text record =>
            start.run text = some ([record], start))
          texts result.1) := by
  induction texts generalizing result with
  | nil =>
    cases hRun
    exact ⟨rfl, Nat.le_refl _, fun _ => .nil⟩
  | cons text texts ih =>
    rw [List.flatten_cons, run_append] at hRun
    rcases Option.bind_eq_some_iff.mp hRun with
      ⟨⟨given, reader⟩, hFirst, hRest⟩
    rcases Option.map_eq_some_iff.mp hRest with
      ⟨later, hLater, hResult⟩
    rcases hTexts text List.mem_cons_self _ hFirst with
      ⟨hStart, hSome⟩
    dsimp only at hStart hSome hLater hResult
    subst hStart
    rcases ih (fun other hOther =>
        hTexts other (List.mem_cons_of_mem _ hOther)) hLater with
      ⟨hEnd, hLe, hEach⟩
    subst hResult
    simp only [List.length_append, List.length_cons]
    refine ⟨hEnd, by omega, ?_⟩
    intro hLength
    have hOne : given.length = 1 := by omega
    rcases List.length_eq_one_iff.mp hOne with ⟨record, rfl⟩
    exact .cons hFirst (hEach (by omega))

end Csv
