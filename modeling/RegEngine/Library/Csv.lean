import Mathlib.Algebra.GroupWithZero.Nat
import Mathlib.Data.List.Basic

/-
  Comma-separated texts: the reader of Python's `csv` module in
  its `excel` dialect, step by step, and the texts that it
  takes as one field.

  Main declarations:
    * `Csv.Reader`
    * `Csv.parse`
    * `Csv.Reader.run_under`
-/

--------
-- The Reader
--------

namespace Csv

/- The states of `ParserState`. -/
inductive State where
  | startRecord
  | startField
  | inField
  | inQuoted
  | quoteInQuoted
  | eatCrnl
  deriving DecidableEq

/- What the reader keeps between two characters. -/
structure Reader where
  state : State
  field : List Char
  record : List String
  deriving DecidableEq

namespace Reader

/- The reader before a record. -/
def start : Reader :=
  ⟨.startRecord, [], []⟩

def atField (record : List String) : Reader :=
  ⟨.startField, [], record⟩

/- `parse_save_field`. -/
def save (reader : Reader) (state : State) : Reader :=
  ⟨state, [], reader.record ++ [String.ofList reader.field]⟩

/- `parse_add_char`. -/
def add (reader : Reader) (state : State) (c : Char) : Reader :=
  ⟨state, reader.field ++ [c], reader.record⟩

/- A character that ends a line. -/
def isBreak (c : Char) : Bool :=
  c == '\n' || c == '\r'

/- The first character of a field. -/
def stepField (reader : Reader) (c : Char) : Reader :=
  if isBreak c then reader.save .eatCrnl
  else if c = '"' then { reader with state := .inQuoted }
  else if c = ',' then reader.save .startField
  else reader.add .inField c

/- `parse_process_char`; no reader is a `csv.Error`. -/
def step (reader : Reader) (c : Char) : Option Reader :=
  match reader.state with
  | .startRecord =>
      if isBreak c then some { reader with state := .eatCrnl }
      else some (reader.stepField c)
  | .startField => some (reader.stepField c)
  | .inField =>
      if isBreak c then some (reader.save .eatCrnl)
      else if c = ',' then some (reader.save .startField)
      else some (reader.add .inField c)
  | .inQuoted =>
      if c = '"' then
        some { reader with state := .quoteInQuoted }
      else some (reader.add .inQuoted c)
  | .quoteInQuoted =>
      if c = '"' then some (reader.add .inQuoted c)
      else if c = ',' then some (reader.save .startField)
      else if isBreak c then some (reader.save .eatCrnl)
      else some (reader.add .inField c)
  | .eatCrnl => if isBreak c then some reader else none

/- `parse_process_char` at the end of a line. -/
def endLine (reader : Reader) : Reader :=
  match reader.state with
  | .startField => reader.save .startRecord
  | .inField => reader.save .startRecord
  | .quoteInQuoted => reader.save .startRecord
  | .inQuoted => reader
  | .startRecord => reader
  | .eatCrnl => { reader with state := .startRecord }

/- A record that ends with its line is given out. -/
def emit (reader : Reader) : List (List String) × Reader :=
  if reader.state = .startRecord then ([reader.record], start)
  else ([], reader)

/- A character of a text whose lines end with line feeds. -/
def advance (reader : Reader) (c : Char) :
    Option (List (List String) × Reader) :=
  (reader.step c).map (fun next =>
    if c = '\n' then next.endLine.emit else ([], next))

/- The records of a text, and the reader after it. -/
def run (reader : Reader) :
    List Char → Option (List (List String) × Reader)
| [] => some ([], reader)
| c :: rest =>
    (reader.advance c).bind (fun first =>
      (first.2.run rest).map (fun later =>
        (first.1 ++ later.1, later.2)))

/- The record of a last line without a line feed. -/
def rest (reader : Reader) : List (List String) :=
  match reader.state with
  | .startRecord => []
  | .eatCrnl => [reader.record]
  | _ => [(reader.save .startRecord).record]

end Reader

/- The records of a text. -/
def parse (text : List Char) : Option (List (List String)) :=
  (Reader.start.run text).map (fun result =>
    result.1 ++ result.2.rest)

/- A reader in the middle of a field, or before it. -/
def State.isOpenField : State → Bool
| .startField => true
| .inField => true
| .quoteInQuoted => true
| _ => false

/- The value of a text that is one field, standing alone. -/
def value (cell : List Char) : Option (List Char) :=
  match (Reader.atField []).run cell with
  | some ([], reader) =>
      if reader.state.isOpenField ∧ reader.record = [] then
        some reader.field
      else none
  | _ => none

/- A text that leaves no quote open. -/
def QuotesClosed (cell : List Char) : Prop :=
  ∀ result ∈ (Reader.atField []).run cell,
    result.2.state ≠ .inQuoted

/- Fields with commas between them, ended by a line feed. -/
def line : List (List Char) → List Char → List Char
| [], last => last ++ ['\n']
| cell :: cells, last => cell ++ ',' :: line cells last

end Csv

--------
-- Runs
--------

namespace Csv

namespace Reader

variable {reader next : Reader} {state : State} {c : Char}

/- A character that gives no record out. -/
theorem run_cons
    {c : Char}
    (hAdvance : reader.advance c = some ([], next))
    (rest : List Char) :
    reader.run (c :: rest) = next.run rest := by
  rw [run, hAdvance, Option.bind_some]
  cases next.run rest with
  | none => rfl
  | some result => rfl

/- A text is read in two parts. -/
theorem run_append
    (reader : Reader)
    (text later : List Char) :
    reader.run (text ++ later) =
      (reader.run text).bind (fun first =>
        (first.2.run later).map (fun second =>
          (first.1 ++ second.1, second.2))) := by
  induction text generalizing reader with
  | nil =>
    cases hLater : reader.run later with
    | none => simp [run, hLater]
    | some result => simp [run, hLater]
  | cons c text ih =>
    rw [List.cons_append, run, run]
    cases reader.advance c with
    | none => rfl
    | some first =>
      rw [Option.bind_some, Option.bind_some, ih]
      cases first.2.run text with
      | none => rfl
      | some second =>
        rw [Option.map_some, Option.bind_some, Option.bind_some]
        cases second.2.run later with
        | none => rfl
        | some third => simp [List.append_assoc]

/- A reader with fields before those of its record. -/
def under (record : List String) (reader : Reader) : Reader :=
  { reader with record := record ++ reader.record }

/- The fields come before the first record given out. -/
def shift
    (record : List String)
    (result : List (List String) × Reader) :
    List (List String) × Reader :=
  match result with
  | ([], reader) => ([], reader.under record)
  | (first :: others, reader) =>
      ((record ++ first) :: others, reader)

theorem save_under
    (record : List String)
    (reader : Reader)
    (state : State) :
    (reader.under record).save state =
      (reader.save state).under record := by
  simp [save, under, List.append_assoc]

theorem step_under
    (record : List String)
    (reader : Reader)
    (c : Char) :
    (reader.under record).step c =
      (reader.step c).map (under record) := by
  rcases reader with ⟨state, field, fields⟩
  have hField :
      (under record ⟨state, field, fields⟩).stepField c =
        (stepField ⟨state, field, fields⟩ c).under record := by
    unfold stepField
    rw [save_under, save_under]
    split
    · rfl
    · split
      · rfl
      · split <;> rfl
  cases state with
  | startRecord =>
    change (if isBreak c then _ else _) = _
    rw [hField]
    by_cases hBreak : isBreak c = true
    · simp [step, hBreak, under]
    · simp [step, hBreak]
  | startField =>
    change some _ = some _
    rw [hField]
  | inField =>
    simp only [step, under, save, add]
    split
    · simp [under]
    · split <;> simp [under]
  | inQuoted =>
    simp only [step, under, add]
    split <;> simp [under]
  | quoteInQuoted =>
    simp only [step, under, save, add]
    split
    · simp [under]
    · split
      · simp [under]
      · split <;> simp [under]
  | eatCrnl =>
    simp only [step, under]
    split <;> simp [under]

theorem emit_under
    (record : List String)
    (reader : Reader) :
    (reader.under record).endLine.emit =
      shift record reader.endLine.emit := by
  rcases reader with ⟨state, field, fields⟩
  cases state <;> simp [endLine, under, emit, shift, save]

/- Fields read before only come before what is read. -/
theorem run_under
    (record : List String)
    (reader : Reader)
    (text : List Char) :
    (reader.under record).run text =
      (reader.run text).map (shift record) := by
  induction text generalizing reader with
  | nil => rfl
  | cons c text ih =>
    have hAdvance :
        (reader.under record).advance c =
          (reader.advance c).map (shift record) := by
      unfold advance
      rw [step_under]
      cases reader.step c with
      | none => rfl
      | some next =>
        simp only [Option.map_some]
        split
        · rw [emit_under]
        · rfl
    rw [run, run, hAdvance]
    cases reader.advance c with
    | none => rfl
    | some first =>
      rcases first with ⟨given, next⟩
      cases given with
      | nil =>
        simp only [Option.map_some, Option.bind_some, shift, ih]
        cases next.run text with
        | none => rfl
        | some later => rfl
      | cons head given =>
        simp only [Option.map_some, Option.bind_some, shift]
        cases next.run text with
        | none => rfl
        | some later => rfl

/- Reading from a field on, whatever was read before. -/
theorem run_atField
    (record : List String)
    (text : List Char) :
    (atField record).run text =
      ((atField []).run text).map (shift record) := by
  rw [← run_under]
  simp [under, atField]

/- The line break that a state has seen. -/
def breaks : State → Nat
| .eatCrnl => 1
| _ => 0

theorem breaks_of_ne
    (hState : state ≠ .eatCrnl) :
    breaks state = 0 := by
  cases state with
  | eatCrnl => exact absurd rfl hState
  | startRecord => rfl
  | startField => rfl
  | inField => rfl
  | inQuoted => rfl
  | quoteInQuoted => rfl

/- How many characters a reader keeps. -/
def weight (reader : Reader) : Nat :=
  reader.field.length +
    (reader.record.map String.length).sum +
      breaks reader.state

/- A reader in another state keeps as much. -/
theorem weight_state
    (reader : Reader)
    {state : State}
    (hState : state ≠ .eatCrnl) :
    ({ reader with state := state } : Reader).weight ≤
      reader.weight := by
  simp only [weight, breaks_of_ne hState]
  omega

theorem weight_save
    (reader : Reader)
    (hState : state ≠ .eatCrnl) :
    (reader.save state).weight ≤ reader.weight := by
  simp only [weight, save, List.map_append, List.map_cons,
    List.map_nil, List.sum_append, List.sum_cons, List.sum_nil,
    List.length_nil, String.length_ofList, breaks_of_ne hState]
  omega

theorem weight_save_eatCrnl
    (reader : Reader) :
    (reader.save .eatCrnl).weight ≤ reader.weight + 1 := by
  simp only [weight, save, List.map_append, List.map_cons,
    List.map_nil, List.sum_append, List.sum_cons, List.sum_nil,
    List.length_nil, String.length_ofList, breaks]
  omega

theorem weight_add
    (reader : Reader)
    (c : Char)
    (hState : state ≠ .eatCrnl) :
    (reader.add state c).weight ≤ reader.weight + 1 := by
  simp only [weight, add, List.length_append,
    List.length_singleton, breaks_of_ne hState]
  omega

theorem weight_stepField
    (reader : Reader)
    (c : Char) :
    (reader.stepField c).weight ≤ reader.weight + 1 := by
  unfold stepField
  split
  · exact weight_save_eatCrnl reader
  · split
    · exact Nat.le_succ_of_le (weight_state reader nofun)
    · split
      · exact Nat.le_succ_of_le (weight_save reader nofun)
      · exact weight_add reader c nofun

/- A character adds at most one. -/
theorem weight_step
    (hStep : reader.step c = some next) :
    next.weight ≤ reader.weight + 1 := by
  unfold step at hStep
  split at hStep
  · split at hStep
    · cases hStep
      simp only [weight, breaks]
      omega
    · cases hStep
      exact weight_stepField reader c
  · cases hStep
    exact weight_stepField reader c
  · split at hStep
    · cases hStep
      exact weight_save_eatCrnl reader
    · split at hStep
      · cases hStep
        exact Nat.le_succ_of_le (weight_save reader nofun)
      · cases hStep
        exact weight_add reader c nofun
  · split at hStep
    · cases hStep
      exact Nat.le_succ_of_le (weight_state reader nofun)
    · cases hStep
      exact weight_add reader c nofun
  · split at hStep
    · cases hStep
      exact weight_add reader c nofun
    · split at hStep
      · cases hStep
        exact Nat.le_succ_of_le (weight_save reader nofun)
      · split at hStep
        · cases hStep
          exact weight_save_eatCrnl reader
        · cases hStep
          exact weight_add reader c nofun
  · split at hStep
    · cases hStep
      exact Nat.le_succ _
    · cases hStep

/- A reader that gives nothing out is inside a record. -/
theorem of_emit_nil
    (hEmit : reader.emit = ([], next)) :
    next = reader ∧ reader.state ≠ .startRecord := by
  unfold emit at hEmit
  split at hEmit
  · cases hEmit
  · rename_i hState
    cases hEmit
    exact ⟨rfl, hState⟩

/- At the end of a line only a quoted field goes on. -/
theorem endLine_of_ne
    {reader : Reader}
    (hState : reader.endLine.state ≠ .startRecord) :
    reader.endLine = reader := by
  rcases reader with ⟨state, field, record⟩
  cases state with
  | inQuoted => rfl
  | startRecord => exact absurd rfl hState
  | startField => exact absurd rfl hState
  | inField => exact absurd rfl hState
  | quoteInQuoted => exact absurd rfl hState
  | eatCrnl => exact absurd rfl hState

/- A reader inside a record, after its first character. -/
structure Inside (reader : Reader) : Prop where
  state_ne : reader.state ≠ .startRecord
  record_ne : reader.state = .eatCrnl → reader.record ≠ []

theorem inside_save
    (reader : Reader)
    (hState : state ≠ .startRecord) :
    (reader.save state).Inside := by
  refine ⟨hState, ?_⟩
  intro _ hNil
  exact absurd hNil (by simp [save])

theorem inside_add
    (reader : Reader)
    (c : Char)
    (hState : state ≠ .startRecord)
    (hEat : state ≠ .eatCrnl) :
    (reader.add state c).Inside :=
  ⟨hState, fun hSame => absurd hSame hEat⟩

theorem inside_state
    (reader : Reader)
    {state : State}
    (hState : state ≠ .startRecord)
    (hEat : state ≠ .eatCrnl) :
    ({ reader with state := state } : Reader).Inside :=
  ⟨hState, fun hSame => absurd hSame hEat⟩

theorem inside_stepField
    (reader : Reader)
    (c : Char) :
    (reader.stepField c).Inside := by
  unfold stepField
  split
  · exact inside_save reader nofun
  · split
    · exact inside_state reader nofun nofun
    · split
      · exact inside_save reader nofun
      · exact inside_add reader c nofun nofun

/- A character keeps the reader inside its record. -/
theorem Inside.step
    (hInside : reader.Inside)
    (hStep : reader.step c = some next) :
    next.Inside := by
  unfold Reader.step at hStep
  split at hStep
  · rename_i hState
    exact absurd hState hInside.state_ne
  · cases hStep
    exact inside_stepField reader c
  · split at hStep
    · cases hStep
      exact inside_save reader nofun
    · split at hStep
      · cases hStep
        exact inside_save reader nofun
      · cases hStep
        exact inside_add reader c nofun nofun
  · split at hStep
    · cases hStep
      exact inside_state reader nofun nofun
    · cases hStep
      exact inside_add reader c nofun nofun
  · split at hStep
    · cases hStep
      exact inside_add reader c nofun nofun
    · split at hStep
      · cases hStep
        exact inside_save reader nofun
      · split at hStep
        · cases hStep
          exact inside_save reader nofun
        · cases hStep
          exact inside_add reader c nofun nofun
  · split at hStep
    · cases hStep
      exact hInside
    · cases hStep

/- What a character does that gives no record out. -/
theorem of_advance_nil
    (hAdvance : reader.advance c = some ([], next)) :
    reader.step c = some next := by
  unfold advance at hAdvance
  rcases Option.map_eq_some_iff.mp hAdvance with
    ⟨after, hStep, hNext⟩
  split at hNext
  · rcases of_emit_nil hNext with ⟨hSame, hState⟩
    rw [hSame, endLine_of_ne hState]
    exact hStep
  · cases hNext
    exact hStep

/- A text adds at most its length, and stays in the record. -/
theorem of_run_nil
    {text : List Char}
    (hInside : reader.Inside)
    (hRun : reader.run text = some ([], next)) :
    next.Inside ∧
      next.weight ≤ reader.weight + text.length := by
  induction text generalizing reader with
  | nil =>
    cases hRun
    exact ⟨hInside, Nat.le_refl _⟩
  | cons c text ih =>
    rw [run] at hRun
    rcases Option.bind_eq_some_iff.mp hRun with
      ⟨⟨given, middle⟩, hAdvance, hLater⟩
    rcases Option.map_eq_some_iff.mp hLater with
      ⟨⟨later, last⟩, hRest, hEq⟩
    rcases Prod.mk.inj hEq with ⟨hNil, hLast⟩
    rcases List.append_eq_nil_iff.mp hNil with ⟨hGiven, hAfter⟩
    subst hGiven hAfter hLast
    have hStep := of_advance_nil hAdvance
    rcases ih (hInside.step hStep) hRest with
      ⟨hLast, hWeight⟩
    refine ⟨hLast, ?_⟩
    have hOne := weight_step hStep
    rw [List.length_cons]
    omega

theorem inside_atField
    (record : List String) :
    (atField record).Inside :=
  ⟨nofun, nofun⟩

/- A comma ends a field that is not quoted. -/
theorem run_comma
    {reader : Reader}
    (hQuoted : reader.state ≠ .inQuoted)
    (hEat : reader.state ≠ .eatCrnl)
    (rest : List Char) :
    reader.run (',' :: rest) =
      (atField (reader.record ++
        [String.ofList reader.field])).run rest := by
  have hAdvance :
      reader.advance ',' =
        some ([], reader.save .startField) := by
    rcases reader with ⟨state, field, record⟩
    cases state with
    | inQuoted => exact absurd rfl hQuoted
    | eatCrnl => exact absurd rfl hEat
    | startRecord => rfl
    | startField => rfl
    | inField => rfl
    | quoteInQuoted => rfl
  exact run_cons hAdvance rest

/- After a carriage return a comma is an error. -/
theorem run_comma_eatCrnl
    {reader : Reader}
    (hEat : reader.state = .eatCrnl)
    (rest : List Char) :
    reader.run (',' :: rest) = none := by
  rcases reader with ⟨state, field, record⟩
  cases hEat
  rfl

/- A line feed always ends a record outside quotes. -/
theorem exists_run_newline
    {reader : Reader}
    (hQuoted : reader.state ≠ .inQuoted) :
    ∃ fields, reader.run ['\n'] = some ([fields], start) := by
  rcases reader with ⟨state, field, record⟩
  cases state with
  | inQuoted => exact absurd rfl hQuoted
  | startRecord => exact ⟨_, rfl⟩
  | startField => exact ⟨_, rfl⟩
  | inField => exact ⟨_, rfl⟩
  | quoteInQuoted => exact ⟨_, rfl⟩
  | eatCrnl => exact ⟨_, rfl⟩

/- A line feed ends a record that is not quoted. -/
theorem run_newline
    {reader : Reader}
    (hInside : reader.Inside)
    (hQuoted : reader.state ≠ .inQuoted) :
    reader.run ['\n'] =
      some ([if reader.state = .eatCrnl then reader.record
        else reader.record ++ [String.ofList reader.field]],
        start) := by
  rcases reader with ⟨state, field, record⟩
  cases state with
  | inQuoted => exact absurd rfl hQuoted
  | startRecord => exact absurd rfl hInside.state_ne
  | startField => rfl
  | inField => rfl
  | quoteInQuoted => rfl
  | eatCrnl => rfl

end Reader

end Csv
