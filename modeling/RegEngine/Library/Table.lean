import Mathlib.Data.Int.Order.Basic
import Mathlib.Data.List.MinMax
import Mathlib.Data.List.Nodup

/-
  Tables as lists of rows in the order of insertion, with
  inserts that skip a row on a conflict and fail when a row
  breaks a constraint, and the row of the largest number.

  Main declarations:
    * `Table.insertRow`
    * `Table.insertRows`
    * `Table.insertRow_cases`
-/

--------
-- Inserting One Row
--------

namespace Table

variable {ρ ε : Type}

/-
  The constraints of a table: the checks on a row alone, the
  conflicts on which an insert is skipped, and the keys that
  two rows must not share.
-/
structure Constraints (ρ ε : Type) where
  check : ρ → Option ε
  conflicts : ρ → ρ → Bool
  violates : ρ → ρ → Option ε

/- The first constraint that a row breaks in a table. -/
def Constraints.violation
    (c : Constraints ρ ε)
    (table : List ρ)
    (row : ρ) :
    Option ε :=
  table.findSome? (c.violates row)

/- Some row of the table conflicts with the row. -/
def Constraints.conflict
    (c : Constraints ρ ε)
    (table : List ρ)
    (row : ρ) :
    Bool :=
  table.any (c.conflicts row)

/-
  `INSERT … ON CONFLICT DO NOTHING` of one row. The checks on
  the row come first, then the conflicts, then the keys. The
  flag tells whether the row was inserted.
-/
def insertRow
    (c : Constraints ρ ε)
    (table : List ρ)
    (row : ρ) :
    Except ε (List ρ × Bool) :=
  match c.check row with
  | some broken => .error broken
  | none =>
      if c.conflict table row then
        .ok (table, false)
      else
        match c.violation table row with
        | some broken => .error broken
        | none => .ok (table ++ [row], true)

/- An insert skips the row or puts it at the end. -/
theorem insertRow_cases
    {c : Constraints ρ ε}
    {table table' : List ρ}
    {row : ρ}
    {inserted : Bool}
    (hInsert : insertRow c table row = .ok (table', inserted)) :
    (inserted = false ∧ c.conflict table row = true ∧
        table' = table) ∨
      (inserted = true ∧ c.conflict table row = false ∧
        c.violation table row = none ∧
        table' = table ++ [row]) := by
  unfold insertRow at hInsert
  cases hCheck : c.check row with
  | some broken => simp [hCheck] at hInsert
  | none =>
      simp only [hCheck] at hInsert
      by_cases hConflict : c.conflict table row = true
      · simp only [hConflict, if_true, Except.ok.injEq,
          Prod.mk.injEq] at hInsert
        exact Or.inl
          ⟨hInsert.2.symm, hConflict, hInsert.1.symm⟩
      · simp only [hConflict] at hInsert
        cases hKeys : c.violation table row with
        | some broken => simp [hKeys] at hInsert
        | none =>
            simp only [hKeys, Bool.false_eq_true, if_false,
              Except.ok.injEq, Prod.mk.injEq] at hInsert
            exact Or.inr
              ⟨hInsert.2.symm, by simpa using hConflict, rfl,
                hInsert.1.symm⟩

end Table

--------
-- Inserting Many Rows
--------

namespace Table

variable {ρ ε : Type}

/-
  Rows inserted in turn: the table after them, and the rows
  that were not skipped.
-/
def insertRows
    (c : Constraints ρ ε)
    (table : List ρ) :
    List ρ → Except ε (List ρ × List ρ)
| [] => .ok (table, [])
| row :: rest =>
    match insertRow c table row with
    | .error broken => .error broken
    | .ok (table', inserted) =>
        match insertRows c table' rest with
        | .error broken => .error broken
        | .ok (final, kept) =>
            .ok (final, if inserted then row :: kept else kept)

variable {c : Constraints ρ ε}

theorem insertRows_nil
    {table final kept : List ρ}
    (hInsert : insertRows c table [] = .ok (final, kept)) :
    table = final ∧ [] = kept :=
  Prod.mk.inj (Except.ok.inj hInsert)

/- One row inserted and the rest after it. -/
theorem insertRows_cons
    {table final kept : List ρ}
    {row : ρ}
    {rest : List ρ}
    (hInsert :
      insertRows c table (row :: rest) = .ok (final, kept)) :
    ∃ table' inserted kept',
      insertRow c table row = .ok (table', inserted) ∧
        insertRows c table' rest = .ok (final, kept') ∧
        kept = if inserted then row :: kept' else kept' := by
  rw [insertRows] at hInsert
  cases hRow : insertRow c table row with
  | error broken => simp [hRow] at hInsert
  | ok out =>
      rcases out with ⟨table', inserted⟩
      simp only [hRow] at hInsert
      cases hRest : insertRows c table' rest with
      | error broken => simp [hRest] at hInsert
      | ok out =>
          rcases out with ⟨final', kept'⟩
          simp only [hRest, Except.ok.injEq,
            Prod.mk.injEq] at hInsert
          refine ⟨table', inserted, kept', rfl, ?_,
            hInsert.2.symm⟩
          rw [hRest, hInsert.1]

/- The table grows by the rows that were kept. -/
theorem insertRows_append
    {table final kept rows : List ρ}
    (hInsert : insertRows c table rows = .ok (final, kept)) :
    final = table ++ kept := by
  induction rows generalizing table kept with
  | nil =>
      rcases insertRows_nil hInsert with ⟨rfl, rfl⟩
      rw [List.append_nil]
  | cons row rest ih =>
      rcases insertRows_cons hInsert with
        ⟨table', inserted, kept', hRow, hRest, hKept⟩
      have hFinal := ih hRest
      rcases insertRow_cases hRow with
        ⟨hIns, -, hTable⟩ | ⟨hIns, -, -, hTable⟩
      · simp [hFinal, hTable, hKept, hIns]
      · simp [hFinal, hTable, hKept, hIns]

/- The rows kept are some of the rows given, in order. -/
theorem insertRows_sublist
    {table final kept rows : List ρ}
    (hInsert : insertRows c table rows = .ok (final, kept)) :
    kept.Sublist rows := by
  induction rows generalizing table kept with
  | nil => rw [← (insertRows_nil hInsert).2]
  | cons row rest ih =>
      rcases insertRows_cons hInsert with
        ⟨table', inserted, kept', -, hRest, hKept⟩
      rw [hKept]
      cases inserted with
      | true => exact (ih hRest).cons_cons row
      | false => exact (ih hRest).cons row

variable {κ : Type} {key : ρ → κ}

/- A key that two rows must not share stays distinct. -/
theorem nodup_insertRows
    (hKey :
      ∀ row other, c.violates row other = none →
        key row ≠ key other)
    {table final kept rows : List ρ}
    (hTable : (table.map key).Nodup)
    (hInsert : insertRows c table rows = .ok (final, kept)) :
    (final.map key).Nodup := by
  induction rows generalizing table kept with
  | nil =>
      rw [← (insertRows_nil hInsert).1]
      exact hTable
  | cons row rest ih =>
      rcases insertRows_cons hInsert with
        ⟨table', inserted, kept', hRow, hRest, -⟩
      refine ih ?_ hRest
      rcases insertRow_cases hRow with
        ⟨-, -, hSame⟩ | ⟨-, -, hViolation, hNew⟩
      · rw [hSame]
        exact hTable
      · rw [hNew, List.map_append, List.map_singleton,
          List.nodup_append]
        refine ⟨hTable, List.nodup_singleton _, ?_⟩
        intro k hOld k' hLast hEq
        rw [List.mem_singleton.mp hLast] at hEq
        rcases List.mem_map.mp hOld with ⟨other, hMem, hOther⟩
        rw [Constraints.violation,
          List.findSome?_eq_none_iff] at hViolation
        exact hKey row other (hViolation other hMem)
          (hOther.trans hEq).symm

/- A choice of rows by a key holds one row. -/
theorem filter_of_nodup
    {rows : List ρ}
    {row : ρ}
    {choose : ρ → Bool}
    (hKeys : (rows.map key).Nodup)
    (hRow : row ∈ rows)
    (hOwn : choose row = true)
    (hChoice :
      ∀ other, choose other = true → key other = key row) :
    rows.filter choose = [row] := by
  induction rows with
  | nil => simp at hRow
  | cons first rest ih =>
      rw [List.map_cons, List.nodup_cons] at hKeys
      rcases List.mem_cons.mp hRow with hFirst | hRest
      · rw [← hFirst] at hKeys ⊢
        rw [List.filter_cons_of_pos hOwn,
          List.filter_eq_nil_iff.mpr ?_]
        intro other hOther hSame
        apply hKeys.1
        rw [← hChoice other hSame]
        exact List.mem_map_of_mem hOther
      · rw [List.filter_cons_of_neg ?_, ih hKeys.2 hRest]
        intro hSame
        apply hKeys.1
        rw [hChoice first hSame]
        exact List.mem_map_of_mem hRest

/-
  Rows that conflict neither with a table nor with one
  another, when they are inserted in turn.
-/
structure Constraints.Free
    (c : Constraints ρ ε)
    (table rows : List ρ) : Prop where
  table : ∀ row ∈ rows, c.conflict table row = false
  rows :
    rows.Pairwise (fun row later => c.conflicts later row = false)

/- Free rows stay free as the first of them go in. -/
theorem Constraints.Free.append
    {table rows rows' : List ρ}
    (hFree : c.Free table (rows ++ rows')) :
    c.Free table rows ∧ c.Free (table ++ rows) rows' := by
  have hRows := List.pairwise_append.mp hFree.rows
  refine ⟨⟨fun row hRow => hFree.table row (by simp [hRow]),
    hRows.1⟩, ⟨?_, hRows.2.1⟩⟩
  intro row hRow
  have hTable := hFree.table row (by simp [hRow])
  unfold Constraints.conflict at hTable ⊢
  rw [List.any_append, hTable, Bool.false_or, List.any_eq_false]
  intro other hOther
  simpa using hRows.2.2 other hOther row hRow

theorem insertRows_of_free
    {table final kept rows : List ρ}
    (hFree : c.Free table rows)
    (hInsert : insertRows c table rows = .ok (final, kept)) :
    kept = rows := by
  induction rows generalizing table kept with
  | nil => exact (insertRows_nil hInsert).2.symm
  | cons row rest ih =>
      rcases insertRows_cons hInsert with
        ⟨table', inserted, kept', hRow, hRest, hKept⟩
      rcases insertRow_cases hRow with
        ⟨-, hConflict, -⟩ | ⟨hIns, -, -, hTable'⟩
      · rw [hFree.table row (by simp)] at hConflict
        simp at hConflict
      · have hLater : c.Free table' rest := by
          rw [hTable']
          exact (show c.Free table ([row] ++ rest) from hFree).append.2
        rw [hKept, hIns, ih hLater hRest]
        simp

/- A free row goes in before the rest. -/
theorem insertRows_cons_iff
    {table final kept : List ρ}
    {row : ρ}
    {rest : List ρ}
    (hFree : c.conflict table row = false) :
    insertRows c table (row :: rest) = .ok (final, kept) ↔
      insertRow c table row = .ok (table ++ [row], true) ∧
        ∃ kept',
          insertRows c (table ++ [row]) rest =
              .ok (final, kept') ∧
            kept = row :: kept' := by
  constructor
  · intro hInsert
    rcases insertRows_cons hInsert with
      ⟨table', inserted, kept', hRow, hRest, hKept⟩
    rcases insertRow_cases hRow with
      ⟨-, hConflict, -⟩ | ⟨hIns, -, -, hTable⟩
    · rw [hFree] at hConflict
      cases hConflict
    · rw [hTable] at hRest hRow
      rw [hIns] at hRow hKept
      exact ⟨hRow, kept', hRest, hKept⟩
  · rintro ⟨hRow, kept', hRest, rfl⟩
    simp only [insertRows, hRow, hRest, if_true]

theorem insertRows_rows_append
    {table : List ρ}
    {rows rows' : List ρ} :
    insertRows c table (rows ++ rows') =
      match insertRows c table rows with
      | .error broken => .error broken
      | .ok (table', kept) =>
          match insertRows c table' rows' with
          | .error broken => .error broken
          | .ok (final, kept') => .ok (final, kept ++ kept') := by
  induction rows generalizing table with
  | nil =>
      simp only [List.nil_append, insertRows]
      cases insertRows c table rows' <;> rfl
  | cons row rest ih =>
      simp only [List.cons_append, insertRows]
      cases insertRow c table row with
      | error broken => rfl
      | ok out =>
          rcases out with ⟨table', inserted⟩
          simp only [ih]
          cases insertRows c table' rest with
          | error broken => rfl
          | ok out =>
              rcases out with ⟨middle, kept⟩
              simp only
              cases insertRows c middle rows' with
              | error broken => rfl
              | ok out =>
                  cases inserted <;> rfl

end Table

--------
-- Chunks
--------

namespace Table

variable {α : Type}

/- Chunks of a list, for a number of chunks at most. -/
def takeChunks (size : Nat) : Nat → List α → List (List α)
| 0, _ => []
| _ + 1, [] => []
| count + 1, x :: rest =>
    (x :: rest).take size ::
      takeChunks size count ((x :: rest).drop size)

/- A list cut into chunks of a size. -/
def chunksOf (size : Nat) (xs : List α) : List (List α) :=
  takeChunks size xs.length xs

/- Chunks hold the list in order. -/
theorem flatten_chunksOf
    {size : Nat}
    (hSize : 0 < size)
    (xs : List α) :
    (chunksOf size xs).flatten = xs := by
  have hTake :
      ∀ (count : Nat) (ys : List α), ys.length ≤ count →
        (takeChunks size count ys).flatten = ys := by
    intro count
    induction count with
    | zero =>
        intro ys hLength
        have hNil : ys = [] :=
          List.length_eq_zero_iff.mp (by omega)
        rw [hNil]
        rfl
    | succ count ih =>
        intro ys hLength
        cases ys with
        | nil => rfl
        | cons y rest =>
            rw [takeChunks, List.flatten_cons, ih _ (by
              rw [List.length_drop]
              omega), List.take_append_drop]
  exact hTake xs.length xs (Nat.le_refl _)

end Table

--------
-- The Largest Row
--------

namespace Table

variable {ρ : Type*}

/-
  `ORDER BY … DESC LIMIT 1`: the row of the largest number.
  The order is given by name, since the whole library holds
  one on the integers that does not compute.
-/
def maxBy (f : ρ → Int) (rows : List ρ) : Option ρ :=
  @List.argmax ρ Int Int.instLinearOrder.toPreorder Int.decLt f
    rows

/- The first row against the largest of the rest. -/
theorem maxBy_cons
    (f : ρ → Int)
    (row : ρ)
    (rest : List ρ) :
    maxBy f (row :: rest) =
      (match maxBy f rest with
        | none => some row
        | some best =>
            if f row < f best then some best else some row) := by
  unfold maxBy
  rw [List.argmax_cons]
  cases List.argmax f rest <;> rfl

/- The last row against the largest before it. -/
theorem maxBy_concat
    (f : ρ → Int)
    (rows : List ρ)
    (row : ρ) :
    maxBy f (rows ++ [row]) =
      (match maxBy f rows with
        | none => some row
        | some best =>
            if f best < f row then some row else some best) := by
  unfold maxBy
  rw [List.argmax_concat]
  cases List.argmax f rows <;> rfl

variable {f : ρ → Int}

/- Only an empty table has no largest row. -/
theorem maxBy_eq_none
    {rows : List ρ} :
    maxBy f rows = none ↔ rows = [] :=
  List.argmax_eq_none

/- No number is larger than that of the largest row. -/
theorem le_of_maxBy
    {rows : List ρ}
    {row best : ρ}
    (hMem : row ∈ rows)
    (hBest : maxBy f rows = some best) :
    f row ≤ f best :=
  List.le_of_mem_argmax hMem hBest

/- The largest of some images is the image of the largest. -/
theorem maxBy_map
    {τ : Type*}
    (f : τ → Int)
    (g : ρ → τ)
    (rows : List ρ) :
    maxBy f (rows.map g) =
      (maxBy (fun row => f (g row)) rows).map g := by
  induction rows with
  | nil => rfl
  | cons row rest ih =>
      rw [List.map_cons, maxBy_cons, maxBy_cons, ih]
      cases maxBy (fun row => f (g row)) rest with
      | none => rfl
      | some best =>
          simp only [Option.map_some]
          split <;> rfl

end Table
