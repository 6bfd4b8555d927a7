import Mathlib.Data.List.Nodup

/-
  Tables of rows under distinct keys, and the statements that
  insert and update them.

  Main declarations:
    * `Keyed`
    * `Keyed.find`
    * `Keyed.find_add`
-/

--------
-- Tables
--------

/- Rows under keys, no key twice. -/
structure Keyed (κ ρ : Type) where
  rows : List (κ × ρ)
  nodup : (rows.map Prod.fst).Nodup

namespace Keyed

variable {κ ρ : Type}

def empty : Keyed κ ρ :=
  { rows := [], nodup := List.nodup_nil }

def keys (table : Keyed κ ρ) : List κ :=
  table.rows.map Prod.fst

variable [DecidableEq κ]

/- The row under a key. -/
def find (table : Keyed κ ρ) (key : κ) : Option ρ :=
  (table.rows.find? (fun row => row.1 = key)).map Prod.snd

variable {table : Keyed κ ρ}

/- A row is found under its key. -/
theorem find_eq_some_iff
    {key : κ}
    {row : ρ} :
    table.find key = some row ↔ (key, row) ∈ table.rows := by
  rw [find, Option.map_eq_some_iff]
  constructor
  · rintro ⟨found, hFound, hRow⟩
    have hKey : found.1 = key := by
      simpa using List.find?_some hFound
    rw [← hKey, ← hRow]
    exact List.mem_of_find?_eq_some hFound
  · intro hMem
    cases hFound :
        table.rows.find? (fun entry => entry.1 = key) with
    | none =>
        have hNone := List.find?_eq_none.mp hFound _ hMem
        simp at hNone
    | some found =>
        have hKey : found.1 = key := by
          simpa using List.find?_some hFound
        have hSame : found = (key, row) :=
          List.inj_on_of_nodup_map table.nodup
            (List.mem_of_find?_eq_some hFound) hMem hKey
        exact ⟨found, rfl, by rw [hSame]⟩

/- Nothing is found under a key that no row has. -/
theorem find_eq_none_iff
    {key : κ} :
    table.find key = none ↔ key ∉ table.keys := by
  rw [find, Option.map_eq_none_iff, List.find?_eq_none, keys,
    List.mem_map]
  constructor
  · rintro hNone ⟨row, hRow, hKey⟩
    exact hNone row hRow (by simpa using hKey)
  · intro hNot row hRow hKey
    exact hNot ⟨row, hRow, by simpa using hKey⟩

@[simp]
theorem find_empty
    (key : κ) :
    (empty : Keyed κ ρ).find key = none :=
  rfl

end Keyed

--------
-- Statements
--------

namespace Keyed

variable {κ ρ : Type} [DecidableEq κ]

/- A new row at the end; a key that is taken keeps its row. -/
def add (table : Keyed κ ρ) (key : κ) (row : ρ) : Keyed κ ρ :=
  if hTaken : key ∈ table.keys then
    table
  else
    { rows := table.rows ++ [(key, row)]
      nodup := by
        rw [List.map_append, List.nodup_append]
        refine ⟨table.nodup, by simp, ?_⟩
        intro other hOther key' hKey' hEq
        rw [List.map_singleton, List.mem_singleton] at hKey'
        rw [hEq, hKey'] at hOther
        exact hTaken hOther }

/- Every row is replaced by the one a function names. -/
def update (table : Keyed κ ρ) (f : κ → ρ → ρ) : Keyed κ ρ :=
  { rows := table.rows.map (fun row => (row.1, f row.1 row.2))
    nodup := by
      rw [List.map_map]
      exact table.nodup }

/- The row under a key is replaced. -/
def set (table : Keyed κ ρ) (key : κ) (f : ρ → ρ) :
    Keyed κ ρ :=
  table.update (fun other row =>
    if other = key then f row else row)

variable {table : Keyed κ ρ}

/- The rows after an insert under a free key. -/
theorem rows_add
    {key : κ}
    (hFree : key ∉ table.keys)
    (row : ρ) :
    (table.add key row).rows = table.rows ++ [(key, row)] := by
  rw [add, dif_neg hFree]

theorem find_add
    (table : Keyed κ ρ)
    (key other : κ)
    (row : ρ) :
    (table.add key row).find other =
      if other = key then
        some ((table.find key).getD row)
      else
        table.find other := by
  unfold add
  split
  · rename_i hTaken
    split
    · rename_i hSame
      rw [hSame]
      cases hFind : table.find key with
      | none =>
          exact absurd hTaken (Iff.mp find_eq_none_iff hFind)
      | some found => rfl
    · rfl
  · rename_i hFree
    have hNone := Iff.mpr find_eq_none_iff hFree
    split
    · rename_i hSame
      rw [hSame, hNone]
      apply find_eq_some_iff.mpr
      simp
    · rename_i hOther
      rw [find, find, List.find?_append]
      have hNot :
          [(key, row)].find? (fun entry => entry.1 = other) =
            none := by
        simp [Ne.symm hOther]
      rw [hNot, Option.or_none]

/- An insert under a key that is taken does nothing. -/
theorem add_eq_self
    {key : κ}
    {taken : ρ}
    (hTaken : table.find key = some taken)
    (row : ρ) :
    table.add key row = table := by
  have hMem : key ∈ table.keys := by
    by_contra hFree
    rw [Iff.mpr find_eq_none_iff hFree] at hTaken
    cases hTaken
  exact dif_pos hMem

variable {key other : κ}

/- A row after an insert under a free key. -/
theorem find_add_eq_some
    {row found : ρ}
    (hFree : table.find key = none) :
    (table.add key row).find other = some found ↔
      (other = key ∧ found = row) ∨
        table.find other = some found := by
  rw [find_add]
  split
  · rename_i hSame
    rw [hSame, hFree, Option.getD_none, Option.some.injEq]
    constructor
    · intro hRow
      exact .inl ⟨rfl, hRow.symm⟩
    · rintro (⟨-, hRow⟩ | hFound)
      · exact hRow.symm
      · cases hFound
  · rename_i hOther
    simp [hOther]

/- After an update. -/
@[simp]
theorem find_update
    (table : Keyed κ ρ)
    (f : κ → ρ → ρ)
    (key : κ) :
    (table.update f).find key = (table.find key).map (f key) := by
  cases hFind : table.find key with
  | none =>
      rw [Option.map_none, find_eq_none_iff]
      have hKeys : (table.update f).keys = table.keys := by
        unfold update keys
        rw [List.map_map]
        rfl
      rw [hKeys]
      exact Iff.mp find_eq_none_iff hFind
  | some row =>
      rw [Option.map_some, find_eq_some_iff]
      exact List.mem_map.mpr
        ⟨(key, row), find_eq_some_iff.mp hFind, rfl⟩

/- After an update of one row. -/
theorem find_set
    (table : Keyed κ ρ)
    (key other : κ)
    (f : ρ → ρ) :
    (table.set key f).find other =
      if other = key then (table.find other).map f
      else table.find other := by
  rw [set, find_update]
  split
  · rfl
  · cases table.find other <;> rfl

/- A row after an update of one row. -/
theorem find_set_eq_some
    {f : ρ → ρ}
    {row : ρ} :
    (table.set key f).find other = some row ↔
      ∃ before, table.find other = some before ∧
        row = if other = key then f before else before := by
  rw [find_set]
  split
  · rw [Option.map_eq_some_iff]
    constructor
    · rintro ⟨before, hFind, hRow⟩
      exact ⟨before, hFind, hRow.symm⟩
    · rintro ⟨before, hFind, hRow⟩
      exact ⟨before, hFind, hRow.symm⟩
  · constructor
    · intro hFind
      exact ⟨row, hFind, rfl⟩
    · rintro ⟨before, hFind, rfl⟩
      exact hFind

end Keyed

--------
-- Changed Keys
--------

namespace Keyed

variable {κ ρ : Type} [DecidableEq κ]

/- A row gets another key; a key that is taken keeps it. -/
def rekey (table : Keyed κ ρ) (key key' : κ) : Keyed κ ρ :=
  if hTaken : key' ∈ table.keys then
    table
  else
    { rows := table.rows.map (fun row =>
        (if row.1 = key then key' else row.1, row.2))
      nodup := by
        rw [List.map_map]
        apply List.Nodup.map_on ?_
          (List.Nodup.of_map Prod.fst table.nodup)
        intro row hRow row' hRow' hEq
        simp only [Function.comp_apply] at hEq
        apply List.inj_on_of_nodup_map table.nodup hRow hRow'
        have hNe : ∀ other ∈ table.rows, other.1 ≠ key' := by
          intro other hOther hKey
          exact hTaken
            (hKey ▸ List.mem_map_of_mem (f := Prod.fst) hOther)
        split at hEq <;> split at hEq
        · rename_i hKey hKey'
          rw [hKey, hKey']
        · exact absurd hEq.symm (hNe row' hRow')
        · exact absurd hEq (hNe row hRow)
        · exact hEq }

/- A row after one row got a free key. -/
theorem find_rekey_eq_some
    {table : Keyed κ ρ}
    {key key' other : κ}
    {row : ρ}
    (hFree : table.find key' = none)
    (hFind : (table.rekey key key').find other = some row) :
    (other = key' ∧ table.find key = some row) ∨
      (other ≠ key ∧ table.find other = some row) := by
  rw [find_eq_some_iff, rekey,
    dif_neg (Iff.mp find_eq_none_iff hFree), List.mem_map]
    at hFind
  rcases hFind with ⟨found, hMem, hEq⟩
  rw [Prod.mk.injEq] at hEq
  rcases hEq with ⟨hKey, rfl⟩
  split at hKey
  · rename_i hSame
    left
    refine ⟨hKey.symm, find_eq_some_iff.mpr ?_⟩
    rw [← hSame]
    exact hMem
  · rename_i hOther
    right
    rw [← hKey]
    exact ⟨hOther, find_eq_some_iff.mpr hMem⟩

end Keyed
