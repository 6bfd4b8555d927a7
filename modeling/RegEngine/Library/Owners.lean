import Mathlib.Data.List.Nodup

/-
  Tables of keys that each belong to one owner, and the
  statements that give keys to other owners.

  Main declarations:
    * `Owners`
    * `Owners.Holds`
    * `Owners.reassign`
-/

--------
-- Tables Of Owners
--------

/- Rows of an owner and a key, no key in two of them. -/
structure Owners (ο κ : Type) where
  rows : List (ο × κ)
  unique : (rows.map Prod.snd).Nodup

namespace Owners

variable {ο κ : Type} {table : Owners ο κ}

def empty : Owners ο κ :=
  { rows := [], unique := List.nodup_nil }

def keys (table : Owners ο κ) : List κ :=
  table.rows.map Prod.snd

/- An owner has a key. -/
def Holds (table : Owners ο κ) (owner : ο) (key : κ) : Prop :=
  (owner, key) ∈ table.rows

instance
    [DecidableEq ο]
    [DecidableEq κ]
    (table : Owners ο κ)
    (owner : ο)
    (key : κ) :
    Decidable (table.Holds owner key) := by
  unfold Holds
  infer_instance

/- A key has one owner at most. -/
theorem Holds.unique
    {owner other : ο}
    {key : κ}
    (hOwner : table.Holds owner key)
    (hOther : table.Holds other key) :
    owner = other := by
  have hRow :=
    List.inj_on_of_nodup_map table.unique hOwner hOther rfl
  exact congrArg Prod.fst hRow

/- A key stands in the table when someone has it. -/
theorem mem_keys_iff
    {key : κ} :
    key ∈ table.keys ↔ ∃ owner, table.Holds owner key := by
  unfold keys Holds
  rw [List.mem_map]
  constructor
  · rintro ⟨⟨owner, key'⟩, hRow, rfl⟩
    exact ⟨owner, hRow⟩
  · rintro ⟨owner, hRow⟩
    exact ⟨(owner, key), hRow, rfl⟩

/- Nobody has a key of the empty table. -/
theorem not_holds_empty
    (owner : ο)
    (key : κ) :
    ¬ (empty : Owners ο κ).Holds owner key := by
  simp [Holds, empty]

end Owners

--------
-- Statements
--------

namespace Owners

variable {ο κ : Type} {table : Owners ο κ}

/- A new key for an owner. -/
def add
    (table : Owners ο κ)
    (owner : ο)
    (key : κ)
    (hNew : key ∉ table.keys) :
    Owners ο κ :=
  { rows := table.rows ++ [(owner, key)]
    unique := by
      rw [List.map_append, List.nodup_append]
      refine ⟨table.unique, by simp, ?_⟩
      intro key' hKey' other hOther hEq
      rw [List.map_singleton, List.mem_singleton] at hOther
      rw [hEq, hOther] at hKey'
      exact hNew hKey' }

/- Every key goes to the owner a function names. -/
def reassign
    (table : Owners ο κ)
    (f : ο → κ → ο) :
    Owners ο κ :=
  { rows := table.rows.map (fun row => (f row.1 row.2, row.2))
    unique := by
      rw [List.map_map]
      exact table.unique }

/- The rows that a test keeps. -/
def keep
    (table : Owners ο κ)
    (test : ο → κ → Bool) :
    Owners ο κ :=
  { rows := table.rows.filter (fun row => test row.1 row.2)
    unique :=
      table.unique.sublist (List.filter_sublist.map _) }

/- After an insert: the new row and the rows before. -/
theorem holds_add
    {owner other : ο}
    {key key' : κ}
    (hNew : key ∉ table.keys) :
    (table.add owner key hNew).Holds other key' ↔
      table.Holds other key' ∨ other = owner ∧ key' = key := by
  simp [Holds, add]

variable {owner : ο}

/- After an update: the owners as the function names them. -/
theorem holds_reassign
    {f : ο → κ → ο}
    {key : κ} :
    (table.reassign f).Holds owner key ↔
      ∃ before, table.Holds before key ∧
        f before key = owner := by
  simp only [Holds, reassign, List.mem_map, Prod.mk.injEq,
    Prod.exists]
  constructor
  · rintro ⟨before, key', hRow, hOwner, rfl⟩
    exact ⟨before, hRow, hOwner⟩
  · rintro ⟨before, hRow, hOwner⟩
    exact ⟨before, key, hRow, hOwner, rfl⟩

/- After a delete: the rows that were kept. -/
theorem holds_keep
    {test : ο → κ → Bool}
    {key : κ} :
    (table.keep test).Holds owner key ↔
      table.Holds owner key ∧ test owner key = true := by
  simp [Holds, keep]

/- An update leaves the keys as they are. -/
@[simp]
theorem keys_reassign
    (f : ο → κ → ο) :
    (table.reassign f).keys = table.keys := by
  unfold keys reassign
  rw [List.map_map]
  rfl

end Owners
