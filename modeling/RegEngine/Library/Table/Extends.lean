import RegEngine.Library.Table

/-
  Tables that only grow: the rows stay in their order, each as
  it was or changed in an allowed way, and new rows come after
  them.

  Main declarations:
    * `Table.Extends`
    * `Table.Extends.trans`
    * `Table.Extends.filter_eq`
-/

--------
-- Growing Tables
--------

namespace Table

variable {ρ : Type}

/-
  A table goes on from another: it starts with the rows of the
  other, each with what became of it, and has new rows then.
-/
inductive Extends
    (Kept : ρ → ρ → Prop)
    (Added : ρ → Prop) : List ρ → List ρ → Prop
  | added {added : List ρ} :
      (∀ row ∈ added, Added row) → Extends Kept Added [] added
  | kept {row row' : ρ} {rows rows' : List ρ} :
      Kept row row' →
        Extends Kept Added rows rows' →
          Extends Kept Added (row :: rows) (row' :: rows')

variable {Kept : ρ → ρ → Prop} {Added : ρ → Prop}
variable {rows rows' rows'' : List ρ}

/- A table whose rows are changed one by one. -/
theorem Extends.of_map
    {change : ρ → ρ}
    (hChange : ∀ row, Kept row (change row)) :
    Extends Kept Added rows (rows.map change) := by
  induction rows with
  | nil => exact .added (by simp)
  | cons row rest ih => exact .kept (hChange row) ih

/- Rows put at the end of a table. -/
theorem Extends.of_append
    {added : List ρ}
    (hKept : ∀ row, Kept row row)
    (hAdded : ∀ row ∈ added, Added row) :
    Extends Kept Added rows (rows ++ added) := by
  induction rows with
  | nil => exact .added hAdded
  | cons row rest ih => exact .kept (hKept row) ih

theorem Extends.refl
    (hKept : ∀ row, Kept row row)
    (rows : List ρ) :
    Extends Kept Added rows rows := by
  induction rows with
  | nil => exact .added (by simp)
  | cons row rest ih => exact .kept (hKept row) ih

/- Rows that are new stay new as the table grows. -/
theorem Extends.forall_added
    (hStays : ∀ {a b}, Added a → Kept a b → Added b)
    (hExtends : Extends Kept Added rows rows')
    (hRows : ∀ row ∈ rows, Added row) :
    ∀ row ∈ rows', Added row := by
  induction hExtends with
  | added hAdded => exact hAdded
  | kept hKept _ ih =>
      rw [List.forall_mem_cons] at hRows ⊢
      exact ⟨hStays hRows.1 hKept, ih hRows.2⟩

/- Growing once more is growing. -/
theorem Extends.trans
    (hTrans : ∀ {a b c}, Kept a b → Kept b c → Kept a c)
    (hStays : ∀ {a b}, Added a → Kept a b → Added b)
    (hFirst : Extends Kept Added rows rows')
    (hSecond : Extends Kept Added rows' rows'') :
    Extends Kept Added rows rows'' := by
  induction hFirst generalizing rows'' with
  | added hAdded =>
      exact .added (hSecond.forall_added hStays hAdded)
  | kept hKept _ ih =>
      cases hSecond with
      | kept hLater hRest =>
          exact .kept (hTrans hKept hLater) (ih hRest)

/- Rows that never change are the start of the table. -/
theorem Extends.isPrefix
    (hExtends : Extends Eq Added rows rows') :
    rows <+: rows' := by
  induction hExtends with
  | added _ => exact List.nil_prefix
  | kept hKept _ ih =>
      rw [hKept]
      exact List.cons_prefix_cons.mpr ⟨rfl, ih⟩

/- Every row keeps its place. -/
theorem Extends.getElem?_eq_some
    {index : Nat}
    {row : ρ}
    (hExtends : Extends Kept Added rows rows')
    (hRow : rows[index]? = some row) :
    ∃ row', rows'[index]? = some row' ∧ Kept row row' := by
  induction hExtends generalizing index with
  | added _ => cases hRow
  | @kept first first' _ _ hFirst _ ih =>
      cases index with
      | zero =>
          rw [List.getElem?_cons_zero, Option.some.injEq] at hRow
          exact ⟨first', rfl, hRow ▸ hFirst⟩
      | succ index => exact ih hRow

variable {choose : ρ → Bool}

/- A choice that no change and no new row is in stays. -/
theorem Extends.filter_eq
    (hKept :
      ∀ {a b}, Kept a b → choose a = choose b ∧
        (choose a = true → b = a))
    (hAdded : ∀ {a}, Added a → choose a = false)
    (hExtends : Extends Kept Added rows rows') :
    rows'.filter choose = rows.filter choose := by
  induction hExtends with
  | added hNew =>
      rw [List.filter_nil, List.filter_eq_nil_iff]
      intro row hRow
      simp [hAdded (hNew row hRow)]
  | kept hRow _ ih =>
      rcases hKept hRow with ⟨hSame, hEq⟩
      rw [List.filter_cons, List.filter_cons, ih, ← hSame]
      split
      · rename_i hChosen
        rw [hEq hChosen]
      · rfl

/- The first row of a kind is still the first. -/
theorem Extends.find?_eq_some
    {row : ρ}
    (hKept : ∀ {a b}, Kept a b → choose a = choose b)
    (hExtends : Extends Kept Added rows rows')
    (hFind : rows.find? choose = some row) :
    ∃ row', Kept row row' ∧ rows'.find? choose = some row' := by
  induction hExtends with
  | added _ => cases hFind
  | @kept first first' _ _ hFirst _ ih =>
      rw [List.find?_cons] at hFind ⊢
      rw [← hKept hFirst]
      cases hChosen : choose first with
      | true =>
          simp only [hChosen, Option.some.injEq] at hFind
          exact ⟨first', hFind ▸ hFirst, rfl⟩
      | false =>
          simp only [hChosen] at hFind
          exact ih hFind

end Table
