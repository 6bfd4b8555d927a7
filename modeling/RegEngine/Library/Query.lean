import Mathlib.Data.List.Sort

/-
  Queries over tables: the sort of `ORDER BY`, which keeps the
  order of rows with one key, the outer join, and the cap of
  `LIMIT`.

  Main declarations:
    * `Query.orderBy`
    * `Query.leftJoin`
    * `Query.limit_eq`
-/

--------
-- Order And Limit
--------

namespace Query

variable {α β : Type}

/- `ORDER BY key`, ascending. -/
def orderBy (key : α → Int) (rows : List α) : List α :=
  rows.insertionSort (fun x y => key x ≤ key y)

/- `ORDER BY key DESC`. -/
def orderByDesc (key : α → Int) (rows : List α) : List α :=
  rows.insertionSort (fun x y => key y ≤ key x)

variable {key : α → Int}

/- A sort keeps the rows. -/
@[simp]
theorem mem_orderBy
    {rows : List α}
    {row : α} :
    row ∈ orderBy key rows ↔ row ∈ rows :=
  (List.perm_insertionSort _ rows).mem_iff

@[simp]
theorem mem_orderByDesc
    {rows : List α}
    {row : α} :
    row ∈ orderByDesc key rows ↔ row ∈ rows :=
  (List.perm_insertionSort _ rows).mem_iff

@[simp]
theorem length_orderBy
    (key : α → Int)
    (rows : List α) :
    (orderBy key rows).length = rows.length :=
  List.length_insertionSort _ rows

@[simp]
theorem length_orderByDesc
    (key : α → Int)
    (rows : List α) :
    (orderByDesc key rows).length = rows.length :=
  List.length_insertionSort _ rows

/- Below the cap `LIMIT` keeps every row. -/
theorem limit_eq
    {cap : Nat}
    {rows : List α}
    (hBelow : rows.length ≤ cap) :
    rows.take cap = rows :=
  List.take_of_length_le hBelow

end Query

--------
-- Joins
--------

namespace Query

variable {α β : Type}

/- `rows LEFT JOIN others ON on`. -/
def leftJoin
    (on : α → β → Bool)
    (rows : List α)
    (others : List β) : List (α × Option β) :=
  rows.flatMap (fun row =>
    match others.filter (on row) with
    | [] => [(row, none)]
    | found => found.map (fun other => (row, some other)))

/- The left rows of an outer join are all the rows. -/
theorem exists_mem_leftJoin
    {on : α → β → Bool}
    {rows : List α}
    {others : List β}
    {row : α} :
    (∃ other, (row, other) ∈ leftJoin on rows others) ↔
      row ∈ rows := by
  unfold leftJoin
  constructor
  · rintro ⟨other, hMem⟩
    rcases List.mem_flatMap.mp hMem with ⟨left, hLeft, hPair⟩
    cases hFound : others.filter (on left) with
    | nil =>
      rw [hFound] at hPair
      rw [(Prod.mk.inj (List.mem_singleton.mp hPair)).1]
      exact hLeft
    | cons first rest =>
      rw [hFound] at hPair
      rcases List.mem_map.mp hPair with ⟨found, -, hEq⟩
      rw [← (Prod.mk.inj hEq).1]
      exact hLeft
  · intro hRow
    cases hFound : others.filter (on row) with
    | nil =>
      refine ⟨none, List.mem_flatMap.mpr ⟨row, hRow, ?_⟩⟩
      rw [hFound]
      exact List.mem_singleton_self _
    | cons first rest =>
      refine ⟨some first,
        List.mem_flatMap.mpr ⟨row, hRow, ?_⟩⟩
      rw [hFound]
      exact List.mem_cons_self

end Query

--------
-- Patterns
--------

namespace Query

/-
  `text LIKE pattern`: `%` stands for any text, `_` for one
  character, and a backslash for the character after it.
-/
def like : List Char → List Char → Bool
| [], text => text.isEmpty
| '%' :: rest, text => text.tails.any (like rest)
| '_' :: _, [] => false
| '_' :: rest, _ :: text => like rest text
| '\\' :: c :: rest, d :: text => c == d && like rest text
| _ :: _, [] => false
| c :: rest, d :: text => c == d && like rest text

example :
    like "%1001%".toList "LOT-1001-A".toList = true := by
  decide

end Query
