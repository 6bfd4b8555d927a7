import Mathlib.Data.List.Nodup
import Mathlib.Data.List.Sort
import Mathlib.Logic.Function.Basic

/-
  Rows grouped by a key, the groups in the order of their
  first rows, and tables whose entries are made on demand.

  Main declarations:
    * `Grouping.distinct`
    * `Grouping.groupBy`
    * `DefaultTable.view_changeEach`
-/

--------
-- Distinct Values
--------

namespace Grouping

variable {α κ : Type} [DecidableEq κ]

/- The values of a list, each where it first occurs. -/
def distinct : List κ → List κ
| [] => []
| x :: rest => x :: (distinct rest).filter (fun y => y ≠ x)

/- The distinct values are the values. -/
@[simp]
theorem mem_distinct
    {values : List κ}
    {x : κ} :
    x ∈ distinct values ↔ x ∈ values := by
  induction values with
  | nil => rfl
  | cons y rest ih =>
    rw [distinct, List.mem_cons, List.mem_cons, List.mem_filter,
      ih]
    by_cases hSame : x = y
    · simp [hSame]
    · simp [hSame]

/- The distinct values do not repeat. -/
theorem nodup_distinct
    (values : List κ) :
    (distinct values).Nodup := by
  induction values with
  | nil => exact List.nodup_nil
  | cons y rest ih =>
    rw [distinct, List.nodup_cons]
    refine ⟨?_, ih.filter _⟩
    intro hMem
    have hNe := (List.mem_filter.mp hMem).2
    rw [decide_eq_true_eq] at hNe
    exact hNe rfl

end Grouping

--------
-- Groups
--------

namespace Grouping

variable {α κ : Type} [DecidableEq κ]

/- The rows of each key, the keys as they first occur. -/
def groupBy (key : α → κ) (rows : List α) :
    List (κ × List α) :=
  (distinct (rows.map key)).map (fun k =>
    (k, rows.filter (fun row => key row = k)))

variable {key : α → κ}

/- A group is the rows of a key that occurs. -/
theorem mem_groupBy
    {rows : List α}
    {group : κ × List α} :
    group ∈ groupBy key rows ↔
      (∃ row ∈ rows, key row = group.1) ∧
        group.2 = rows.filter (fun row => key row = group.1) := by
  unfold groupBy
  rw [List.mem_map]
  constructor
  · rintro ⟨k, hMem, rfl⟩
    rw [mem_distinct, List.mem_map] at hMem
    exact ⟨hMem, rfl⟩
  · rintro ⟨hKey, hRows⟩
    refine ⟨group.1, ?_, ?_⟩
    · rw [mem_distinct, List.mem_map]
      exact hKey
    · rw [← hRows]

theorem nodup_keys_groupBy
    (key : α → κ)
    (rows : List α) :
    ((groupBy key rows).map Prod.fst).Nodup := by
  unfold groupBy
  rw [List.map_map]
  change ((distinct (rows.map key)).map id).Nodup
  rw [List.map_id]
  exact nodup_distinct _

variable {group : κ × List α}

theorem mem_of_mem_groupBy
    {rows : List α}
    (hGroup : group ∈ groupBy key rows)
    {row : α} :
    row ∈ group.2 ↔ row ∈ rows ∧ key row = group.1 := by
  rw [(Iff.mp mem_groupBy hGroup).2, List.mem_filter,
    decide_eq_true_eq]

theorem ne_nil_of_mem_groupBy
    {rows : List α}
    (hGroup : group ∈ groupBy key rows) :
    group.2 ≠ [] := by
  rcases (Iff.mp mem_groupBy hGroup).1 with ⟨row, hRow, hKey⟩
  exact List.ne_nil_of_mem
    ((mem_of_mem_groupBy hGroup).mpr ⟨hRow, hKey⟩)

theorem exists_group
    (key : α → κ)
    {rows : List α}
    {row : α}
    (hRow : row ∈ rows) :
    ∃ group ∈ groupBy key rows,
      group.1 = key row ∧ row ∈ group.2 := by
  refine ⟨(key row, rows.filter (fun other =>
    key other = key row)), ?_, rfl, ?_⟩
  · exact Iff.mpr mem_groupBy ⟨⟨row, hRow, rfl⟩, rfl⟩
  · rw [List.mem_filter, decide_eq_true_eq]
    exact ⟨hRow, rfl⟩

/- Values that do not repeat are their distinct values. -/
theorem distinct_of_nodup
    {values : List κ}
    (hNodup : values.Nodup) :
    distinct values = values := by
  induction values with
  | nil => rfl
  | cons x rest ih =>
    rw [List.nodup_cons] at hNodup
    rw [distinct, ih hNodup.2, List.filter_eq_self.mpr]
    intro y hY
    apply decide_eq_true
    rintro rfl
    exact hNodup.1 hY

/- Rows of which no two share a key are a group each. -/
theorem groupBy_of_nodup
    {rows : List α}
    (hNodup : (rows.map key).Nodup) :
    groupBy key rows = rows.map (fun row => (key row, [row])) := by
  unfold groupBy
  rw [distinct_of_nodup hNodup, List.map_map]
  apply List.map_congr_left
  intro row hRow
  have hOnly :
      rows.filter (fun other => key other = key row) = [row] := by
    induction rows with
    | nil => cases hRow
    | cons first rest ih =>
      rw [List.map_cons, List.nodup_cons] at hNodup
      rcases List.mem_cons.mp hRow with rfl | hRest
      · rw [List.filter_cons_of_pos (by simp)]
        congr 1
        rw [List.filter_eq_nil_iff]
        intro other hOther hSame
        apply hNodup.1
        rw [← of_decide_eq_true hSame]
        exact List.mem_map_of_mem hOther
      · rw [List.filter_cons_of_neg, ih hNodup.2 hRest]
        intro hSame
        apply hNodup.1
        rw [of_decide_eq_true hSame]
        exact List.mem_map_of_mem hRest
  change (key row, _) = (key row, [row])
  rw [hOnly]

end Grouping

--------
-- Rows In Another Order
--------

namespace Grouping

variable {α κ γ : Type} [DecidableEq κ]

/- Values in another order have the same distinct values. -/
theorem distinct_perm
    {values others : List κ}
    (hPerm : values.Perm others) :
    (distinct values).Perm (distinct others) := by
  rw [List.perm_ext_iff_of_nodup (nodup_distinct _)
    (nodup_distinct _)]
  intro x
  rw [mem_distinct, mem_distinct]
  exact hPerm.mem_iff

/-
  What is made of each group is the same for rows in another
  order, where it does not depend on the order in a group.
-/
theorem map_groupBy_perm
    (key : α → κ)
    (make : κ → List α → γ)
    {rows others : List α}
    (hPerm : rows.Perm others)
    (hMake : ∀ k,
      make k (rows.filter (fun row => key row = k)) =
        make k (others.filter (fun row => key row = k))) :
    ((groupBy key rows).map (fun group =>
        make group.1 group.2)).Perm
      ((groupBy key others).map (fun group =>
        make group.1 group.2)) := by
  unfold groupBy
  rw [List.map_map, List.map_map]
  have hKeys := (distinct_perm (hPerm.map key)).map (fun k =>
    make k (rows.filter (fun row => key row = k)))
  simp only [hMake] at hKeys
  have hFirst : (distinct (rows.map key)).map
        ((fun group : κ × List α => make group.1 group.2) ∘
          fun k => (k, rows.filter (fun row => key row = k))) =
      (distinct (rows.map key)).map (fun k =>
        make k (others.filter (fun row => key row = k))) := by
    apply List.map_congr_left
    intro k _
    exact hMake k
  rw [hFirst]
  exact hKeys

end Grouping

--------
-- Sorted Rows
--------

namespace Grouping

variable {α : Type} {le : α → α → Prop} [DecidableRel le]

/-
  Sorting keeps the order of what compares equal: where every
  row has a relation to those behind it, a sorted row has it to
  those behind it that it does not precede.
-/
theorem stable_insertionSort
    [Std.Total le]
    [IsTrans α le]
    {before : α → α → Prop}
    {rows : List α}
    (hRows : rows.Pairwise before) :
    (rows.insertionSort le).Pairwise (fun x y =>
      le x y ∧ (le y x → before x y)) := by
  have hInsert : ∀ (sorted : List α) (x : α),
      sorted.Pairwise (fun x y =>
        le x y ∧ (le y x → before x y)) →
      (∀ y ∈ sorted, before x y) →
        (sorted.orderedInsert le x).Pairwise (fun x y =>
          le x y ∧ (le y x → before x y)) := by
    intro sorted
    induction sorted with
    | nil => exact fun x _ _ => List.pairwise_singleton _ x
    | cons first rest ih =>
      intro x hSorted hBefore
      have hParts := List.pairwise_cons.mp hSorted
      by_cases hFirst : le x first
      · rw [List.orderedInsert_cons_of_le _ _ hFirst]
        refine List.pairwise_cons.mpr ⟨?_, hSorted⟩
        intro y hY
        refine ⟨?_, fun _ => hBefore y hY⟩
        rcases List.mem_cons.mp hY with rfl | hRest
        · exact hFirst
        · exact IsTrans.trans x first y hFirst
            (hParts.1 y hRest).1
      · rw [List.orderedInsert_of_not_le _ _ hFirst]
        refine List.pairwise_cons.mpr ⟨?_, ih x hParts.2
          (fun y hY => hBefore y (List.mem_cons_of_mem _ hY))⟩
        intro y hY
        rcases List.mem_cons.mp
            ((List.perm_orderedInsert le x rest).mem_iff.mp hY)
          with rfl | hRest
        · refine ⟨(Std.Total.total first y).resolve_right
            hFirst, fun hLe => absurd hLe hFirst⟩
        · exact hParts.1 y hRest
  induction rows with
  | nil => exact List.Pairwise.nil
  | cons x rest ih =>
    rw [List.pairwise_cons] at hRows
    rw [List.insertionSort_cons]
    apply hInsert _ _ (ih hRows.2)
    intro y hY
    exact hRows.1 y ((List.perm_insertionSort le rest).mem_iff.mp
      hY)

end Grouping

--------
-- Neighbours
--------

namespace Grouping

variable {α : Type}

/-
  Where each member of a list is equivalent to the next one,
  all members are equivalent.
-/
theorem related_of_neighbours
    {R : α → α → Prop}
    (hEquivalence : Equivalence R)
    {members : List α}
    (hNext :
      ∀ pair ∈ members.zip members.tail, R pair.1 pair.2)
    {x y : α}
    (hX : x ∈ members)
    (hY : y ∈ members) :
    R x y := by
  have hFirst : ∀ (rest : List α) (first : α),
      (∀ pair ∈ (first :: rest).zip rest, R pair.1 pair.2) →
        ∀ z ∈ first :: rest, R first z := by
    intro rest
    induction rest with
    | nil =>
      intro first hNext z hZ
      rw [List.mem_singleton.mp hZ]
      exact hEquivalence.refl first
    | cons second rest ih =>
      intro first hNext z hZ
      rw [List.zip_cons_cons, List.forall_mem_cons] at hNext
      rcases List.mem_cons.mp hZ with rfl | hLater
      · exact hEquivalence.refl z
      · exact hEquivalence.trans hNext.1
          (ih second hNext.2 z hLater)
  cases members with
  | nil => cases hX
  | cons first rest =>
    exact hEquivalence.trans
      (hEquivalence.symm (hFirst rest first hNext x hX))
      (hFirst rest first hNext y hY)

end Grouping

--------
-- All Or Nothing
--------

namespace Grouping

variable {α β : Type}

/- All values of a partial function, when each is there. -/
theorem mapM_eq_some
    {f : α → Option β}
    {xs : List α}
    {ys : List β} :
    xs.mapM f = some ys ↔ xs.map f = ys.map some := by
  induction xs generalizing ys with
  | nil =>
    rw [List.mapM_nil, List.map_nil]
    constructor
    · intro hNil
      rw [← Option.some.inj hNil]
      rfl
    · intro hNil
      rw [List.map_eq_nil_iff.mp hNil.symm]
      rfl
  | cons x rest ih =>
    rw [List.mapM_cons, List.map_cons]
    cases hX : f x with
    | none => cases ys <;> simp
    | some y =>
      cases hRest : rest.mapM f with
      | none =>
        cases ys with
        | nil => simp
        | cons first others =>
          have hNot : rest.map f ≠ others.map some := by
            intro hMap
            rw [ih.mpr hMap] at hRest
            cases hRest
          simp [hNot]
      | some others =>
        have hOthers := ih.mp hRest
        cases ys with
        | nil => simp
        | cons first more =>
          have hSame : others = more ↔
              others.map some = more.map some :=
            (List.map_inj_right
              (fun _ _ => Option.some.inj)).symm
          simp [hOthers, hSame]

/- A value is missing, or all are there. -/
theorem mapM_cases
    (f : α → Option β)
    (xs : List α) :
    (∃ ys, xs.mapM f = some ys) ∨ ∃ x ∈ xs, f x = none := by
  by_cases hMissing : ∃ x ∈ xs, f x = none
  · exact Or.inr hMissing
  · left
    push Not at hMissing
    induction xs with
    | nil => exact ⟨[], rfl⟩
    | cons x rest ih =>
      rcases Option.ne_none_iff_exists'.mp
          (hMissing x List.mem_cons_self) with ⟨y, hY⟩
      rcases ih (fun z hZ =>
          hMissing z (List.mem_cons_of_mem _ hZ)) with
        ⟨ys, hYs⟩
      refine ⟨y :: ys, ?_⟩
      rw [mapM_eq_some] at hYs ⊢
      rw [List.map_cons, List.map_cons, hY, hYs]

end Grouping

--------
-- Tables With A Default
--------

variable {β κ : Type}

/-
  A table whose entries are made when they are first changed,
  in that order.  What is no key has the default.
-/
structure DefaultTable (κ : Type) {β : Type} (default : β)
    where
  keys : List κ
  get : κ → β
  nodup : keys.Nodup
  get_absent : ∀ k, k ∉ keys → get k = default

namespace DefaultTable

variable [DecidableEq κ] {default : β}

/- The table without entries. -/
def empty : DefaultTable κ default where
  keys := []
  get := fun _ => default
  nodup := List.nodup_nil
  get_absent := fun _ _ => rfl

/- Changes one entry, which is made when it is absent. -/
def change
    (table : DefaultTable κ default)
    (k : κ)
    (f : β → β) : DefaultTable κ default where
  keys :=
    if k ∈ table.keys then table.keys else table.keys ++ [k]
  get := Function.update table.get k (f (table.get k))
  nodup := by
    split
    · exact table.nodup
    · rename_i hNew
      apply List.Nodup.append table.nodup
        (List.nodup_singleton k)
      intro other hMem hOnly
      rw [List.mem_singleton.mp hOnly] at hMem
      exact hNew hMem
  get_absent := by
    intro other hAbsent
    have hNe : other ≠ k := by
      rintro rfl
      apply hAbsent
      split
      · assumption
      · exact List.mem_append_right _
          (List.mem_singleton_self _)
    rw [Function.update_of_ne hNe]
    apply table.get_absent
    intro hMem
    apply hAbsent
    split
    · exact hMem
    · exact List.mem_append_left _ hMem

def changeEach
    (table : DefaultTable κ default)
    (steps : List (κ × (β → β))) : DefaultTable κ default :=
  steps.foldl (fun table step =>
    table.change step.1 step.2) table

/- Every entry rewritten, where the default stays itself. -/
def map
    (table : DefaultTable κ default)
    (f : β → β)
    (hDefault : f default = default) :
    DefaultTable κ default where
  keys := table.keys
  get := fun k => f (table.get k)
  nodup := table.nodup
  get_absent := by
    intro k hAbsent
    rw [table.get_absent k hAbsent, hDefault]

variable {k other : κ} {table : DefaultTable κ default}
variable {ρ γ : Type}

/- A change makes its entry. -/
@[simp]
theorem mem_keys_change
    {f : β → β} :
    other ∈ (table.change k f).keys ↔
      other ∈ table.keys ∨ other = k := by
  unfold change
  split
  · rename_i hOld
    constructor
    · exact Or.inl
    · rintro (hMem | rfl)
      · exact hMem
      · exact hOld
  · simp

@[simp]
theorem get_change_self
    (table : DefaultTable κ default)
    (k : κ)
    (f : β → β) :
    (table.change k f).get k = f (table.get k) :=
  Function.update_self _ _ _

theorem get_change_of_ne
    (hNe : other ≠ k)
    (table : DefaultTable κ default)
    (f : β → β) :
    (table.change k f).get other = table.get other :=
  Function.update_of_ne hNe _ _

/-
  What a view of an entry holds after changes of which each
  puts an item at its end.
-/
theorem view_changeEach
    (key : ρ → κ)
    (f : ρ → β → β)
    (view : β → List γ)
    (item : ρ → γ)
    (hItem : ∀ row x, view (f row x) = view x ++ [item row])
    (rows : List ρ)
    (table : DefaultTable κ default)
    (k : κ) :
    view ((table.changeEach (rows.map (fun row =>
        (key row, f row)))).get k) =
      view (table.get k) ++
        (rows.filter (fun row => key row = k)).map item := by
  unfold changeEach
  induction rows generalizing table with
  | nil => simp
  | cons row rest ih =>
    rw [List.map_cons, List.foldl_cons, ih]
    by_cases hKey : key row = k
    · subst hKey
      rw [List.filter_cons_of_pos (by simp), get_change_self,
        hItem, List.map_cons, List.append_assoc,
        List.singleton_append]
    · rw [List.filter_cons_of_neg (by simpa using hKey),
        get_change_of_ne (Ne.symm hKey)]

/- What changes leave alone of every entry. -/
theorem kept_changeEach
    (key : ρ → κ)
    (f : ρ → β → β)
    (view : β → γ)
    (hKept : ∀ row x, view (f row x) = view x)
    (rows : List ρ)
    (table : DefaultTable κ default)
    (k : κ) :
    view ((table.changeEach (rows.map (fun row =>
        (key row, f row)))).get k) =
      view (table.get k) := by
  unfold changeEach
  induction rows generalizing table with
  | nil => rfl
  | cons row rest ih =>
    rw [List.map_cons, List.foldl_cons, ih]
    by_cases hKey : key row = k
    · subst hKey
      rw [get_change_self, hKept]
    · rw [get_change_of_ne (Ne.symm hKey)]

/- What every change makes of an entry holds of all entries. -/
theorem forall_keys_changeEach
    (P : β → Prop)
    {steps : List (κ × (β → β))}
    (hSteps : ∀ step ∈ steps, ∀ x, P (step.2 x))
    (hTable : ∀ k ∈ table.keys, P (table.get k)) :
    ∀ k ∈ (table.changeEach steps).keys,
      P ((table.changeEach steps).get k) := by
  unfold changeEach
  induction steps generalizing table with
  | nil => exact hTable
  | cons step rest ih =>
    rw [List.forall_mem_cons] at hSteps
    rw [List.foldl_cons]
    apply ih hSteps.2
    intro k hKey
    by_cases hSame : k = step.1
    · rw [hSame, get_change_self]
      exact hSteps.1 _
    · rw [get_change_of_ne hSame]
      rcases mem_keys_change.mp hKey with hOld | hNew
      · exact hTable k hOld
      · exact absurd hNew hSame

/- A property of an entry that each change can bring about. -/
theorem holds_changeEach
    {ρ : Type}
    (key : ρ → κ)
    (f : ρ → β → β)
    (P : β → Prop)
    (brings : ρ → Prop)
    (hBrings : ∀ row x, P (f row x) ↔ P x ∨ brings row)
    (rows : List ρ)
    (table : DefaultTable κ default)
    (k : κ) :
    P ((table.changeEach (rows.map (fun row =>
        (key row, f row)))).get k) ↔
      P (table.get k) ∨
        ∃ row ∈ rows, key row = k ∧ brings row := by
  unfold changeEach
  induction rows generalizing table with
  | nil => simp
  | cons row rest ih =>
    rw [List.map_cons, List.foldl_cons, ih]
    by_cases hKey : key row = k
    · subst hKey
      rw [get_change_self, hBrings]
      simp [or_assoc]
    · rw [get_change_of_ne (Ne.symm hKey)]
      simp [hKey]

/- Changes in two rounds are changes in one. -/
theorem changeEach_append
    (table : DefaultTable κ default)
    (steps more : List (κ × (β → β))) :
    table.changeEach (steps ++ more) =
      (table.changeEach steps).changeEach more :=
  List.foldl_append

end DefaultTable
