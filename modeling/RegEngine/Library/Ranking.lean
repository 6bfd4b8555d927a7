import Mathlib.Data.Finset.Card
import Mathlib.Data.List.MinMax
import Mathlib.Data.List.Nodup
import Mathlib.Data.List.Sort
import Mathlib.Data.List.TakeWhile

/-
  The best row of each group by a score, and the groups that
  rank first by a coarser measure: what is lost when only some
  of the rows are looked at.

  Main declarations:
    * `Ranking.Best`
    * `Ranking.Ranked`
    * `Ranking.Selection.mem_take_iff`
-/

--------
-- Ranks
--------

namespace Ranking

variable {α γ κ μ : Type}
variable [DecidableEq γ] [LinearOrder κ] [LinearOrder μ]
variable {group : α → γ} {score : α → κ} {rank : α → μ}
variable {rows part : List α} {n : Nat} {x y : α}

/- No row of its group scores more. -/
def Best
    (group : α → γ)
    (score : α → κ)
    (rows : List α)
    (x : α) : Prop :=
  x ∈ rows ∧ ∀ y ∈ rows, group y = group x → score y ≤ score x

/- The groups with a row that ranks higher. -/
def above
    (group : α → γ)
    (rank : α → μ)
    (rows : List α)
    (x : α) : Finset γ :=
  ((rows.filter (fun y => rank x < rank y)).map group).toFinset

/- The groups with a row that ranks no lower. -/
def level
    (group : α → γ)
    (rank : α → μ)
    (rows : List α)
    (x : α) : Finset γ :=
  ((rows.filter (fun y => rank x ≤ rank y)).map group).toFinset

/- A best row with fewer than so many groups above it. -/
def Ranked
    (group : α → γ)
    (score : α → κ)
    (rank : α → μ)
    (n : Nat)
    (rows : List α)
    (x : α) : Prop :=
  Best group score rows x ∧ (above group rank rows x).card < n

/-
  The first so many are determined: a group among them has one
  best row, and none of them is level with a group left out.
-/
structure Settled
    (group : α → γ)
    (score : α → κ)
    (rank : α → μ)
    (n : Nat)
    (rows : List α) : Prop where
  eq_of_best :
    ∀ x y, Ranked group score rank n rows x →
      Best group score rows y → group y = group x → y = x
  level_le :
    ∀ x, Ranked group score rank n rows x →
      (level group rank rows x).card ≤ n

theorem mem_above
    {g : γ} :
    g ∈ above group rank rows x ↔
      ∃ y ∈ rows, rank x < rank y ∧ group y = g := by
  simp [above, and_assoc]

theorem mem_level
    {g : γ} :
    g ∈ level group rank rows x ↔
      ∃ y ∈ rows, rank x ≤ rank y ∧ group y = g := by
  simp [level, and_assoc]

/- More rows have more groups above. -/
theorem above_subset
    (hPart : part ⊆ rows) :
    above group rank part x ⊆ above group rank rows x := by
  intro g hMem
  rcases mem_above.mp hMem with ⟨z, hZ, hLess, hGroup⟩
  exact mem_above.mpr ⟨z, hPart hZ, hLess, hGroup⟩

/- More rows have more groups that are level. -/
theorem level_subset
    (hPart : part ⊆ rows) :
    level group rank part x ⊆ level group rank rows x := by
  intro g hMem
  rcases mem_level.mp hMem with ⟨z, hZ, hLe, hGroup⟩
  exact mem_level.mpr ⟨z, hPart hZ, hLe, hGroup⟩

/- A best row that is looked at is best among some rows. -/
omit [DecidableEq γ] in
theorem Best.of_subset
    (hBest : Best group score rows x)
    (hPart : part ⊆ rows)
    (hMem : x ∈ part) :
    Best group score part x :=
  ⟨hMem, fun y hY => hBest.2 y (hPart hY)⟩

/- The order of the rows does not matter. -/
omit [DecidableEq γ] in
theorem best_congr
    (hMem : ∀ y, y ∈ part ↔ y ∈ rows) :
    Best group score part x ↔ Best group score rows x := by
  simp [Best, hMem]

theorem above_congr
    (hMem : ∀ y, y ∈ part ↔ y ∈ rows) :
    above group rank part x = above group rank rows x :=
  Finset.Subset.antisymm
    (above_subset (fun y => (hMem y).mp))
    (above_subset (fun y => (hMem y).mpr))

theorem level_congr
    (hMem : ∀ y, y ∈ part ↔ y ∈ rows) :
    level group rank part x = level group rank rows x :=
  Finset.Subset.antisymm
    (level_subset (fun y => (hMem y).mp))
    (level_subset (fun y => (hMem y).mpr))

/- Two best rows of one group score the same. -/
omit [DecidableEq γ] in
theorem Best.score_eq
    (hX : Best group score rows x)
    (hY : Best group score rows y)
    (hGroup : group y = group x) :
    score y = score x :=
  le_antisymm (hX.2 y hY.1 hGroup) (hY.2 x hX.1 hGroup.symm)

/- What is above a row depends on its rank alone. -/
theorem above_eq_of_rank_eq
    (hRank : rank x = rank y) :
    above group rank rows x = above group rank rows y := by
  unfold above
  rw [hRank]

theorem level_eq_of_rank_eq
    (hRank : rank x = rank y) :
    level group rank rows x = level group rank rows y := by
  unfold level
  rw [hRank]

/- Each row has a best row of its group. -/
theorem exists_best
    (group : α → γ)
    (score : α → κ)
    (hMem : x ∈ rows) :
    ∃ y, Best group score rows y ∧ group y = group x ∧
      score x ≤ score y := by
  have hOwn : x ∈ rows.filter (fun y => group y = group x) := by
    simp [hMem]
  cases hMax :
      (rows.filter (fun y => group y = group x)).argmax score with
  | none =>
      rw [List.argmax_eq_none] at hMax
      rw [hMax] at hOwn
      exact absurd hOwn List.not_mem_nil
  | some y =>
      have hY := List.argmax_mem hMax
      simp only [List.mem_filter, decide_eq_true_eq] at hY
      refine ⟨y, ⟨hY.1, ?_⟩, hY.2,
        List.le_of_mem_argmax hOwn hMax⟩
      intro z hZ hGroup
      apply List.le_of_mem_argmax _ hMax
      simp [hZ, hGroup, hY.2]

/- Among some rows there is one that ranks highest. -/
theorem exists_highest
    (rank : α → μ)
    (P : α → Prop)
    (hMem : x ∈ rows)
    (hP : P x) :
    ∃ y ∈ rows, P y ∧ ∀ z ∈ rows, P z → rank z ≤ rank y := by
  classical
  have hOwn : x ∈ rows.filter (fun y => decide (P y)) := by
    simp [hMem, hP]
  cases hMax :
      (rows.filter (fun y => decide (P y))).argmax rank with
  | none =>
      rw [List.argmax_eq_none] at hMax
      rw [hMax] at hOwn
      exact absurd hOwn List.not_mem_nil
  | some y =>
      have hY := List.argmax_mem hMax
      simp only [List.mem_filter, decide_eq_true_eq] at hY
      refine ⟨y, hY.1, hY.2, ?_⟩
      intro z hZ hPz
      apply List.le_of_mem_argmax _ hMax
      simp [hZ, hPz]

end Ranking

--------
-- Some of the Rows
--------

namespace Ranking

variable {α γ κ μ : Type}
variable [DecidableEq γ] [LinearOrder κ] [LinearOrder μ]
variable {group : α → γ} {score : α → κ} {rank : α → μ}
variable {rows part : List α} {n : Nat} {x y : α}

/-
  When the ranked rows are looked at, a best row that ranks no
  lower than a ranked row of the part is ranked.
-/
theorem ranked_of_rank_le
    (hRank : ∀ x y, score x ≤ score y → rank x ≤ rank y)
    (hHeld : ∀ y, Ranked group score rank n rows y → y ∈ part)
    (hRanked : Ranked group score rank n part x)
    (hBest : Best group score rows y)
    (hLe : rank x ≤ rank y) :
    Ranked group score rank n rows y := by
  by_contra hNot
  rcases exists_highest rank
      (fun z => Best group score rows z ∧
        rank x ≤ rank z ∧ ¬ Ranked group score rank n rows z)
      hBest.1 ⟨hBest, hLe, hNot⟩ with
    ⟨z, -, ⟨hBestZ, hLeZ, hNotZ⟩, hHighest⟩
  have hAbove :
      above group rank rows z ⊆ above group rank part x := by
    intro g hG
    rcases mem_above.mp hG with ⟨w, hW, hLess, rfl⟩
    rcases exists_best group score hW with
      ⟨b, hB, hGroup, hLeB⟩
    have hMore : rank z < rank b :=
      lt_of_lt_of_le hLess (hRank w b hLeB)
    have hRankedB : Ranked group score rank n rows b := by
      by_contra hNotB
      exact absurd hMore (not_lt.mpr
        (hHighest b hB.1 ⟨hB, hLeZ.trans hMore.le, hNotB⟩))
    exact mem_above.mpr
      ⟨b, hHeld b hRankedB, lt_of_le_of_lt hLeZ hMore, hGroup⟩
  have hCard := Finset.card_le_card hAbove
  exact hNotZ ⟨hBestZ, lt_of_le_of_lt hCard hRanked.2⟩

/-
  The ranked rows of a part are those of the whole just when
  the part holds the ranked rows of the whole.
-/
theorem ranked_iff_mem
    (hRank : ∀ x y, score x ≤ score y → rank x ≤ rank y)
    (hPart : part ⊆ rows)
    (hSettled : Settled group score rank n rows) :
    (∀ x, Ranked group score rank n part x ↔
        Ranked group score rank n rows x) ↔
      ∀ x, Ranked group score rank n rows x → x ∈ part := by
  constructor
  · intro hSame x hRanked
    exact ((hSame x).mpr hRanked).1.1
  · intro hHeld x
    constructor
    · intro hRanked
      rcases exists_best group score (hPart hRanked.1.1) with
        ⟨b, hB, hGroup, hLe⟩
      have hRankedB := ranked_of_rank_le hRank hHeld hRanked hB
        (hRank x b hLe)
      have hEq : score b = score x :=
        le_antisymm
          (hRanked.1.2 b (hHeld b hRankedB) hGroup) hLe
      have hBest : Best group score rows x := by
        refine ⟨hPart hRanked.1.1, fun y hY hSame => ?_⟩
        rw [← hEq]
        exact hB.2 y hY (hSame.trans hGroup.symm)
      rw [hSettled.eq_of_best b x hRankedB hBest hGroup.symm]
      exact hRankedB
    · intro hRanked
      exact ⟨hRanked.1.of_subset hPart (hHeld x hRanked),
        lt_of_le_of_lt
          (Finset.card_le_card (above_subset hPart))
          hRanked.2⟩

/- Then the part is determined as well. -/
theorem Settled.of_subset
    (hSettled : Settled group score rank n rows)
    (hPart : part ⊆ rows)
    (hSame : ∀ x, Ranked group score rank n part x ↔
      Ranked group score rank n rows x) :
    Settled group score rank n part := by
  constructor
  · intro x y hRanked hBest hGroup
    have hWhole := (hSame x).mp hRanked
    apply hSettled.eq_of_best x y hWhole _ hGroup
    refine ⟨hPart hBest.1, fun z hZ hSameGroup => ?_⟩
    exact (hWhole.1.2 z hZ (hSameGroup.trans hGroup)).trans
      (hBest.2 x hRanked.1.1 hGroup.symm)
  · intro x hRanked
    exact (Finset.card_le_card (level_subset hPart)).trans
      (hSettled.level_le x ((hSame x).mp hRanked))

end Ranking

--------
-- One Best Row of Each Group
--------

namespace Ranking

variable {α γ κ : Type} [LinearOrder κ]
variable {group : α → γ} {score : α → κ} {rows chosen : List α}
variable {x old : α}

/- Rows that hold a best row of each group, and nothing else. -/
structure Selection
    (group : α → γ)
    (score : α → κ)
    (rows chosen : List α) : Prop where
  nodup : (chosen.map group).Nodup
  best : ∀ y ∈ chosen, Best group score rows y
  covers : ∀ y ∈ rows, ∃ z ∈ chosen, group z = group y

namespace Selection

theorem nil : Selection group score [] [] := by
  constructor <;> simp

/- The order of the rows chosen does not matter. -/
theorem perm
    {chosen' : List α}
    (hChosen : Selection group score rows chosen)
    (hPerm : chosen.Perm chosen') :
    Selection group score rows chosen' := by
  constructor
  · exact (hPerm.map group).nodup_iff.mp hChosen.nodup
  · intro y hY
    exact hChosen.best y (hPerm.mem_iff.mpr hY)
  · intro y hY
    rcases hChosen.covers y hY with ⟨z, hZ, hGroup⟩
    exact ⟨z, hPerm.mem_iff.mp hZ, hGroup⟩

variable {y : α}

/- Two rows chosen of one group are one. -/
theorem eq_of_group
    (hChosen : Selection group score rows chosen)
    (hX : x ∈ chosen)
    (hY : y ∈ chosen)
    (hSame : group x = group y) :
    x = y :=
  List.inj_on_of_nodup_map hChosen.nodup hX hY hSame

/- A best row stays best when the next one scores no more. -/
theorem best_concat
    (hBest : Best group score rows y)
    (hLe : group x = group y → score x ≤ score y) :
    Best group score (rows ++ [x]) y := by
  refine ⟨List.mem_append_left _ hBest.1, ?_⟩
  intro z hZ hSame
  rcases List.mem_append.mp hZ with hOld | hNew
  · exact hBest.2 z hOld hSame
  · rw [List.mem_singleton] at hNew
    rw [hNew] at hSame ⊢
    exact hLe hSame

/- The first row of a group is chosen. -/
theorem concat
    (hChosen : Selection group score rows chosen)
    (hNew : ∀ y ∈ chosen, group y ≠ group x) :
    Selection group score (rows ++ [x]) (chosen ++ [x]) := by
  constructor
  · rw [List.map_append, List.nodup_append]
    refine ⟨hChosen.nodup, List.nodup_singleton _, ?_⟩
    intro g hG g' hG'
    rcases List.mem_map.mp hG with ⟨y, hY, rfl⟩
    rw [List.mem_singleton.mp hG']
    exact hNew y hY
  · intro y hY
    rcases List.mem_append.mp hY with hOld | hLast
    · exact best_concat (hChosen.best y hOld)
        (fun hSame => absurd hSame.symm (hNew y hOld))
    · rw [List.mem_singleton.mp hLast]
      refine ⟨by simp, fun z hZ hSame => ?_⟩
      rcases List.mem_append.mp hZ with hRow | hSelf
      · rcases hChosen.covers z hRow with ⟨w, hW, hGroup⟩
        exact absurd (hGroup.trans hSame) (hNew w hW)
      · rw [List.mem_singleton.mp hSelf]
  · intro y hY
    rcases List.mem_append.mp hY with hRow | hLast
    · rcases hChosen.covers y hRow with ⟨z, hZ, hGroup⟩
      exact ⟨z, List.mem_append_left _ hZ, hGroup⟩
    · exact ⟨x, by simp, by rw [List.mem_singleton.mp hLast]⟩

/- A row that scores no more is left out. -/
theorem keep
    (hChosen : Selection group score rows chosen)
    (hOld : old ∈ chosen)
    (hSame : group old = group x)
    (hLe : score x ≤ score old) :
    Selection group score (rows ++ [x]) chosen := by
  refine ⟨hChosen.nodup, fun y hY => ?_, fun y hY => ?_⟩
  · apply best_concat (hChosen.best y hY)
    intro hGroup
    rw [hChosen.eq_of_group hY hOld (hGroup.symm.trans hSame.symm)]
    exact hLe
  · rcases List.mem_append.mp hY with hRow | hLast
    · exact hChosen.covers y hRow
    · exact ⟨old, hOld, by rw [hSame, List.mem_singleton.mp hLast]⟩

/- A row that scores no less takes the place of its group. -/
theorem replace
    [DecidableEq γ]
    (hChosen : Selection group score rows chosen)
    (hOld : old ∈ chosen)
    (hSame : group old = group x)
    (hLe : score old ≤ score x) :
    Selection group score (rows ++ [x])
      (chosen.map (fun y => if group y = group x then x else y))
    := by
  have hGroups :
      (chosen.map
        (fun y => if group y = group x then x else y)).map group =
        chosen.map group := by
    rw [List.map_map]
    apply List.map_congr_left
    intro y _
    by_cases hGroup : group y = group x
    · simp [hGroup]
    · simp [hGroup]
  refine ⟨by rw [hGroups]; exact hChosen.nodup, ?_, ?_⟩
  · intro z hZ
    rcases List.mem_map.mp hZ with ⟨y, hY, rfl⟩
    by_cases hGroup : group y = group x
    · rw [if_pos hGroup]
      refine ⟨by simp, fun w hW hSameGroup => ?_⟩
      rcases List.mem_append.mp hW with hRow | hSelf
      · exact ((hChosen.best old hOld).2 w hRow
          (hSameGroup.trans hSame.symm)).trans hLe
      · rw [List.mem_singleton.mp hSelf]
    · rw [if_neg hGroup]
      exact best_concat (hChosen.best y hY)
        (fun hX => absurd hX.symm hGroup)
  · intro y hY
    have hCovered : group y ∈ chosen.map group := by
      rcases List.mem_append.mp hY with hRow | hLast
      · rcases hChosen.covers y hRow with ⟨z, hZ, hGroup⟩
        rw [← hGroup]
        exact List.mem_map_of_mem hZ
      · rw [List.mem_singleton.mp hLast, ← hSame]
        exact List.mem_map_of_mem hOld
    rw [← hGroups] at hCovered
    exact List.mem_map.mp hCovered

end Selection

end Ranking

--------
-- Sorted Rows
--------

namespace Ranking

variable {α γ κ μ : Type}
variable [DecidableEq γ] [LinearOrder κ] [LinearOrder μ]
variable {group : α → γ} {score : α → κ} {rank : α → μ}
variable {rows sorted : List α} {n : Nat} {x : α}

/- The first rows have only so many rows that rank higher. -/
theorem few_of_mem_take
    (hSorted : sorted.Pairwise (fun a b => rank b ≤ rank a))
    (hMem : x ∈ sorted.take n) :
    (sorted.filter (fun y => rank x < rank y)).length < n := by
  induction sorted generalizing n with
  | nil => simp at hMem
  | cons a rest ih =>
      rcases List.pairwise_cons.mp hSorted with
        ⟨hFirst, hRest⟩
      cases n with
      | zero => simp at hMem
      | succ n =>
          rw [List.take_succ_cons, List.mem_cons] at hMem
          rcases hMem with rfl | hIn
          · have hNone :
                (x :: rest).filter
                  (fun y => rank x < rank y) = [] := by
              rw [List.filter_eq_nil_iff]
              intro y hY
              rcases List.mem_cons.mp hY with rfl | hTail
              · simp
              · simp [hFirst y hTail]
            rw [hNone]
            exact Nat.succ_pos n
          · have hFew := ih hRest hIn
            rw [List.filter_cons]
            split
            · exact Nat.succ_lt_succ hFew
            · exact Nat.lt_succ_of_lt hFew

/- A row with only so many that rank no lower comes first. -/
theorem mem_take_of_few
    (hSorted : sorted.Pairwise (fun a b => rank b ≤ rank a))
    (hMem : x ∈ sorted)
    (hFew :
      (sorted.filter (fun y => rank x ≤ rank y)).length ≤ n) :
    x ∈ sorted.take n := by
  induction sorted generalizing n with
  | nil => simp at hMem
  | cons a rest ih =>
      rcases List.pairwise_cons.mp hSorted with
        ⟨hFirst, hRest⟩
      have hPass : rank x ≤ rank a := by
        rcases List.mem_cons.mp hMem with rfl | hTail
        · exact le_rfl
        · exact hFirst x hTail
      rw [List.filter_cons_of_pos (by simp [hPass])] at hFew
      cases n with
      | zero => simp at hFew
      | succ n =>
          rw [List.take_succ_cons, List.mem_cons]
          rcases List.mem_cons.mp hMem with rfl | hTail
          · exact Or.inl rfl
          · exact Or.inr
              (ih hRest hTail (Nat.le_of_succ_le_succ hFew))

namespace Selection

/- The first of the rows chosen are ranked. -/
theorem ranked_of_mem_take
    (hRank : ∀ x y, score x ≤ score y → rank x ≤ rank y)
    (hChosen : Selection group score rows sorted)
    (hSorted : sorted.Pairwise (fun a b => rank b ≤ rank a))
    (hMem : x ∈ sorted.take n) :
    Ranked group score rank n rows x := by
  refine ⟨hChosen.best x (List.mem_of_mem_take hMem), ?_⟩
  have hSubset :
      above group rank rows x ⊆
        ((sorted.filter
          (fun y => rank x < rank y)).map group).toFinset := by
    intro g hG
    rcases mem_above.mp hG with ⟨y, hY, hLess, rfl⟩
    rcases hChosen.covers y hY with ⟨z, hZ, hGroup⟩
    have hLe := (hChosen.best z hZ).2 y hY hGroup.symm
    simp only [List.mem_toFinset, List.mem_map,
      List.mem_filter, decide_eq_true_eq]
    exact ⟨z, ⟨hZ, lt_of_lt_of_le hLess (hRank y z hLe)⟩,
      hGroup⟩
  have hCard := (Finset.card_le_card hSubset).trans
    (List.toFinset_card_le _)
  rw [List.length_map] at hCard
  exact lt_of_le_of_lt hCard (few_of_mem_take hSorted hMem)

/-
  When the ranked rows are determined, they are the first of
  the rows chosen, sorted.
-/
theorem mem_take_iff
    (hRank : ∀ x y, score x ≤ score y → rank x ≤ rank y)
    (hChosen : Selection group score rows sorted)
    (hSorted : sorted.Pairwise (fun a b => rank b ≤ rank a))
    (hSettled : Settled group score rank n rows) :
    x ∈ sorted.take n ↔ Ranked group score rank n rows x := by
  constructor
  · exact hChosen.ranked_of_mem_take hRank hSorted
  · intro hRanked
    rcases hChosen.covers x hRanked.1.1 with ⟨z, hZ, hGroup⟩
    have hEq := hSettled.eq_of_best x z hRanked
      (hChosen.best z hZ) hGroup
    rw [hEq] at hZ
    apply mem_take_of_few hSorted hZ
    have hSubset :
        ((sorted.filter
          (fun y => rank x ≤ rank y)).map group).toFinset ⊆
          level group rank rows x := by
      intro g hG
      simp only [List.mem_toFinset, List.mem_map,
        List.mem_filter, decide_eq_true_eq] at hG
      rcases hG with ⟨y, ⟨hY, hLe⟩, rfl⟩
      exact mem_level.mpr ⟨y, (hChosen.best y hY).1, hLe, rfl⟩
    have hCard := (Finset.card_le_card hSubset).trans
      (hSettled.level_le x hRanked)
    rw [List.toFinset_card_of_nodup, List.length_map] at hCard
    · exact hCard
    · exact hChosen.nodup.sublist (List.filter_sublist.map group)

end Selection

end Ranking

--------
-- Ties
--------

namespace Ranking

variable {α γ κ μ : Type}
variable [DecidableEq γ] [LinearOrder κ] [LinearOrder μ]
variable {group : α → γ} {score : α → κ} {rank : α → μ}
variable {rows rest : List α} {n : Nat} {x : α}

/- The sort from the highest rank down. -/
def descending (rank : α → μ) (items : List α) : List α :=
  items.insertionSort (fun a b => rank b ≤ rank a)

theorem descending_perm (rank : α → μ) (items : List α) :
    (descending rank items).Perm items :=
  List.perm_insertionSort _ _

theorem descending_pairwise (items : List α) :
    (descending rank items).Pairwise
      (fun a b => rank b ≤ rank a) :=
  List.pairwise_insertionSort (fun a b => rank b ≤ rank a) items

/- A row with only so many before it is among the first. -/
theorem mem_take_of_split
    {before after : List α}
    (hFew : before.length < n) :
    x ∈ (before ++ x :: after).take n := by
  rw [List.take_append]
  apply List.mem_append_right
  obtain ⟨k, hK⟩ : ∃ k, n - before.length = k + 1 :=
    ⟨n - before.length - 1, by omega⟩
  rw [hK, List.take_succ_cons]
  exact List.mem_cons_self

/- The first row comes before those that are level with it. -/
theorem mem_take_descending_cons
    (hFew :
      (rest.filter (fun y => rank x < rank y)).length < n) :
    x ∈ (descending rank (x :: rest)).take n := by
  rw [descending, List.insertionSort_cons_eq_take_drop]
  apply mem_take_of_split
  refine lt_of_le_of_lt ?_ hFew
  have hPerm := (descending_perm rank rest).filter
    (fun y => rank x < rank y)
  rw [← hPerm.length_eq]
  have hSublist :=
    (List.takeWhile_sublist (fun b => decide (¬ rank b ≤ rank x))
      (l := descending rank rest)).filter
        (fun y => rank x < rank y)
  rw [List.filter_eq_self.mpr] at hSublist
  · exact hSublist.length_le
  · intro y hY
    simpa using List.mem_takeWhile_imp hY

/- The last row comes after those that are level with it. -/
theorem not_mem_take_descending_concat
    (hNodup : (rest ++ [x]).Nodup)
    (hMany :
      n ≤ (rest.filter (fun y => rank x ≤ rank y)).length) :
    x ∉ (descending rank (rest ++ [x])).take n := by
  intro hMem
  rcases List.append_of_mem hMem with ⟨before, after, hTake⟩
  have hFew : before.length < n := by
    have hLength := congrArg List.length hTake
    rw [List.length_take, List.length_append,
      List.length_cons] at hLength
    omega
  have hSplit :
      descending rank (rest ++ [x]) =
        before ++ x :: (after ++
          (descending rank (rest ++ [x])).drop n) := by
    conv_lhs => rw [← List.take_append_drop n
      (descending rank (rest ++ [x])), hTake]
    simp
  have hSorted : (descending rank (rest ++ [x])).Nodup :=
    (descending_perm rank _).nodup_iff.mpr hNodup
  have hBefore : ∀ y ∈ rest, rank x ≤ rank y → y ∈ before := by
    intro y hY hLevel
    have hPair : [y, x].Sublist (descending rank (rest ++ [x])) :=
      List.pair_sublist_insertionSort hLevel
        ((List.singleton_sublist.mpr hY).append
          (List.Sublist.refl [x]))
    rw [hSplit] at hPair hSorted
    have hOther : y ≠ x := by
      rintro rfl
      exact (List.nodup_append.mp hNodup).2.2 y hY y (by simp)
        rfl
    have hLater := (List.nodup_cons.mp
      (List.nodup_append.mp hSorted).2.1).1
    rcases List.sublist_append_iff.mp hPair with
      ⟨first, last, hPairs, hFirst, hLast⟩
    cases first with
    | nil =>
        rw [List.nil_append] at hPairs
        rw [← hPairs] at hLast
        rcases List.sublist_cons_iff.mp hLast with
          hTail | ⟨pair, hPair', -⟩
        · exact absurd (hTail.subset (by simp)) hLater
        · injection hPair' with hHead
          exact absurd hHead hOther
    | cons z zs =>
        rw [List.cons_append] at hPairs
        injection hPairs with hHead
        rw [hHead]
        exact hFirst.subset List.mem_cons_self
  have hLe : (rest.filter (fun y => rank x ≤ rank y)).length ≤
      before.length := by
    apply List.Subperm.length_le
    apply List.Nodup.subperm
    · exact (hNodup.sublist
        (List.sublist_append_left _ _)).filter _
    · intro y hY
      simp only [List.mem_filter, decide_eq_true_eq] at hY
      exact hBefore y hY.1 hY.2
  omega

namespace Selection

/-
  A ranked row that comes first among the rows chosen is among
  the first of them, sorted.
-/
theorem mem_take_of_first
    (hChosen : Selection group score rows (x :: rest))
    (hFew : (above group rank rows x).card < n) :
    x ∈ (descending rank (x :: rest)).take n := by
  apply mem_take_descending_cons
  refine lt_of_le_of_lt ?_ hFew
  have hSubset :
      ((rest.filter
        (fun y => rank x < rank y)).map group).toFinset ⊆
        above group rank rows x := by
    intro g hG
    simp only [List.mem_toFinset, List.mem_map,
      List.mem_filter, decide_eq_true_eq] at hG
    rcases hG with ⟨y, ⟨hY, hLess⟩, rfl⟩
    have hRow := (hChosen.best y (List.mem_cons_of_mem _ hY)).1
    exact mem_above.mpr ⟨y, hRow, hLess, rfl⟩
  have hCard := Finset.card_le_card hSubset
  rw [List.toFinset_card_of_nodup, List.length_map] at hCard
  · exact hCard
  · have hRest := (List.nodup_cons.mp hChosen.nodup).2
    exact hRest.sublist (List.filter_sublist.map group)

/-
  A row that comes last among the rows chosen is not among the
  first of them when too many are level with it.
-/
theorem not_mem_take_of_last
    (hRank : ∀ x y, score x ≤ score y → rank x ≤ rank y)
    (hChosen : Selection group score rows (rest ++ [x]))
    (hMany : n < (level group rank rows x).card) :
    x ∉ (descending rank (rest ++ [x])).take n := by
  apply not_mem_take_descending_concat
    (List.Nodup.of_map _ hChosen.nodup)
  have hSubset :
      level group rank rows x ⊆ insert (group x)
        ((rest.filter
          (fun y => rank x ≤ rank y)).map group).toFinset := by
    intro g hG
    rcases mem_level.mp hG with ⟨y, hY, hLevel, rfl⟩
    rcases hChosen.covers y hY with ⟨z, hZ, hGroup⟩
    rw [← hGroup]
    rcases List.mem_append.mp hZ with hRest | hLast
    · apply Finset.mem_insert_of_mem
      have hLe := (hChosen.best z hZ).2 y hY hGroup.symm
      simp only [List.mem_toFinset, List.mem_map,
        List.mem_filter, decide_eq_true_eq]
      exact ⟨z, ⟨hRest, hLevel.trans (hRank y z hLe)⟩, rfl⟩
    · rw [List.mem_singleton.mp hLast]
      exact Finset.mem_insert_self _ _
  have hCard := (Finset.card_le_card hSubset).trans
    (Finset.card_insert_le _ _)
  have hLength := List.toFinset_card_le
    ((rest.filter (fun y => rank x ≤ rank y)).map group)
  rw [List.length_map] at hLength
  omega

end Selection

end Ranking
