import Mathlib.Algebra.BigOperators.Group.List.Basic
import Mathlib.Algebra.BigOperators.Group.Multiset.Basic
import Mathlib.Data.Multiset.Basic
import RegEngine.Shared.RecallReconstruction.Conservation

/-
  What of the groups and the repacks does not depend on the
  order of the rows, and when the rows decide it.

  Main declarations:
    * `RecallReconstruction.Permuted`
    * `RecallReconstruction.OrderFree`
    * `RecallReconstruction.OrderFree.permuted`
-/

--------
-- Rows In Another Order
--------

namespace RegEngine

open Grouping (distinct groupBy)

namespace RecallReconstruction

/- The same records in files of another order. -/
structure Permuted (rs other : RecordSet) : Prop where
  contents : rs.contents.Perm other.contents
  shipments : rs.shipments.Perm other.shipments
  receipts : rs.receipts.Perm other.receipts
  repackRows : rs.repackRows.Perm other.repackRows
  loadFindings : rs.loadFindings = other.loadFindings
  cutoffs : rs.cutoffs = other.cutoffs

variable {rs other : RecordSet} {x y : RepackOp}

theorem Permuted.symm
    (hPerm : Permuted rs other) :
    Permuted other rs where
  contents := hPerm.contents.symm
  shipments := hPerm.shipments.symm
  receipts := hPerm.receipts.symm
  repackRows := hPerm.repackRows.symm
  loadFindings := hPerm.loadFindings.symm
  cutoffs := hPerm.cutoffs.symm

abbrev LotsView := Multiset (String × Option ℚ)

/- The time of a group, whether a repack states it, its lots. -/
def groupView (group : ContentsGroup) :
    Int × Bool × LotsView :=
  (group.recordedAt, !group.derivedFrom.isEmpty, group.lots)

/- The outputs of a repack in no order. -/
def outputsView (outputs : List (String × Lots)) :
    Multiset (String × LotsView) :=
  outputs.map (fun output => (output.1, (output.2 : LotsView)))

/- A repack without what its first row decides. -/
def opView (op : RepackOp) :
    String × Int × List String ×
      Multiset (String × LotsView) :=
  (op.recordId, op.performedAt, op.inputs,
    outputsView op.outputs)

/- A pallet with the view of a group that a record states. -/
def statedView (stated : String × ContentsGroup) :
    String × Int × Bool × LotsView :=
  (stated.1, groupView stated.2)

/- An earlier repack puts something on the pallet. -/
def FilledBefore
    (rs : RecordSet)
    (when_ : Int)
    (p : String) : Prop :=
  ∃ op ∈ repackOps rs, op.performedAt < when_ ∧
    p ∈ op.outputs.map Prod.fst

/-
  The rows say what the builder takes from their order: rows of
  one lot agree, statements of one time agree, and so do the
  statements that a repack chooses from; no repack goes on
  with what another one puts out at its time; and movements of
  one kind and time are at one place.
-/
structure OrderFree (rs : RecordSet) : Prop where
  contentsRows : ∀ x ∈ rs.contents, ∀ y ∈ rs.contents,
    x.palletId = y.palletId → x.recordId = y.recordId →
      x.lotCode = y.lotCode → x.quantity = y.quantity
  repackRows : ∀ x ∈ rs.repackRows, ∀ y ∈ rs.repackRows,
    x.recordId = y.recordId →
      x.outputPalletId = y.outputPalletId →
        x.lotCode = y.lotCode →
          x.quantity.isSome = y.quantity.isSome
  contentsTimes : ∀ x ∈ statedGroups rs,
    ∀ y ∈ statedGroups rs, x.1 = y.1 →
      x.2.recordedAt = y.2.recordedAt →
        x.2.lots.Perm y.2.lots
  repackTimes : ∀ x ∈ repackOps rs, ∀ y ∈ repackOps rs,
    x.performedAt = y.performedAt →
      ∀ p lots more, (p, lots) ∈ x.outputs →
        (p, more) ∈ y.outputs → lots.Perm more
  apart : ∀ x ∈ repackOps rs, ∀ y ∈ repackOps rs,
    x.performedAt = y.performedAt →
      x.recordId ≠ y.recordId →
        ∀ p ∈ x.inputs, p ∉ y.outputs.map Prod.fst
  chosen : ∀ op ∈ repackOps rs, ∀ p ∈ op.inputs,
    ¬ FilledBefore rs op.performedAt p →
      ∀ x ∈ statedGroups rs, ∀ y ∈ statedGroups rs,
        x.1 = p → y.1 = p →
          x.2.recordedAt ≤ op.performedAt →
            y.2.recordedAt ≤ op.performedAt →
              x.2.lots.Perm y.2.lots
  shipments : ∀ x ∈ rs.shipments, ∀ y ∈ rs.shipments,
    x.palletId = y.palletId → x.shippedAt = y.shippedAt →
      x.fromGln = y.fromGln
  receipts : ∀ x ∈ rs.receipts, ∀ y ∈ rs.receipts,
    x.palletId = y.palletId → x.receivedAt = y.receivedAt →
      x.locationGln = y.locationGln

--------
-- What Does Not Depend On The Order
--------

/- The earliest time is a time of the list. -/
theorem earliest_perm
    {times others : List Int}
    (hPerm : times.Perm others) :
    earliest times = earliest others := by
  have hMin : times.min? = others.min? := by
    cases hTimes : times.min? with
    | none =>
      rw [List.min?_eq_none_iff] at hTimes
      rw [hTimes] at hPerm
      rw [List.nil_perm.mp hPerm]
      rfl
    | some a =>
      rw [List.min?_eq_some_iff] at hTimes
      symm
      rw [List.min?_eq_some_iff]
      refine ⟨hPerm.mem_iff.mp hTimes.1, ?_⟩
      intro b hB
      exact hTimes.2 b (hPerm.mem_iff.mpr hB)
  unfold earliest
  rw [hMin]

/- The running sum of known quantities is their sum. -/
theorem runningQuantity_map_some
    (quantities : List ℚ)
    (hRows : quantities ≠ []) :
    runningQuantity (quantities.map some) =
      some quantities.sum := by
  have hFold : ∀ (rest : List ℚ) (start : ℚ),
      runningQuantity (some start :: rest.map some) =
        some (start + rest.sum) := by
    intro rest
    induction rest with
    | nil =>
      intro start
      simp [runningQuantity]
    | cons q rest ih =>
      intro start
      rw [List.sum_cons, ← add_assoc]
      exact ih (start + q)
  cases quantities with
  | nil => exact absurd rfl hRows
  | cons first rest =>
    rw [List.sum_cons]
    exact hFold rest first

/- The running sum of unknown quantities is unknown. -/
theorem runningQuantity_none
    {quantities : List (Option ℚ)}
    (hNone : ∀ q ∈ quantities, q = none) :
    runningQuantity quantities = none := by
  have hFold : ∀ (rest : List (Option ℚ)),
      (∀ q ∈ rest, q = none) →
        runningQuantity (none :: rest) = none := by
    intro rest
    induction rest with
    | nil => exact fun _ => rfl
    | cons q rest ih =>
      intro hRest
      rw [List.forall_mem_cons] at hRest
      rw [hRest.1]
      exact ih hRest.2
  cases quantities with
  | nil => rfl
  | cons first rest =>
    rw [List.forall_mem_cons] at hNone
    rw [hNone.1]
    exact hFold rest hNone.2

/- Quantities all known or all unknown add up in any order. -/
theorem runningQuantity_perm
    {quantities others : List (Option ℚ)}
    (hPerm : quantities.Perm others)
    (hAlike : ∀ x ∈ quantities, ∀ y ∈ quantities,
      x.isSome = y.isSome) :
    runningQuantity quantities = runningQuantity others := by
  cases quantities with
  | nil => rw [List.nil_perm.mp hPerm]
  | cons first rest =>
    cases hFirst : first with
    | none =>
      have hNone : ∀ q ∈ first :: rest, q = none := by
        intro q hQ
        have hSame := hAlike q hQ first List.mem_cons_self
        rw [hFirst] at hSame
        exact Option.isNone_iff_eq_none.mp
          (Option.isSome_eq_false_iff.mp hSame)
      rw [← hFirst, runningQuantity_none hNone,
        runningQuantity_none (fun q hQ =>
          hNone q (hPerm.mem_iff.mpr hQ))]
    | some x =>
      have hSome : ∀ q ∈ first :: rest,
          some (q.getD 0) = q := by
        intro q hQ
        have hSame := hAlike q hQ first List.mem_cons_self
        rw [hFirst] at hSame
        rcases Option.isSome_iff_exists.mp hSame with ⟨y, rfl⟩
        rfl
      have hValues : ∀ qs : List (Option ℚ),
          (∀ q ∈ qs, some (q.getD 0) = q) →
            qs = (qs.map (fun q => q.getD 0)).map some := by
        intro qs hQs
        rw [List.map_map]
        conv_lhs => rw [← List.map_id qs]
        apply List.map_congr_left
        intro q hQ
        exact (hQs q hQ).symm
      rw [← hFirst, hValues _ hSome,
        hValues others (fun q hQ =>
          hSome q (hPerm.mem_iff.mpr hQ)),
        runningQuantity_map_some _ (by simp),
        runningQuantity_map_some]
      · rw [(hPerm.map _).sum_eq]
      · intro hNil
        rw [List.map_eq_nil_iff] at hNil
        rw [hNil] at hPerm
        exact List.cons_ne_nil _ _ (List.perm_nil.mp hPerm)

/- The last of rows that agree is like any of them. -/
theorem getLast?_bind_perm
    {rows others : List ContentsAssertion}
    (hPerm : rows.Perm others)
    (hAlike : ∀ x ∈ rows, ∀ y ∈ rows,
      x.quantity = y.quantity) :
    rows.getLast?.bind ContentsAssertion.quantity =
      others.getLast?.bind ContentsAssertion.quantity := by
  cases hRows : rows.getLast? with
  | none =>
    rw [List.getLast?_eq_none_iff] at hRows
    rw [hRows] at hPerm
    rw [List.nil_perm.mp hPerm]
    rfl
  | some x =>
    cases hOthers : others.getLast? with
    | none =>
      rw [List.getLast?_eq_none_iff] at hOthers
      rw [hOthers] at hPerm
      rw [List.perm_nil.mp hPerm] at hRows
      cases hRows
    | some y =>
      exact hAlike x (List.mem_of_getLast? hRows) y
        (hPerm.mem_iff.mpr (List.mem_of_getLast? hOthers))

--------
-- Groups And Repacks In Another Order
--------

/- The stated groups are the same up to their order. -/
theorem OrderFree.statedViews_perm
    (hFree : OrderFree rs)
    (hPerm : Permuted rs other) :
    ((statedGroups rs).map statedView).Perm
      ((statedGroups other).map statedView) := by
  unfold statedGroups
  rw [List.map_map, List.map_map]
  apply Grouping.map_groupBy_perm
    (fun row : ContentsAssertion =>
      (row.palletId, row.recordId))
    (fun k rows => statedView (k.1, contentsGroup k.2 rows))
    hPerm.contents
  intro k
  have hRows := hPerm.contents.filter (fun row =>
    (row.palletId, row.recordId) = k)
  have hLots : (statedLots (rs.contents.filter (fun row =>
        (row.palletId, row.recordId) = k))).Perm
      (statedLots (other.contents.filter (fun row =>
        (row.palletId, row.recordId) = k))) := by
    unfold statedLots
    apply Grouping.map_groupBy_perm ContentsAssertion.lotCode
      (fun lot rows => (lot, rows.getLast?.bind
        ContentsAssertion.quantity)) hRows
    intro lot
    rw [getLast?_bind_perm (hRows.filter _)]
    intro x hX y hY
    simp only [List.mem_filter, decide_eq_true_eq] at hX hY
    have hSame := hX.1.2.trans hY.1.2.symm
    rw [Prod.mk.injEq] at hSame
    exact hFree.contentsRows x hX.1.1 y hY.1.1 hSame.1 hSame.2
      (hX.2.trans hY.2.symm)
  have hTime := earliest_perm
    (hRows.map ContentsAssertion.recordedAt)
  have hView := Multiset.coe_eq_coe.mpr hLots
  unfold statedView groupView contentsGroup
  change (k.1, earliest _, _, (statedLots _ : LotsView)) =
    (k.1, earliest _, _, (statedLots _ : LotsView))
  rw [hTime, hView]

/- Sorted names do not depend on the order before. -/
theorem insertionSort_perm_eq
    {names others : List String}
    (hPerm : names.Perm others) :
    names.insertionSort (fun x y => x ≤ y) =
      others.insertionSort (fun x y => x ≤ y) := by
  have hPairs := List.pairwise_insertionSort
    (fun x y : String => x ≤ y)
  have hSorted :=
    (List.perm_insertionSort (fun x y => x ≤ y) names).trans
      (hPerm.trans
        (List.perm_insertionSort (fun x y => x ≤ y)
          others).symm)
  exact List.Perm.eq_of_pairwise
    (fun x y _ _ hLe hGe => le_antisymm hLe hGe)
    (hPairs names) (hPairs others) hSorted

/- The repacks are the same up to their order. -/
theorem OrderFree.opViews_perm
    (hFree : OrderFree rs)
    (hPerm : Permuted rs other) :
    ((repackOps rs).map opView).Perm
      ((repackOps other).map opView) := by
  have hGroups : ((groupBy RepackRow.recordId
          rs.repackRows).map (fun group =>
        opView (repackOp group.1 group.2))).Perm
      ((groupBy RepackRow.recordId other.repackRows).map
        (fun group => opView (repackOp group.1 group.2))) := by
    apply Grouping.map_groupBy_perm RepackRow.recordId
      (fun k rows => opView (repackOp k rows))
      hPerm.repackRows
    intro k
    have hRows := hPerm.repackRows.filter (fun row =>
      row.recordId = k)
    have hInputs := insertionSort_perm_eq
      (Grouping.distinct_perm
        (hRows.map RepackRow.inputPalletId))
    have hOutputs : outputsView
          (repackOp k (rs.repackRows.filter (fun row =>
            row.recordId = k))).outputs =
        outputsView
          (repackOp k (other.repackRows.filter (fun row =>
            row.recordId = k))).outputs := by
      unfold outputsView repackOp
      rw [List.map_map, List.map_map]
      apply Multiset.coe_eq_coe.mpr
      apply Grouping.map_groupBy_perm RepackRow.outputPalletId
        (fun q rows => (q, (outputLots rows : LotsView))) hRows
      intro q
      rw [Prod.mk.injEq]
      refine ⟨rfl, Multiset.coe_eq_coe.mpr ?_⟩
      unfold outputLots
      apply Grouping.map_groupBy_perm RepackRow.lotCode
        (fun lot rows => (lot, runningQuantity
          (rows.map RepackRow.quantity))) (hRows.filter _)
      intro lot
      rw [runningQuantity_perm
        (((hRows.filter _).filter _).map _)]
      intro x hX y hY
      rcases List.mem_map.mp hX with ⟨row, hRow, rfl⟩
      rcases List.mem_map.mp hY with ⟨more, hMore, rfl⟩
      simp only [List.mem_filter, decide_eq_true_eq]
        at hRow hMore
      exact hFree.repackRows row hRow.1.1.1 more hMore.1.1.1
        (hRow.1.1.2.trans hMore.1.1.2.symm)
        (hRow.1.2.trans hMore.1.2.symm)
        (hRow.2.trans hMore.2.symm)
    unfold opView
    rw [hOutputs]
    unfold repackOp
    simp only [Prod.mk.injEq, and_true, true_and]
    exact ⟨earliest_perm (hRows.map _), hInputs⟩
  have hSorted : ∀ set : RecordSet,
      ((repackOps set).map opView).Perm
        ((groupBy RepackRow.recordId set.repackRows).map
          (fun group =>
            opView (repackOp group.1 group.2))) := by
    intro set
    have hOps := (List.perm_insertionSort
      (fun x y : RepackOp => x.performedAt ≤ y.performedAt)
      ((groupBy RepackRow.recordId set.repackRows).map
        (fun group => repackOp group.1 group.2))).map opView
    rw [List.map_map] at hOps
    exact hOps
  exact (hSorted rs).trans (hGroups.trans (hSorted other).symm)

--------
-- The Same Records In Both Orders
--------

/- A stated group of the rows in their other order. -/
theorem OrderFree.exists_stated
    (hFree : OrderFree rs)
    (hPerm : Permuted rs other)
    {stated : String × ContentsGroup}
    (hStated : stated ∈ statedGroups other) :
    ∃ same ∈ statedGroups rs,
      statedView same = statedView stated := by
  have hMem := (hFree.statedViews_perm hPerm).mem_iff.mpr
    (List.mem_map_of_mem hStated)
  exact List.mem_map.mp hMem

/- A repack of the rows in their other order. -/
theorem OrderFree.exists_op
    (hFree : OrderFree rs)
    (hPerm : Permuted rs other)
    {op : RepackOp}
    (hOp : op ∈ repackOps other) :
    ∃ same ∈ repackOps rs, opView same = opView op := by
  have hMem := (hFree.opViews_perm hPerm).mem_iff.mpr
    (List.mem_map_of_mem hOp)
  exact List.mem_map.mp hMem

/- What equal views of a stated group say. -/
theorem statedView_eq
    {x y : String × ContentsGroup}
    (hView : statedView x = statedView y) :
    x.1 = y.1 ∧ x.2.recordedAt = y.2.recordedAt ∧
      x.2.lots.Perm y.2.lots := by
  unfold statedView groupView at hView
  simp only [Prod.mk.injEq, Multiset.coe_eq_coe] at hView
  exact ⟨hView.1, hView.2.1, hView.2.2.2⟩

/- What equal views of repacks say. -/
theorem opView_eq
    (hView : opView x = opView y) :
    x.recordId = y.recordId ∧ x.performedAt = y.performedAt ∧
      x.inputs = y.inputs ∧
        outputsView x.outputs = outputsView y.outputs := by
  unfold opView at hView
  simp only [Prod.mk.injEq] at hView
  exact hView

/- An output of one repack is one of its like. -/
theorem exists_output_of_view
    (hView : opView x = opView y)
    {p : String}
    {lots : Lots}
    (hOut : (p, lots) ∈ x.outputs) :
    ∃ more, (p, more) ∈ y.outputs ∧ more.Perm lots := by
  have hOutputs := (opView_eq hView).2.2.2
  have hMem : (p, (lots : LotsView)) ∈
      outputsView y.outputs := by
    rw [← hOutputs]
    exact Multiset.mem_coe.mpr
      (List.mem_map.mpr ⟨(p, lots), hOut, rfl⟩)
  rcases List.mem_map.mp (Multiset.mem_coe.mp hMem) with
    ⟨⟨name, more⟩, hMore, hSame⟩
  rw [Prod.mk.injEq, Multiset.coe_eq_coe] at hSame
  exact ⟨more, hSame.1 ▸ hMore, hSame.2⟩

theorem mem_outputs_of_view
    (hView : opView x = opView y)
    {p : String} :
    p ∈ x.outputs.map Prod.fst ↔
      p ∈ y.outputs.map Prod.fst := by
  have hOne : ∀ {x y : RepackOp}, opView x = opView y →
      p ∈ x.outputs.map Prod.fst →
        p ∈ y.outputs.map Prod.fst := by
    intro x y hView hOut
    rcases List.mem_map.mp hOut with ⟨⟨_, lots⟩, hMem, rfl⟩
    rcases exists_output_of_view hView hMem with
      ⟨more, hMore, -⟩
    exact List.mem_map.mpr ⟨_, hMore, rfl⟩
  exact ⟨hOne hView, hOne hView.symm⟩

/- An earlier repack fills the pallet in both orders. -/
theorem OrderFree.filledBefore_iff
    (hFree : OrderFree rs)
    (hPerm : Permuted rs other)
    {when_ : Int}
    {p : String} :
    FilledBefore rs when_ p ↔ FilledBefore other when_ p := by
  have hOne : ∀ {x y : RecordSet},
      ((repackOps x).map opView).Perm
          ((repackOps y).map opView) →
        FilledBefore x when_ p → FilledBefore y when_ p := by
    rintro x y hViews ⟨op, hOp, hBefore, hOut⟩
    rcases List.mem_map.mp (hViews.mem_iff.mp
      (List.mem_map_of_mem hOp)) with ⟨same, hSame, hView⟩
    refine ⟨same, hSame, ?_,
      (mem_outputs_of_view hView).mpr hOut⟩
    rw [(opView_eq hView).2.1]
    exact hBefore
  have hViews := hFree.opViews_perm hPerm
  exact ⟨hOne hViews, hOne hViews.symm⟩

/- Rows in another order decide as much. -/
theorem OrderFree.permuted
    (hFree : OrderFree rs)
    (hPerm : Permuted rs other) :
    OrderFree other where
  contentsRows := by
    intro x hX y hY
    exact hFree.contentsRows x (hPerm.contents.mem_iff.mpr hX) y
      (hPerm.contents.mem_iff.mpr hY)
  repackRows := by
    intro x hX y hY
    exact hFree.repackRows x (hPerm.repackRows.mem_iff.mpr hX) y
      (hPerm.repackRows.mem_iff.mpr hY)
  contentsTimes := by
    intro x hX y hY hPallet hTime
    rcases hFree.exists_stated hPerm hX with ⟨s, hS, hSView⟩
    rcases hFree.exists_stated hPerm hY with ⟨t, hT, hTView⟩
    rcases statedView_eq hSView with ⟨hSName, hSTime, hSLots⟩
    rcases statedView_eq hTView with ⟨hTName, hTTime, hTLots⟩
    have hSame := hFree.contentsTimes s hS t hT
      (hSName.trans (hPallet.trans hTName.symm))
      (hSTime.trans (hTime.trans hTTime.symm))
    exact hSLots.symm.trans (hSame.trans hTLots)
  repackTimes := by
    intro x hX y hY hTime p lots more hLots hMore
    rcases hFree.exists_op hPerm hX with ⟨s, hS, hSView⟩
    rcases hFree.exists_op hPerm hY with ⟨t, hT, hTView⟩
    rcases exists_output_of_view hSView.symm hLots with
      ⟨sLots, hSOut, hSLots⟩
    rcases exists_output_of_view hTView.symm hMore with
      ⟨tLots, hTOut, hTLots⟩
    have hSTime := (opView_eq hSView).2.1
    have hTTime := (opView_eq hTView).2.1
    have hSame := hFree.repackTimes s hS t hT
      (hSTime.trans (hTime.trans hTTime.symm)) p sLots tLots
      hSOut hTOut
    exact hSLots.symm.trans (hSame.trans hTLots)
  apart := by
    intro x hX y hY hTime hRecord p hIn hOut
    rcases hFree.exists_op hPerm hX with ⟨s, hS, hSView⟩
    rcases hFree.exists_op hPerm hY with ⟨t, hT, hTView⟩
    rcases opView_eq hSView with ⟨hSId, hSTime, hSIn, -⟩
    rcases opView_eq hTView with ⟨hTId, hTTime, -, -⟩
    apply hFree.apart s hS t hT
      (hSTime.trans (hTime.trans hTTime.symm)) _ p
      (hSIn ▸ hIn) ((mem_outputs_of_view hTView).mpr hOut)
    rw [hSId, hTId]
    exact hRecord
  chosen := by
    intro op hOp p hIn hNot x hX y hY hXName hYName hXAt hYAt
    rcases hFree.exists_op hPerm hOp with ⟨same, hSame, hView⟩
    rcases opView_eq hView with ⟨-, hTime, hInputs, -⟩
    rcases hFree.exists_stated hPerm hX with ⟨s, hS, hSView⟩
    rcases hFree.exists_stated hPerm hY with ⟨t, hT, hTView⟩
    rcases statedView_eq hSView with ⟨hSName, hSTime, hSLots⟩
    rcases statedView_eq hTView with ⟨hTName, hTTime, hTLots⟩
    have hAgree := hFree.chosen same hSame p (hInputs ▸ hIn)
      (by rw [hTime, hFree.filledBefore_iff hPerm]; exact hNot)
      s hS t hT (hSName.trans hXName) (hTName.trans hYName)
      (by rw [hSTime, hTime]; exact hXAt)
      (by rw [hTTime, hTime]; exact hYAt)
    exact hSLots.symm.trans (hAgree.trans hTLots)
  shipments := by
    intro x hX y hY
    exact hFree.shipments x (hPerm.shipments.mem_iff.mpr hX) y
      (hPerm.shipments.mem_iff.mpr hY)
  receipts := by
    intro x hX y hY
    exact hFree.receipts x (hPerm.receipts.mem_iff.mpr hX) y
      (hPerm.receipts.mem_iff.mpr hY)

end RecallReconstruction

end RegEngine
