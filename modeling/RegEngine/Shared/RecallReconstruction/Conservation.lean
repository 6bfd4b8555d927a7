import Mathlib.Algebra.BigOperators.Group.List.Basic
import Mathlib.Tactic.Abel
import Mathlib.Tactic.NormNum
import RegEngine.Shared.RecallReconstruction.Coverage

/-
  The quantities of a lot on the worksheet against those of
  the contents rows: they differ by what the repacks differ.

  Main declarations:
    * `RecallReconstruction.worksheetTotal`
    * `RecallReconstruction.deviation`
    * `RecallReconstruction.worksheetTotal_eq`
-/

--------
-- Totals
--------

namespace RegEngine

open Grouping (distinct groupBy)

namespace RecallReconstruction

/- The known quantities of a lot, added up. -/
def lotSum (lots : Lots) (lot : String) : ℚ :=
  ((lots.filter (fun entry => entry.1 = lot)).map (fun entry =>
    entry.2.getD 0)).sum

/- The sum of `quantity_asserted` over the rows of a lot. -/
def worksheetTotal
    (rows : List WorksheetRow)
    (lot : String) : ℚ :=
  ((rows.filter (fun row => row.lotCode = some lot)).map
    (fun row => row.quantityAsserted.getD 0)).sum

/- The quantity of a lot in all contents rows. -/
def rowTotal
    (rows : List ContentsAssertion)
    (lot : String) : ℚ :=
  ((rows.filter (fun row => row.lotCode = lot)).map (fun row =>
    row.quantity.getD 0)).sum

/-
  The quantity of a lot in the contents rows, where of the
  records that state a pallet only the first one counts.
-/
def statedTotal (rs : RecordSet) (lot : String) : ℚ :=
  ((groupBy ContentsAssertion.palletId rs.contents).map
    (fun group =>
      match group.2.head? with
      | none => 0
      | some first =>
          rowTotal (rs.contents.filter (fun row =>
            (row.palletId, row.recordId) =
              (group.1, first.recordId))) lot)).sum

/- The quantity of a lot that the latest contents state. -/
def latestQuantity
    (custody : CustodyModel)
    (lot p : String) : ℚ :=
  match (custody.timelines.get p).latestContents with
  | none => 0
  | some group => lotSum group.lots lot

/- How far the outputs of a repack are above its inputs. -/
def deviation
    (custody : CustodyModel)
    (lot : String)
    (op : RepackOp) : ℚ :=
  lotSum (op.outputs.flatMap Prod.snd) lot -
    (op.inputs.map (latestQuantity custody lot)).sum

/- Every quantity of the contents and the repacks is known. -/
structure AllKnown (rs : RecordSet) : Prop where
  contents : ∀ row ∈ rs.contents, row.quantity.isSome
  repacks : ∀ row ∈ rs.repackRows, row.quantity.isSome

/- No finding of the model blocks. -/
def Unblocked (rs : RecordSet) : Prop :=
  ∀ finding ∈ (buildCustody rs).findings,
    finding.blocking = false

/-
  A record states a lot of a pallet in one row; a pallet is
  not refilled, and goes into one repack record at most.
-/
structure PlainRecords (rs : RecordSet) : Prop where
  rows :
    (rs.contents.map (fun row =>
      (row.palletId, row.recordId, row.lotCode))).Nodup
  fresh : ∀ row ∈ rs.contents, ∀ repack ∈ rs.repackRows,
    row.palletId ≠ repack.outputPalletId
  outputs : ∀ x ∈ rs.repackRows, ∀ y ∈ rs.repackRows,
    x.outputPalletId = y.outputPalletId →
      x.recordId = y.recordId
  inputs : ∀ x ∈ rs.repackRows, ∀ y ∈ rs.repackRows,
    x.inputPalletId = y.inputPalletId →
      x.recordId = y.recordId

--------
-- Sums
--------

variable {α : Type} {op : RepackOp} {p : String}
variable {rs : RecordSet} {group : ContentsGroup}

/- The sum of a lot over lots put together. -/
theorem lotSum_flatMap
    (xs : List α)
    (lots : α → Lots)
    (lot : String) :
    lotSum (xs.flatMap lots) lot =
      (xs.map (fun x => lotSum (lots x) lot)).sum := by
  unfold lotSum
  induction xs with
  | nil => rfl
  | cons x rest ih =>
    rw [List.flatMap_cons, List.filter_append, List.map_append,
      List.sum_append, ih, List.map_cons, List.sum_cons]

/- The sum of a lot over rows put together. -/
theorem worksheetTotal_flatMap
    (xs : List α)
    (rows : α → List WorksheetRow)
    (lot : String) :
    worksheetTotal (xs.flatMap rows) lot =
      (xs.map (fun x => worksheetTotal (rows x) lot)).sum := by
  unfold worksheetTotal
  induction xs with
  | nil => rfl
  | cons x rest ih =>
    rw [List.flatMap_cons, List.filter_append, List.map_append,
      List.sum_append, ih, List.map_cons, List.sum_cons]

/- A sum is split by a property of the names. -/
theorem sum_split
    (names : List String)
    (weight : String → ℚ)
    (keep : String → Bool) :
    (names.map weight).sum =
      ((names.filter keep).map weight).sum +
        ((names.filter (fun p => !keep p)).map weight).sum := by
  induction names with
  | nil => simp
  | cons p rest ih =>
    cases hKeep : keep p with
    | true =>
      rw [List.filter_cons_of_pos hKeep,
        List.filter_cons_of_neg (by simp [hKeep])]
      simp only [List.map_cons, List.sum_cons]
      rw [ih, add_assoc]
    | false =>
      rw [List.filter_cons_of_neg (by simp [hKeep]),
        List.filter_cons_of_pos (by simp [hKeep])]
      simp only [List.map_cons, List.sum_cons]
      rw [ih]
      abel

/- The sum over nested lists. -/
theorem sum_flatMap
    (xs : List α)
    (names : α → List String)
    (weight : String → ℚ) :
    ((xs.flatMap names).map weight).sum =
      (xs.map (fun x => ((names x).map weight).sum)).sum := by
  induction xs with
  | nil => rfl
  | cons x rest ih =>
    rw [List.flatMap_cons, List.map_append, List.sum_append, ih,
      List.map_cons, List.sum_cons]

/- Equal dictionaries of lots have the same sums. -/
theorem lotSum_of_sameLots
    {lots other : Lots}
    (hLots : (lots.map Prod.fst).Nodup)
    (hOther : (other.map Prod.fst).Nodup)
    (hSame : sameLots lots other = true)
    (lot : String) :
    lotSum lots lot = lotSum other lot := by
  have hPerm : lots.Perm other :=
    (List.perm_ext_iff_of_nodup hLots.of_map hOther.of_map).mpr
      (sameLots_iff.mp hSame)
  exact ((hPerm.filter _).map _).sum_eq

variable {lot : String} {q : String}

/- The total of a lot is its sum when all quantities are known. -/
theorem totalOf_eq
    {entries : Lots}
    (hKnown : ∀ entry ∈ entries, entry.2.isSome)
    (hHas : HasLot entries lot) :
    totalOf entries lot = some (lotSum entries lot) := by
  have hSum : ∀ found : Lots,
      (∀ entry ∈ found, entry.2.isSome) →
        sumKnown (found.map Prod.snd) =
          some ((found.map (fun entry =>
            entry.2.getD 0)).sum) := by
    intro found
    induction found with
    | nil => exact fun _ => rfl
    | cons entry rest ih =>
      intro hFound
      rw [List.forall_mem_cons] at hFound
      rcases Option.isSome_iff_exists.mp hFound.1 with
        ⟨quantity, hQuantity⟩
      have hRest := ih hFound.2
      unfold sumKnown at hRest ⊢
      rw [List.map_cons, List.foldr_cons, hRest, hQuantity,
        List.map_cons, List.sum_cons, hQuantity]
      rfl
  unfold totalOf lotSum
  split
  · rename_i hNone
    rcases List.mem_map.mp hHas with ⟨entry, hEntry, hLot⟩
    have hMem : entry ∈
        entries.filter (fun entry => entry.1 = lot) :=
      List.mem_filter.mpr ⟨hEntry, decide_eq_true hLot⟩
    rw [hNone] at hMem
    cases hMem
  · apply hSum
    intro entry hEntry
    exact hKnown entry (List.mem_filter.mp hEntry).1

/- A lot that is not among the entries sums up to nothing. -/
theorem lotSum_eq_zero
    {entries : Lots}
    (hNone : ¬ HasLot entries lot) :
    lotSum entries lot = 0 := by
  have hEmpty :
      entries.filter (fun entry => entry.1 = lot) = [] := by
    rw [List.filter_eq_nil_iff]
    intro entry hEntry hLot
    exact hNone (List.mem_map.mpr
      ⟨entry, hEntry, of_decide_eq_true hLot⟩)
  unfold lotSum
  rw [hEmpty]
  rfl

--------
-- Groups Of Plain Records
--------

/- The row by which a record names an input. -/
theorem exists_row_of_input
    (hOp : op ∈ repackOps rs)
    (hIn : p ∈ op.inputs) :
    ∃ row ∈ rs.repackRows,
      row.recordId = op.recordId ∧ row.inputPalletId = p := by
  rcases mem_repackOps.mp hOp with ⟨group, hGroup, rfl⟩
  rcases mem_inputs.mp hIn with ⟨row, hRow, hName⟩
  rw [Grouping.mem_of_mem_groupBy hGroup] at hRow
  exact ⟨row, hRow.1, hRow.2, hName⟩

/- The row by which a record names an output. -/
theorem exists_row_of_output
    (hOp : op ∈ repackOps rs)
    (hOut : q ∈ op.outputs.map Prod.fst) :
    ∃ row ∈ rs.repackRows,
      row.recordId = op.recordId ∧ row.outputPalletId = q := by
  rcases mem_repackOps.mp hOp with ⟨group, hGroup, rfl⟩
  rcases mem_outputs.mp hOut with ⟨row, hRow, hName⟩
  rw [Grouping.mem_of_mem_groupBy hGroup] at hRow
  exact ⟨row, hRow.1, hRow.2, hName⟩

/- The records of repacks do not repeat. -/
theorem nodup_recordIds
    (rs : RecordSet) :
    ((repackOps rs).map RepackOp.recordId).Nodup := by
  have hPerm :
      ((repackOps rs).map RepackOp.recordId).Perm
        ((groupBy RepackRow.recordId rs.repackRows).map
          Prod.fst) := by
    have hOps := (List.perm_insertionSort
      (fun x y : RepackOp => x.performedAt ≤ y.performedAt)
      ((groupBy RepackRow.recordId rs.repackRows).map
        (fun group => repackOp group.1 group.2))).map
      RepackOp.recordId
    rw [List.map_map] at hOps
    exact hOps
  exact hPerm.nodup_iff.mpr (Grouping.nodup_keys_groupBy _ _)

theorem eq_of_recordId
    {op other : RepackOp}
    (hOp : op ∈ repackOps rs)
    (hOther : other ∈ repackOps rs)
    (hRecord : op.recordId = other.recordId) :
    op = other :=
  List.inj_on_of_nodup_map (nodup_recordIds rs) hOp hOther
    hRecord

/- A pallet is an output of one repack. -/
theorem PlainRecords.eq_of_output
    (hPlain : PlainRecords rs)
    {op other : RepackOp}
    (hOp : op ∈ repackOps rs)
    (hOther : other ∈ repackOps rs)
    (hOut : q ∈ op.outputs.map Prod.fst)
    (hAlso : q ∈ other.outputs.map Prod.fst) :
    op = other := by
  rcases exists_row_of_output hOp hOut with
    ⟨x, hX, hXRecord, hXName⟩
  rcases exists_row_of_output hOther hAlso with
    ⟨y, hY, hYRecord, hYName⟩
  apply eq_of_recordId hOp hOther
  rw [← hXRecord, ← hYRecord]
  exact hPlain.outputs x hX y hY (hXName.trans hYName.symm)

/- A pallet is an input of one repack. -/
theorem PlainRecords.eq_of_input
    (hPlain : PlainRecords rs)
    {op other : RepackOp}
    (hOp : op ∈ repackOps rs)
    (hOther : other ∈ repackOps rs)
    (hIn : p ∈ op.inputs)
    (hAlso : p ∈ other.inputs) :
    op = other := by
  rcases exists_row_of_input hOp hIn with
    ⟨x, hX, hXRecord, hXName⟩
  rcases exists_row_of_input hOther hAlso with
    ⟨y, hY, hYRecord, hYName⟩
  apply eq_of_recordId hOp hOther
  rw [← hXRecord, ← hYRecord]
  exact hPlain.inputs x hX y hY (hXName.trans hYName.symm)

/- The rows that a stated group comes from. -/
theorem exists_rows_of_stated
    (hStated : group ∈ statedOf rs p) :
    ∃ rows ∈ groupBy (fun row : ContentsAssertion =>
        (row.palletId, row.recordId)) rs.contents,
      rows.1.1 = p ∧
        group = contentsGroup rows.1.2 rows.2 := by
  rcases List.mem_map.mp hStated with ⟨stated, hOf, rfl⟩
  rcases List.mem_filter.mp hOf with ⟨hMem, hName⟩
  rcases List.mem_map.mp hMem with ⟨rows, hRows, rfl⟩
  exact ⟨rows, hRows, of_decide_eq_true hName, rfl⟩

/- A pallet with a stated group has a contents row. -/
theorem exists_contents_row
    (hStated : group ∈ statedOf rs p) :
    ∃ row ∈ rs.contents, row.palletId = p := by
  rcases exists_rows_of_stated hStated with
    ⟨rows, hRows, hName, -⟩
  rcases (Grouping.mem_groupBy.mp hRows).1 with
    ⟨row, hRow, hKey⟩
  exact ⟨row, hRow, (congrArg Prod.fst hKey).trans hName⟩

/- A group states every lot once. -/
theorem nodup_lots
    (hGroup : group ∈ groupsOf rs p) :
    (group.lots.map Prod.fst).Nodup := by
  rcases List.mem_append.mp hGroup with hStated | hDerived
  · rcases exists_rows_of_stated hStated with ⟨rows, -, -, rfl⟩
    change ((statedLots rows.2).map Prod.fst).Nodup
    unfold statedLots
    rw [List.map_map]
    exact Grouping.nodup_keys_groupBy _ _
  · rcases List.mem_flatMap.mp hDerived with ⟨op, hOp, hOf⟩
    rcases mem_derivedGroups.mp hOf with ⟨lots, hOut, rfl⟩
    rcases mem_repackOps.mp hOp with ⟨rows, -, rfl⟩
    rcases List.mem_map.mp hOut with ⟨output, -, hPair⟩
    have hLots : outputLots output.2 = lots :=
      congrArg Prod.snd hPair
    change (lots.map Prod.fst).Nodup
    rw [← hLots]
    unfold outputLots
    rw [List.map_map]
    exact Grouping.nodup_keys_groupBy _ _

/- Unblocked plain records: the groups of a pallet agree. -/
theorem PlainRecords.sameLots
    (hPlain : PlainRecords rs)
    (hClear : Unblocked rs)
    {x y : ContentsGroup}
    (hX : x ∈ groupsOf rs p)
    (hY : y ∈ groupsOf rs p) :
    sameLots x.lots y.lots = true := by
  have hFree : ¬ (buildCustody rs).Blocked p := by
    rintro ⟨finding, hFinding, hBlocking, -⟩
    rw [hClear finding hFinding] at hBlocking
    cases hBlocking
  by_cases hStated : ∃ row ∈ rs.contents, row.palletId = p
  · -- no repack puts anything on the pallet
    apply sameLots_of_not_blocked hFree
    · rintro ⟨pair, hPair, hDerived, -⟩
      have hMem : pair.2 ∈ groupsOf rs p :=
        mem_contentsGroups.mp (List.mem_of_mem_tail
          (List.of_mem_zip hPair).2)
      rcases List.mem_append.mp hMem with hOf | hOf
      · rcases exists_rows_of_stated hOf with ⟨_, -, -, hGroup⟩
        rw [hGroup] at hDerived
        exact hDerived rfl
      · rcases List.mem_flatMap.mp hOf with ⟨op, hOp, hGroup⟩
        rcases mem_derivedGroups.mp hGroup with ⟨lots, hOut, -⟩
        rcases exists_row_of_output hOp
            (List.mem_map_of_mem hOut) with
          ⟨repack, hRepack, -, hName⟩
        rcases hStated with ⟨row, hRow, hPallet⟩
        exact hPlain.fresh row hRow repack hRepack
          (hPallet.trans hName.symm)
    · exact mem_contentsGroups.mpr hX
    · exact mem_contentsGroups.mpr hY
  · -- one output of one repack states the pallet
    have hDerived : ∀ group ∈ groupsOf rs p,
        ∃ op ∈ repackOps rs, ∃ lots,
          (p, lots) ∈ op.outputs ∧
            group = derivedGroup op lots := by
      intro group hGroup
      rcases List.mem_append.mp hGroup with hOf | hOf
      · exact absurd (exists_contents_row hOf) hStated
      · rcases List.mem_flatMap.mp hOf with ⟨op, hOp, hMem⟩
        exact ⟨op, hOp, mem_derivedGroups.mp hMem⟩
    rcases hDerived x hX with ⟨op, hOp, lots, hOut, rfl⟩
    rcases hDerived y hY with ⟨other, hOther, more, hAlso, rfl⟩
    have hSame := hPlain.eq_of_output (q := p) hOp hOther
      (List.mem_map_of_mem hOut) (List.mem_map_of_mem hAlso)
    subst hSame
    have hPair : (p, lots) = (p, more) :=
      List.inj_on_of_nodup_map (nodup_outputs hOp) hOut hAlso
        rfl
    rw [(Prod.mk.inj hPair).2]
    exact sameLots_equivalence.refl (derivedGroup op more)

/- The latest quantity of a pallet is that of any of its groups. -/
theorem PlainRecords.lotSum_eq
    (hPlain : PlainRecords rs)
    (hClear : Unblocked rs)
    (hGroup : group ∈ groupsOf rs p)
    (lot : String) :
    lotSum group.lots lot =
      latestQuantity (buildCustody rs) lot p := by
  unfold latestQuantity
  cases hLatest :
      ((buildCustody rs).timelines.get p).latestContents with
  | none =>
    rw [← mem_contentsGroups,
      List.getLast?_eq_none_iff.mp hLatest] at hGroup
    cases hGroup
  | some latest =>
    have hMem := mem_contentsGroups.mp
      (List.mem_of_getLast? hLatest)
    exact lotSum_of_sameLots (nodup_lots hGroup)
      (nodup_lots hMem) (hPlain.sameLots hClear hGroup hMem)
      lot

--------
-- One Repack
--------

open Grouping (groupBy)

/- Rows of which all are known add up to what is known. -/
theorem runningQuantity_isSome
    {quantities : List (Option ℚ)}
    (hRows : quantities ≠ [])
    (hKnown : ∀ q ∈ quantities, q.isSome) :
    (runningQuantity quantities).isSome := by
  have hFold : ∀ (rest : List (Option ℚ))
      (current : Option ℚ),
      current.isSome → (∀ q ∈ rest, q.isSome) →
        (runningQuantity (current :: rest)).isSome := by
    intro rest
    induction rest with
    | nil => exact fun _ hCurrent _ => hCurrent
    | cons q rest ih =>
      intro current hCurrent hRest
      rw [List.forall_mem_cons] at hRest
      rcases Option.isSome_iff_exists.mp hCurrent with
        ⟨x, rfl⟩
      rcases Option.isSome_iff_exists.mp hRest.1 with
        ⟨y, rfl⟩
      exact ih (some (x + y)) rfl hRest.2
  cases quantities with
  | nil => exact absurd rfl hRows
  | cons first rest =>
    rw [List.forall_mem_cons] at hKnown
    exact hFold rest first hKnown.1 hKnown.2

/- The quantities that the groups state are known. -/
theorem AllKnown.groups
    (hKnown : AllKnown rs)
    (hGroup : group ∈ groupsOf rs p) :
    ∀ entry ∈ group.lots, entry.2.isSome := by
  intro entry hEntry
  rcases List.mem_append.mp hGroup with hStated | hDerived
  · rcases exists_rows_of_stated hStated with
      ⟨rows, hRows, -, rfl⟩
    rcases List.mem_map.mp hEntry with ⟨lots, hLots, rfl⟩
    change (lots.2.getLast?.bind
      ContentsAssertion.quantity).isSome
    cases hLast : lots.2.getLast? with
    | none =>
      exact absurd (List.getLast?_eq_none_iff.mp hLast)
        (Grouping.ne_nil_of_mem_groupBy hLots)
    | some row =>
      have hRow := (Grouping.mem_of_mem_groupBy hLots).mp
        (List.mem_of_getLast? hLast)
      exact hKnown.contents row
        ((Grouping.mem_of_mem_groupBy hRows).mp hRow.1).1
  · rcases List.mem_flatMap.mp hDerived with ⟨op, hOp, hOf⟩
    rcases mem_derivedGroups.mp hOf with ⟨lots, hOut, rfl⟩
    rcases mem_repackOps.mp hOp with ⟨rows, hRows, rfl⟩
    rcases List.mem_map.mp hOut with ⟨output, hOutput, hPair⟩
    have hLots : outputLots output.2 = lots :=
      congrArg Prod.snd hPair
    change entry ∈ lots at hEntry
    rw [← hLots] at hEntry
    rcases List.mem_map.mp hEntry with ⟨ofLot, hOfLot, rfl⟩
    apply runningQuantity_isSome
    · rw [ne_eq, List.map_eq_nil_iff]
      exact Grouping.ne_nil_of_mem_groupBy hOfLot
    · intro q hQ
      rcases List.mem_map.mp hQ with ⟨row, hRow, rfl⟩
      have hIn := (Grouping.mem_of_mem_groupBy hOfLot).mp hRow
      have hRecord :=
        (Grouping.mem_of_mem_groupBy hOutput).mp hIn.1
      exact hKnown.repacks row
        ((Grouping.mem_of_mem_groupBy hRows).mp hRecord.1).1

/- The group that a repack states for an output. -/
theorem derivedGroup_mem
    (hOp : op ∈ repackOps rs)
    {output : String × Lots}
    (hOutput : output ∈ op.outputs) :
    derivedGroup op output.2 ∈ groupsOf rs output.1 := by
  apply List.mem_append_right
  apply List.mem_flatMap.mpr
  exact ⟨op, hOp, mem_derivedGroups.mpr
    ⟨output.2, hOutput, rfl⟩⟩

/- The sum of the inputs is that of their latest contents. -/
theorem lotSum_inputs
    (hPlain : PlainRecords rs)
    (hClear : Unblocked rs)
    {timeline : String → PalletTimeline}
    (hAmong : ∀ q, ∀ group ∈ (timeline q).contentsGroups,
      group ∈
        ((buildCustody rs).timelines.get q).contentsGroups)
    {when_ : Int}
    {names : List String}
    {groups : List ContentsGroup}
    (hGroups :
      names.map (fun q => (timeline q).contentsAt when_) =
        groups.map some)
    (lot : String) :
    lotSum (groups.flatMap ContentsGroup.lots) lot =
      (names.map
        (latestQuantity (buildCustody rs) lot)).sum := by
  induction names generalizing groups with
  | nil =>
    rw [List.map_eq_nil_iff.mp hGroups.symm]
    rfl
  | cons p rest ih =>
    cases groups with
    | nil => cases hGroups
    | cons group groups =>
      simp only [List.map_cons, List.cons.injEq] at hGroups
      have hGroup := mem_contentsGroups.mp
        (hAmong p group (mem_of_contentsAt hGroups.1))
      have hRest := ih hGroups.2
      rw [lotSum_flatMap] at hRest ⊢
      rw [List.map_cons, List.sum_cons, List.map_cons,
        List.sum_cons, hRest,
        hPlain.lotSum_eq hClear hGroup lot]

/- The sum of the outputs is that of their latest contents. -/
theorem lotSum_outputs
    (hPlain : PlainRecords rs)
    (hClear : Unblocked rs)
    (hOp : op ∈ repackOps rs)
    (lot : String) :
    lotSum (op.outputs.flatMap Prod.snd) lot =
      ((op.outputs.map Prod.fst).map
        (latestQuantity (buildCustody rs) lot)).sum := by
  rw [lotSum_flatMap, List.map_map]
  congr 1
  apply List.map_congr_left
  intro output hOutput
  exact hPlain.lotSum_eq hClear
    (derivedGroup_mem hOp hOutput) lot

/- An unblocked repack deviates no more than may pass. -/
theorem abs_deviation_le
    (hKnown : AllKnown rs)
    (hClear : Unblocked rs)
    (hPlain : PlainRecords rs)
    (hOp : op ∈ repackOps rs)
    (lot : String) :
    |deviation (buildCustody rs) lot op| ≤
      1 / 1000000000 := by
  rcases exists_met hOp with ⟨timeline, hAmong, hReported⟩
  rcases Grouping.mapM_cases (fun q =>
      (timeline q).contentsAt op.performedAt) op.inputs with
    ⟨groups, hGroups⟩ | ⟨q, hQ, hNone⟩
  · have hMap := Grouping.mapM_eq_some.mp hGroups
    have hInputs : inputLots op timeline =
        some (groups.flatMap ContentsGroup.lots) := by
      unfold inputLots
      rw [hGroups]
      rfl
    unfold deviation
    rw [← lotSum_inputs hPlain hClear hAmong hMap lot]
    by_cases hHas : HasLot
        (groups.flatMap ContentsGroup.lots ++
          op.outputs.flatMap Prod.snd) lot
    · rcases List.mem_map.mp hHas with ⟨entry, hEntry, rfl⟩
      have hBalance : reconciles
          (groups.flatMap ContentsGroup.lots)
          (op.outputs.flatMap Prod.snd) entry.1 = true := by
        by_contra hApart
        rw [Bool.not_eq_true] at hApart
        have hBlocking := hClear _ (hReported _
          (List.mem_append_right _
            (mem_mismatchFindings hInputs hEntry hApart)))
        cases hBlocking
      unfold reconciles at hBalance
      split at hBalance
      · rename_i inp out hInp hOut
        rcases exists_entry_of_totalOf hInp with ⟨x, hX⟩
        rcases exists_entry_of_totalOf hOut with ⟨y, hY⟩
        rw [totalOf_eq _ (List.mem_map.mpr ⟨_, hX, rfl⟩)]
          at hInp
        rw [totalOf_eq _ (List.mem_map.mpr ⟨_, hY, rfl⟩)]
          at hOut
        · rw [Option.some.inj hInp, Option.some.inj hOut,
            abs_sub_comm]
          exact of_decide_eq_true hBalance
        · intro other hOther
          rcases List.mem_flatMap.mp hOther with
            ⟨output, hOutput, hIn⟩
          exact hKnown.groups (derivedGroup_mem hOp hOutput)
            other hIn
        · intro other hOther
          rcases List.mem_flatMap.mp hOther with
            ⟨group, hGroup, hIn⟩
          have hSome : some group ∈ groups.map some :=
            List.mem_map_of_mem hGroup
          rw [← hMap] at hSome
          rcases List.mem_map.mp hSome with ⟨p, -, hAt⟩
          exact hKnown.groups (mem_contentsGroups.mp
            (hAmong p group (mem_of_contentsAt hAt))) other hIn
      · cases hBalance
    · unfold HasLot at hHas
      rw [List.map_append, List.mem_append, not_or] at hHas
      rw [lotSum_eq_zero hHas.1, lotSum_eq_zero hHas.2]
      norm_num
  · have hBlocking := hClear _ (hReported _
      (List.mem_append_left _ (List.mem_flatMap.mpr
        ⟨q, hQ, mem_inputFindings hNone⟩)))
    cases hBlocking

--------
-- All Pallets
--------

/- Lists drawn from different members of a list do not meet. -/
theorem nodup_flatMap_of_unique
    {xs : List α}
    (hNodup : xs.Nodup)
    {names : α → List String}
    (hEach : ∀ x ∈ xs, (names x).Nodup)
    (hUnique : ∀ x ∈ xs, ∀ y ∈ xs, ∀ p,
      p ∈ names x → p ∈ names y → x = y) :
    (xs.flatMap names).Nodup := by
  rw [List.nodup_flatMap]
  refine ⟨hEach, ?_⟩
  apply List.Pairwise.imp_of_mem _ hNodup
  intro x y hX hY hNe p hIn hAlso
  exact hNe (hUnique x hX y hY p hIn hAlso)

/- The consumed pallets are the inputs of the repacks. -/
theorem PlainRecords.consumed_perm
    (hPlain : PlainRecords rs) :
    ((buildCustody rs).timelines.keys.filter (fun p =>
        !((buildCustody rs).timelines.get p).isTerminal)).Perm
      ((repackOps rs).flatMap RepackOp.inputs) := by
  rw [List.perm_ext_iff_of_nodup]
  · intro p
    rw [List.mem_filter, List.mem_flatMap, Bool.not_eq_true',
      isTerminal_eq_false]
    constructor
    · exact And.right
    · intro hIn
      exact ⟨mem_keys_of_consumed
        (isTerminal_eq_false.mpr hIn), hIn⟩
  · exact (buildCustody rs).timelines.nodup.filter _
  · apply nodup_flatMap_of_unique (nodup_recordIds rs).of_map
    · exact fun op hOp => nodup_inputs hOp
    · intro op hOp other hOther p hIn hAlso
      exact hPlain.eq_of_input hOp hOther hIn hAlso

/- A pallet whose groups are none has no latest quantity. -/
theorem latestQuantity_eq_zero
    (hNone : groupsOf rs p = [])
    (lot : String) :
    latestQuantity (buildCustody rs) lot p = 0 := by
  unfold latestQuantity
  cases hLatest :
      ((buildCustody rs).timelines.get p).latestContents with
  | none => rfl
  | some latest =>
    have hMem := mem_contentsGroups.mp
      (List.mem_of_getLast? hLatest)
    rw [hNone] at hMem
    cases hMem

/- The pallets with contents are those stated or put out. -/
theorem PlainRecords.stated_perm
    (hPlain : PlainRecords rs) :
    ((buildCustody rs).timelines.keys.filter (fun p =>
        !(groupsOf rs p).isEmpty)).Perm
      (distinct (rs.contents.map ContentsAssertion.palletId) ++
        (repackOps rs).flatMap (fun op =>
          op.outputs.map Prod.fst)) := by
  rw [List.perm_ext_iff_of_nodup]
  · intro p
    rw [List.mem_filter, List.mem_append,
      Grouping.mem_distinct, List.mem_map, List.mem_flatMap,
      Bool.not_eq_true', List.isEmpty_eq_false_iff]
    constructor
    · rintro ⟨-, hSome⟩
      rcases List.exists_mem_of_ne_nil _ hSome with
        ⟨group, hGroup⟩
      rcases List.mem_append.mp hGroup with hOf | hOf
      · exact Or.inl (exists_contents_row hOf)
      · rcases List.mem_flatMap.mp hOf with ⟨op, hOp, hMem⟩
        rcases mem_derivedGroups.mp hMem with ⟨lots, hOut, -⟩
        exact Or.inr ⟨op, hOp, List.mem_map_of_mem hOut⟩
    · intro hPlaced
      have hAsserts : ∃ lot, Asserts rs p lot := by
        rcases hPlaced with
          ⟨row, hRow, hName⟩ | ⟨op, hOp, hOut⟩
        · exact ⟨row.lotCode, Or.inl ⟨row, hRow, hName, rfl⟩⟩
        · rcases exists_row_of_output hOp hOut with
            ⟨row, hRow, -, hName⟩
          exact ⟨row.lotCode, Or.inr ⟨row, hRow, hName, rfl⟩⟩
      rcases hAsserts with ⟨lot, hAsserts⟩
      rcases exists_group_of_asserts hAsserts with
        ⟨group, hGroup, -⟩
      exact ⟨mem_keys_of_group hGroup,
        List.ne_nil_of_mem (mem_contentsGroups.mp hGroup)⟩
  · exact (buildCustody rs).timelines.nodup.filter _
  · apply List.Nodup.append (Grouping.nodup_distinct _)
    · apply nodup_flatMap_of_unique (nodup_recordIds rs).of_map
      · exact fun op hOp => nodup_outputs hOp
      · intro op hOp other hOther q hOut hAlso
        exact hPlain.eq_of_output hOp hOther hOut hAlso
    · intro p hStated hPut
      rw [Grouping.mem_distinct, List.mem_map] at hStated
      rcases hStated with ⟨row, hRow, hName⟩
      rcases List.mem_flatMap.mp hPut with ⟨op, hOp, hOut⟩
      rcases exists_row_of_output hOp hOut with
        ⟨repack, hRepack, -, hAlso⟩
      exact hPlain.fresh row hRow repack hRepack
        (hName.trans hAlso.symm)

/- The rows of a pallet show its latest quantity. -/
theorem worksheetTotal_palletRows
    (custody : CustodyModel)
    (implicated lot p : String) :
    worksheetTotal (palletRows custody implicated p) lot =
      if (custody.timelines.get p).isTerminal then
        latestQuantity custody lot p
      else
        0 := by
  unfold palletRows latestQuantity
  split
  · cases (custody.timelines.get p).latestContents with
    | none => rfl
    | some group =>
      change worksheetTotal ((group.lots.insertionSort _).map _)
        lot = lotSum group.lots lot
      have hPerm := List.perm_insertionSort
        (fun x y : String × Option ℚ => x.1 ≤ y.1) group.lots
      unfold worksheetTotal lotSum
      rw [← ((hPerm.filter _).map _).sum_eq, List.filter_map,
        List.map_map]
      congr 2
      apply List.filter_congr
      intro entry _
      exact decide_eq_decide.mpr Option.some_inj
  · rfl

/- The worksheet shows the pallets that were not consumed. -/
theorem worksheetTotal_eq_sum
    (custody : CustodyModel)
    (implicated lot : String) :
    worksheetTotal (buildWorksheet custody implicated) lot =
      ((custody.timelines.keys.filter (fun p =>
          (custody.timelines.get p).isTerminal)).map
        (latestQuantity custody lot)).sum := by
  unfold buildWorksheet sortedPallets
  rw [worksheetTotal_flatMap,
    ((List.perm_insertionSort _ _).map _).sum_eq]
  induction custody.timelines.keys with
  | nil => rfl
  | cons p rest ih =>
    rw [List.map_cons, List.sum_cons, ih,
      worksheetTotal_palletRows]
    cases hTerminal : (custody.timelines.get p).isTerminal with
    | true =>
      rw [List.filter_cons_of_pos (by simp [hTerminal]),
        List.map_cons, List.sum_cons, if_pos rfl]
    | false =>
      rw [List.filter_cons_of_neg (by simp [hTerminal]),
        if_neg (by simp), zero_add]

--------
-- Stated Quantities
--------

/- Rows of distinct lots are a group each. -/
theorem lotSum_statedLots
    {rows : List ContentsAssertion}
    (hNodup : (rows.map ContentsAssertion.lotCode).Nodup)
    (lot : String) :
    lotSum (statedLots rows) lot = rowTotal rows lot := by
  have hLots : statedLots rows =
      rows.map (fun row => (row.lotCode, row.quantity)) := by
    unfold statedLots
    rw [Grouping.groupBy_of_nodup hNodup, List.map_map]
    rfl
  unfold lotSum rowTotal
  rw [hLots, List.filter_map, List.map_map]
  rfl

/- The stated total adds up the pallets that are stated. -/
theorem PlainRecords.statedTotal_eq
    (hPlain : PlainRecords rs)
    (hClear : Unblocked rs)
    (lot : String) :
    statedTotal rs lot =
      ((distinct (rs.contents.map
          ContentsAssertion.palletId)).map
        (latestQuantity (buildCustody rs) lot)).sum := by
  unfold statedTotal
  have hKeys : distinct (rs.contents.map
        ContentsAssertion.palletId) =
      (groupBy ContentsAssertion.palletId rs.contents).map
        Prod.fst := by
    unfold groupBy
    rw [List.map_map]
    exact (List.map_id _).symm
  rw [hKeys, List.map_map]
  congr 1
  apply List.map_congr_left
  intro group hGroup
  cases hFirst : group.2.head? with
  | none =>
    exact absurd (List.head?_eq_none_iff.mp hFirst)
      (Grouping.ne_nil_of_mem_groupBy hGroup)
  | some first =>
    have hRow := (Grouping.mem_of_mem_groupBy hGroup).mp
      (List.mem_of_head? hFirst)
    let key := fun row : ContentsAssertion =>
      (row.palletId, row.recordId)
    let rows := rs.contents.filter (fun row =>
      key row = (group.1, first.recordId))
    have hRows : ((group.1, first.recordId), rows) ∈
        groupBy key rs.contents :=
      Grouping.mem_groupBy.mpr
        ⟨⟨first, hRow.1, by rw [← hRow.2]⟩, rfl⟩
    have hStated : contentsGroup first.recordId rows ∈
        groupsOf rs group.1 := by
      apply List.mem_append_left
      apply List.mem_map.mpr
      refine ⟨(group.1, contentsGroup first.recordId rows),
        List.mem_filter.mpr ⟨?_, decide_eq_true rfl⟩, rfl⟩
      exact List.mem_map.mpr ⟨_, hRows, rfl⟩
    have hNodup :
        (rows.map ContentsAssertion.lotCode).Nodup := by
      have hAll := hPlain.rows.sublist
        ((List.filter_sublist (p := fun row =>
          key row = (group.1, first.recordId))).map _)
      have hSame : rows.map (fun row =>
            (row.palletId, row.recordId, row.lotCode)) =
          (rows.map ContentsAssertion.lotCode).map (fun lot =>
            (group.1, first.recordId, lot)) := by
        rw [List.map_map]
        apply List.map_congr_left
        intro row hMem
        have hKey : key row = (group.1, first.recordId) :=
          of_decide_eq_true (List.mem_filter.mp hMem).2
        rw [Prod.mk.injEq] at hKey
        simp [hKey.1, hKey.2]
      rw [hSame] at hAll
      exact hAll.of_map
    change rowTotal rows lot = _
    rw [← lotSum_statedLots hNodup]
    exact hPlain.lotSum_eq hClear hStated lot

--------
-- Conservation
--------

/-
  For plain records without blocking findings, the worksheet
  shows of a lot what the contents rows state and what the
  repacks deviate, which is next to nothing for each of them.
-/
theorem worksheetTotal_eq
    {rs : RecordSet}
    (hKnown : AllKnown rs)
    (hClear : Unblocked rs)
    (hPlain : PlainRecords rs)
    (implicated lot : String) :
    worksheetTotal
        (buildWorksheet (buildCustody rs) implicated) lot =
      statedTotal rs lot +
        ((repackOps rs).map
          (deviation (buildCustody rs) lot)).sum ∧
    ∀ op ∈ repackOps rs,
      |deviation (buildCustody rs) lot op| ≤
        1 / 1000000000 := by
  refine ⟨?_, fun op hOp =>
    abs_deviation_le hKnown hClear hPlain hOp lot⟩
  let weight := latestQuantity (buildCustody rs) lot
  let names := (buildCustody rs).timelines.keys
  have hShown := worksheetTotal_eq_sum (buildCustody rs)
    implicated lot
  have hTerminal := sum_split names weight (fun p =>
    ((buildCustody rs).timelines.get p).isTerminal)
  have hConsumed := (hPlain.consumed_perm.map weight).sum_eq
  rw [sum_flatMap] at hConsumed
  have hPlaced := sum_split names weight (fun p =>
    (groupsOf rs p).isEmpty)
  have hEmpty : ((names.filter (fun p =>
      (groupsOf rs p).isEmpty)).map weight).sum = 0 := by
    apply List.sum_eq_zero
    intro quantity hMem
    rcases List.mem_map.mp hMem with ⟨p, hP, rfl⟩
    exact latestQuantity_eq_zero
      (List.isEmpty_iff.mp (List.mem_filter.mp hP).2) lot
  have hStated := (hPlain.stated_perm.map weight).sum_eq
  rw [List.map_append, List.sum_append, sum_flatMap,
    ← hPlain.statedTotal_eq hClear lot] at hStated
  have hDeviation :
      ((repackOps rs).map
          (deviation (buildCustody rs) lot)).sum +
        ((repackOps rs).map (fun op =>
          (op.inputs.map weight).sum)).sum =
      ((repackOps rs).map (fun op =>
        ((op.outputs.map Prod.fst).map weight).sum)).sum := by
    rw [← List.sum_map_add]
    congr 1
    apply List.map_congr_left
    intro op hOp
    unfold deviation
    rw [lotSum_outputs hPlain hClear hOp lot]
    exact sub_add_cancel _ _
  rw [hShown]
  have hTotal : ((names.filter (fun p =>
        ((buildCustody rs).timelines.get p).isTerminal)).map
          weight).sum +
      ((repackOps rs).map (fun op =>
        (op.inputs.map weight).sum)).sum =
      statedTotal rs lot +
        ((repackOps rs).map (fun op =>
          ((op.outputs.map Prod.fst).map weight).sum)).sum := by
    rw [← hConsumed, ← hTerminal, hPlaced, hEmpty, zero_add]
    exact hStated
  rw [← hDeviation, ← add_assoc] at hTotal
  exact add_right_cancel hTotal

/- The repacked pallet meets what is asked of the records. -/
theorem repackedPallet_worksheetTotal :
    worksheetTotal
        (buildWorksheet (buildCustody repackedPallet) "LOT-A")
        "LOT-A" =
      statedTotal repackedPallet "LOT-A" +
        ((repackOps repackedPallet).map
          (deviation (buildCustody repackedPallet)
            "LOT-A")).sum ∧
    ∀ op ∈ repackOps repackedPallet,
      |deviation (buildCustody repackedPallet) "LOT-A" op| ≤
        1 / 1000000000 := by
  have hClear : Unblocked repackedPallet := by
    unfold Unblocked
    decide +kernel
  apply worksheetTotal_eq _ hClear
  · exact ⟨by decide, by decide, by decide, by decide⟩
  · exact ⟨by decide, by decide⟩

/- A pallet whose contents two records state alike. -/
def restatedPallet : RecordSet :=
  samplePallets
    [sampleContents "BUILD-1" "P1" "LOT-A" 1,
      sampleContents "BUILD-2" "P1" "LOT-A" 2] []

/- The worksheet shows one of two statements that agree. -/
theorem not_worksheetTotal_eq_rowTotal :
    ¬ ∀ (rs : RecordSet) (implicated lot : String),
      AllKnown rs → Unblocked rs →
        worksheetTotal
            (buildWorksheet (buildCustody rs) implicated) lot =
          rowTotal rs.contents lot := by
  intro hConserved
  have hKnown : AllKnown restatedPallet :=
    ⟨by decide, by decide⟩
  have hClear : Unblocked restatedPallet := by
    unfold Unblocked
    decide
  have hTotals := hConserved restatedPallet "LOT-A" "LOT-A"
    hKnown hClear
  revert hTotals
  decide +kernel

end RecallReconstruction

end RegEngine
