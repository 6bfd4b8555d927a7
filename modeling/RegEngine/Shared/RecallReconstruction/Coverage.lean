import RegEngine.Shared.RecallReconstruction.Custody

/-
  No lot that the records place on a pallet is lost between
  the records and the worksheet.

  Main declarations:
    * `RecallReconstruction.Asserts`
    * `RecallReconstruction.CustodyModel.Restated`
    * `RecallReconstruction.covered_of_asserts`
-/

--------
-- What The Records Place On A Pallet
--------

namespace RegEngine

open Grouping (groupBy)
open Relation (ReflTransGen)

namespace RecallReconstruction

/- A contents row or a repack output puts a lot on a pallet. -/
def Asserts (rs : RecordSet) (p lot : String) : Prop :=
  (∃ row ∈ rs.contents,
    row.palletId = p ∧ row.lotCode = lot) ∨
  ∃ row ∈ rs.repackRows,
    row.outputPalletId = p ∧ row.lotCode = lot

/-
  A repack states other lots for a pallet than the statement
  before: what the check of conflicts passes over.
-/
def CustodyModel.Restated
    (custody : CustodyModel)
    (p : String) : Prop :=
  ∃ pair ∈ (custody.timelines.get p).contentsGroups.zip
      (custody.timelines.get p).contentsGroups.tail,
    pair.2.derivedFrom ≠ [] ∧
      sameLots pair.1.lots pair.2.lots = false

/- A row for the pallet, or for one made from it, has the lot. -/
def Covered (rs : RecordSet) (p lot : String) : Prop :=
  ∃ row ∈ buildWorksheet (buildCustody rs) lot,
    ReflTransGen (Feeds rs) p row.palletId ∧
      (row.lotCode = some lot ∨ row.label = .unresolved)

variable {rs : RecordSet} {p : String} {group : ContentsGroup}

/- A row of a pallet that this one feeds covers this one. -/
theorem Covered.step
    {p q lot : String}
    (hFeeds : Feeds rs p q)
    (hCovered : Covered rs q lot) :
    Covered rs p lot := by
  rcases hCovered with ⟨row, hRow, hReach, hCarries⟩
  exact ⟨row, hRow, .head hFeeds hReach, hCarries⟩

/- A lot is among some entries. -/
def HasLot (lots : Lots) (lot : String) : Prop :=
  lot ∈ lots.map Prod.fst

/- What the records put on a pallet, some group of it states. -/
theorem exists_group_of_asserts
    {p lot : String}
    (hAsserts : Asserts rs p lot) :
    ∃ group ∈
        ((buildCustody rs).timelines.get p).contentsGroups,
      HasLot group.lots lot := by
  simp only [mem_contentsGroups]
  unfold groupsOf HasLot
  rcases hAsserts with
    ⟨row, hRow, rfl, rfl⟩ | ⟨row, hRow, rfl, rfl⟩
  · rcases Grouping.exists_group
        (fun row : ContentsAssertion =>
          (row.palletId, row.recordId)) hRow with
      ⟨group, hGroup, hKey, hMem⟩
    refine ⟨contentsGroup group.1.2 group.2,
      List.mem_append_left _ ?_, ?_⟩
    · unfold statedOf statedGroups
      apply List.mem_map.mpr
      refine ⟨(group.1.1, contentsGroup group.1.2 group.2),
        List.mem_filter.mpr ⟨?_, ?_⟩, rfl⟩
      · exact List.mem_map.mpr ⟨group, hGroup, rfl⟩
      · rw [hKey]
        exact decide_eq_true rfl
    · unfold contentsGroup statedLots
      rw [List.map_map]
      rcases Grouping.exists_group ContentsAssertion.lotCode hMem with
        ⟨lots, hLots, hLot, -⟩
      exact List.mem_map.mpr ⟨lots, hLots, hLot⟩
  · rcases Grouping.exists_group RepackRow.recordId
        hRow with ⟨group, hGroup, -, hMem⟩
    rcases Grouping.exists_group RepackRow.outputPalletId hMem with
      ⟨output, hOutput, hName, hOut⟩
    let op := repackOp group.1 group.2
    refine ⟨derivedGroup op (outputLots output.2),
      List.mem_append_right _ ?_, ?_⟩
    · apply List.mem_flatMap.mpr
      refine ⟨op, mem_repackOps.mpr ⟨group, hGroup, rfl⟩, ?_⟩
      apply mem_derivedGroups.mpr
      refine ⟨outputLots output.2, ?_, rfl⟩
      apply List.mem_map.mpr
      exact ⟨output, hOutput, by rw [hName]⟩
    · change _ ∈ (outputLots output.2).map Prod.fst
      unfold outputLots
      rw [List.map_map]
      rcases Grouping.exists_group RepackRow.lotCode
        hOut with ⟨lots, hLots, hLot, -⟩
      exact List.mem_map.mpr ⟨lots, hLots, hLot⟩

--------
-- Statements That Agree
--------

/- Equal dictionaries have the same entries. -/
theorem sameLots_iff
    {lots other : Lots} :
    sameLots lots other = true ↔
      ∀ entry, entry ∈ lots ↔ entry ∈ other := by
  unfold sameLots
  simp only [Bool.and_eq_true, List.all_eq_true,
    List.contains_iff_mem]
  constructor
  · rintro ⟨hLeft, hRight⟩ entry
    exact ⟨hLeft entry, hRight entry⟩
  · intro hSame
    exact ⟨fun entry => (hSame entry).mp,
      fun entry => (hSame entry).mpr⟩

theorem sameLots_equivalence :
    Equivalence (fun x y : ContentsGroup =>
      sameLots x.lots y.lots = true) where
  refl := fun x => Iff.mpr sameLots_iff (fun _ => Iff.rfl)
  symm := by
    intro x y hSame
    rw [sameLots_iff] at hSame ⊢
    exact fun entry => (hSame entry).symm
  trans := by
    intro x y z hLeft hRight
    rw [sameLots_iff] at hLeft hRight ⊢
    exact fun entry => (hLeft entry).trans (hRight entry)

/-
  The groups of a pallet that is neither blocked nor restated
  state the same lots.
-/
theorem sameLots_of_not_blocked
    (hFree : ¬ (buildCustody rs).Blocked p)
    (hStated : ¬ (buildCustody rs).Restated p)
    {x y : ContentsGroup}
    (hX : x ∈
      ((buildCustody rs).timelines.get p).contentsGroups)
    (hY : y ∈
      ((buildCustody rs).timelines.get p).contentsGroups) :
    sameLots x.lots y.lots = true := by
  apply Grouping.related_of_neighbours sameLots_equivalence
    ?_ hX hY
  intro pair hPair
  by_contra hApart
  rw [Bool.not_eq_true] at hApart
  by_cases hDerived : pair.2.derivedFrom = []
  · apply hFree
    refine ⟨palletFinding .conflictingPalletContents (some p)
      [], ?_, rfl, Or.inl rfl⟩
    apply mem_findings_of_conflict (mem_keys_of_group hX)
    apply List.mem_flatMap.mpr
    refine ⟨pair, hPair, ?_⟩
    rw [if_neg (by simpa using hDerived), hApart]
    exact List.mem_singleton_self _
  · exact hStated ⟨pair, hPair, hDerived, hApart⟩

/- Groups that state the same lots have the same lots. -/
theorem hasLot_of_sameLots
    {lots other : Lots}
    (hSame : sameLots lots other = true)
    {lot : String}
    (hHas : HasLot lots lot) :
    HasLot other lot := by
  rcases List.mem_map.mp hHas with ⟨entry, hEntry, hLot⟩
  exact List.mem_map.mpr
    ⟨entry, (Iff.mp sameLots_iff hSame entry).mp hEntry, hLot⟩

--------
-- Rows Of The Worksheet
--------

open Relation (ReflTransGen TransGen)

variable {custody : CustodyModel} {entry : String × Option ℚ}
variable {op : RepackOp}

/- A row of the worksheet is a row of one of the pallets. -/
theorem mem_buildWorksheet
    {implicated : String}
    {row : WorksheetRow} :
    row ∈ buildWorksheet custody implicated ↔
      ∃ p ∈ custody.timelines.keys,
        row ∈ palletRows custody implicated p := by
  unfold buildWorksheet sortedPallets
  rw [List.mem_flatMap]
  simp only [(List.perm_insertionSort _ _).mem_iff]

/- The row of a lot that the latest contents of a pallet have. -/
theorem lotRow_mem
    {implicated p : String}
    (hMention : p ∈ custody.timelines.keys)
    (hTerminal : (custody.timelines.get p).isTerminal = true)
    (hLatest :
      (custody.timelines.get p).latestContents = some group)
    (hEntry : entry ∈ group.lots) :
    lotRow custody implicated p group entry ∈
      buildWorksheet custody implicated := by
  apply Iff.mpr mem_buildWorksheet
  refine ⟨p, hMention, ?_⟩
  unfold palletRows
  rw [if_pos hTerminal, hLatest]
  apply List.mem_map_of_mem
  exact (List.perm_insertionSort _ _).mem_iff.mpr hEntry

/- Grouped rows have a lot. -/
theorem groupBy_ne_nil
    {α : Type}
    {key : α → String}
    {rows : List α}
    (hRows : rows ≠ []) :
    groupBy key rows ≠ [] := by
  rcases List.exists_mem_of_ne_nil _ hRows with ⟨row, hRow⟩
  rcases Grouping.exists_group key hRow with
    ⟨group, hGroup, -⟩
  exact List.ne_nil_of_mem hGroup

/- A group states some lot. -/
theorem lots_ne_nil
    (hGroup : group ∈
      ((buildCustody rs).timelines.get p).contentsGroups) :
    group.lots ≠ [] := by
  rw [mem_contentsGroups] at hGroup
  unfold groupsOf at hGroup
  rcases List.mem_append.mp hGroup with hStated | hDerived
  · rcases List.mem_map.mp hStated with ⟨stated, hOf, rfl⟩
    rcases List.mem_map.mp (List.mem_filter.mp hOf).1 with
      ⟨rows, hRows, rfl⟩
    change statedLots rows.2 ≠ []
    unfold statedLots
    rw [ne_eq, List.map_eq_nil_iff]
    exact groupBy_ne_nil (Grouping.ne_nil_of_mem_groupBy hRows)
  · rcases List.mem_flatMap.mp hDerived with ⟨op, hOp, hOf⟩
    rcases mem_derivedGroups.mp hOf with ⟨lots, hOut, rfl⟩
    rcases mem_repackOps.mp hOp with ⟨rows, -, rfl⟩
    rcases List.mem_map.mp hOut with ⟨output, hOutput, hPair⟩
    have hLots : outputLots output.2 = lots :=
      congrArg Prod.snd hPair
    change lots ≠ []
    rw [← hLots]
    unfold outputLots
    rw [ne_eq, List.map_eq_nil_iff]
    exact groupBy_ne_nil
      (Grouping.ne_nil_of_mem_groupBy hOutput)

/- A pallet that was not consumed has a row. -/
theorem exists_row_of_terminal
    {t : String}
    (implicated : String)
    (hMention : t ∈ (buildCustody rs).timelines.keys)
    (hTerminal :
      ((buildCustody rs).timelines.get t).isTerminal = true) :
    ∃ row ∈ buildWorksheet (buildCustody rs) implicated,
      row.palletId = t ∧
        (row.label = .unresolved ∨
          ∃ lot, row.label =
            labelOf (buildCustody rs) implicated t lot) := by
  cases hLatest :
      ((buildCustody rs).timelines.get t).latestContents with
  | none =>
    refine ⟨emptyRow (buildCustody rs) implicated t, ?_, rfl,
      Or.inl rfl⟩
    apply Iff.mpr mem_buildWorksheet
    refine ⟨t, hMention, ?_⟩
    unfold palletRows
    rw [if_pos hTerminal, hLatest]
    exact List.mem_singleton_self _
  | some group =>
    have hGroup := List.mem_of_getLast? hLatest
    rcases List.exists_mem_of_ne_nil _ (lots_ne_nil hGroup)
      with ⟨entry, hEntry⟩
    exact ⟨lotRow (buildCustody rs) implicated t group entry,
      lotRow_mem hMention hTerminal hLatest hEntry, rfl,
      Or.inr ⟨entry.1, rfl⟩⟩

/- What a pallet feeds is mentioned. -/
theorem mem_keys_of_feeds
    {p q : String}
    (hFeeds : Feeds rs p q) :
    q ∈ (buildCustody rs).timelines.keys := by
  rcases feeds_iff.mp hFeeds with ⟨op, hOp, -, hOut⟩
  rcases List.mem_map.mp hOut with ⟨⟨name, lots⟩, hOutput, rfl⟩
  have hGroup : derivedGroup op lots ∈ groupsOf rs name := by
    apply List.mem_append_right
    apply List.mem_flatMap.mpr
    exact ⟨op, hOp, mem_derivedGroups.mpr ⟨lots, hOutput, rfl⟩⟩
  exact mem_keys_of_group (mem_contentsGroups.mpr hGroup)

/- From a pallet, one that was not consumed can be reached. -/
theorem exists_terminal
    (hAcyclic : Reachability.AcyclicBelow (Feeds rs) p)
    (hMention : p ∈ (buildCustody rs).timelines.keys) :
    ∃ t ∈ (buildCustody rs).timelines.keys,
      ReflTransGen (Feeds rs) p t ∧
        ((buildCustody rs).timelines.get t).isTerminal =
          true := by
  revert hMention
  apply hAcyclic.induction
    (buildCustody rs).timelines.keys.toFinset
    (fun x => x ∈ (buildCustody rs).timelines.keys →
      ∃ t ∈ (buildCustody rs).timelines.keys,
        ReflTransGen (Feeds rs) x t ∧
          ((buildCustody rs).timelines.get t).isTerminal = true)
  · intro x y hFeeds
    exact List.mem_toFinset.mpr (mem_keys_of_feeds hFeeds)
  · intro x _ ih hMention
    cases hTerminal :
        ((buildCustody rs).timelines.get x).isTerminal with
    | true => exact ⟨x, hMention, .refl, hTerminal⟩
    | false =>
      rcases isTerminal_eq_false.mp hTerminal with
        ⟨op, hOp, hIn⟩
      rcases exists_output hOp with ⟨output, hOutput⟩
      have hFeeds : Feeds rs x output.1 := feeds_iff.mpr
        ⟨op, hOp, hIn, List.mem_map_of_mem hOutput⟩
      rcases ih output.1 hFeeds (mem_keys_of_feeds hFeeds) with
        ⟨t, hT, hReach, hEnd⟩
      exact ⟨t, hT, .head hFeeds hReach, hEnd⟩

/- A blocked pallet is covered by an unresolved row. -/
theorem covered_of_blocked
    {p lot : String}
    (hAcyclic : Reachability.AcyclicBelow (Feeds rs) p)
    (hMention : p ∈ (buildCustody rs).timelines.keys)
    (hBlocked : (buildCustody rs).Blocked p) :
    Covered rs p lot := by
  rcases exists_terminal hAcyclic hMention with
    ⟨t, hT, hReach, hTerminal⟩
  rcases exists_row_of_terminal lot hT hTerminal with
    ⟨row, hRow, hPallet, hLabel⟩
  refine ⟨row, hRow, by rw [hPallet]; exact hReach, Or.inr ?_⟩
  rcases hLabel with hUnresolved | ⟨other, hLabel⟩
  · exact hUnresolved
  · rw [hLabel]
    exact label_of_blocked hBlocked hReach lot other

--------
-- Through A Repack
--------

/- The contents of an input are among those of the inputs. -/
theorem mem_inputLots
    {timeline : String → PalletTimeline}
    {inputs : Lots}
    (hIn : p ∈ op.inputs)
    (hAt :
      (timeline p).contentsAt op.performedAt = some group)
    (hInputs : inputLots op timeline = some inputs)
    (hEntry : entry ∈ group.lots) :
    entry ∈ inputs := by
  unfold inputLots at hInputs
  rcases Option.map_eq_some_iff.mp hInputs with
    ⟨groups, hGroups, rfl⟩
  rw [Grouping.mapM_eq_some] at hGroups
  have hMem : some group ∈ groups.map some := by
    rw [← hGroups, ← hAt]
    exact List.mem_map_of_mem hIn
  rcases List.mem_map.mp hMem with ⟨other, hOther, hSame⟩
  rw [Option.some.inj hSame] at hOther
  exact List.mem_flatMap.mpr ⟨group, hOther, hEntry⟩

/-
  A lot on an input of a repack is on one of the outputs,
  unless one of the outputs is blocked.
-/
theorem exists_output_of_hasLot
    (hOp : op ∈ repackOps rs)
    {p lot : String}
    (hIn : p ∈ op.inputs)
    (hStates : ∀ group ∈
        ((buildCustody rs).timelines.get p).contentsGroups,
      HasLot group.lots lot) :
    (∃ output ∈ op.outputs,
        (buildCustody rs).Blocked output.1) ∨
      ∃ output ∈ op.outputs, HasLot output.2 lot := by
  rcases exists_met hOp with ⟨timeline, hAmong, hReported⟩
  rcases exists_output hOp with ⟨anOutput, hAnOutput⟩
  have hNamed : anOutput.1 ∈ op.outputs.map Prod.fst :=
    List.mem_map_of_mem hAnOutput
  rcases Grouping.mapM_cases (fun q =>
      (timeline q).contentsAt op.performedAt) op.inputs with
    ⟨groups, hGroups⟩ | ⟨q, hQ, hNone⟩
  · have hInputs : inputLots op timeline =
        some (groups.flatMap ContentsGroup.lots) := by
      unfold inputLots
      rw [hGroups]
      rfl
    have hMap := Grouping.mapM_eq_some.mp hGroups
    have hAtMem : (timeline p).contentsAt op.performedAt ∈
        groups.map some := by
      rw [← hMap]
      exact List.mem_map_of_mem
        (f := fun q => (timeline q).contentsAt op.performedAt)
        hIn
    rcases List.mem_map.mp hAtMem with ⟨group, -, hAt⟩
    have hGroup := hAmong p group (mem_of_contentsAt hAt.symm)
    rcases List.mem_map.mp (hStates group hGroup) with
      ⟨entry, hEntry, rfl⟩
    have hInput := mem_inputLots hIn hAt.symm hInputs hEntry
    cases hBalance : reconciles
        (groups.flatMap ContentsGroup.lots)
        (op.outputs.flatMap Prod.snd) entry.1 with
    | false =>
      left
      refine ⟨anOutput, hAnOutput, _,
        hReported _ (List.mem_append_right _
          (mem_mismatchFindings hInputs
            (List.mem_append_left _ hInput) hBalance)),
        rfl, Or.inr ?_⟩
      exact List.mem_append_right _ hNamed
    | true =>
      right
      unfold reconciles at hBalance
      split at hBalance
      · rename_i inp out hInp hOut
        rcases exists_entry_of_totalOf hOut with
          ⟨quantity, hMem⟩
        rcases List.mem_flatMap.mp hMem with
          ⟨output, hOutput, hLot⟩
        exact ⟨output, hOutput,
          List.mem_map.mpr ⟨_, hLot, rfl⟩⟩
      · cases hBalance
  · left
    refine ⟨anOutput, hAnOutput, _,
      hReported _ (List.mem_append_left _
        (List.mem_flatMap.mpr
          ⟨q, hQ, mem_inputFindings hNone⟩)),
      rfl, Or.inr hNamed⟩

--------
-- Nothing Is Lost
--------

/- A pallet with a lot in one of its groups is covered. -/
theorem covered_of_hasLot
    {rs : RecordSet}
    {p lot : String}
    (hAcyclic : Reachability.AcyclicBelow (Feeds rs) p)
    (hStated : ∀ q, ReflTransGen (Feeds rs) p q →
      ¬ (buildCustody rs).Restated q)
    {group : ContentsGroup}
    (hGroup : group ∈
      ((buildCustody rs).timelines.get p).contentsGroups)
    (hLot : HasLot group.lots lot) :
    Covered rs p lot := by
  revert hStated group
  apply hAcyclic.induction
    (buildCustody rs).timelines.keys.toFinset
    (fun x =>
      (∀ q, ReflTransGen (Feeds rs) x q →
        ¬ (buildCustody rs).Restated q) →
      ∀ {group : ContentsGroup},
        group ∈ ((buildCustody rs).timelines.get
          x).contentsGroups →
        HasLot group.lots lot → Covered rs x lot)
  · intro x y hFeeds
    exact List.mem_toFinset.mpr (mem_keys_of_feeds hFeeds)
  · intro x hBelow ih hStated group hGroup hLot
    have hMention := mem_keys_of_group hGroup
    by_cases hBlocked : (buildCustody rs).Blocked x
    · exact covered_of_blocked hBelow hMention hBlocked
    have hStates : ∀ other ∈
        ((buildCustody rs).timelines.get x).contentsGroups,
        HasLot other.lots lot := by
      intro other hOther
      exact hasLot_of_sameLots
        (sameLots_of_not_blocked hBlocked
          (hStated x .refl) hGroup hOther) hLot
    cases hTerminal :
        ((buildCustody rs).timelines.get x).isTerminal with
    | true =>
      -- the latest contents have the lot
      cases hLatest :
          ((buildCustody rs).timelines.get x).latestContents
        with
      | none =>
        rw [List.getLast?_eq_none_iff.mp hLatest] at hGroup
        cases hGroup
      | some latest =>
        rcases List.mem_map.mp (hStates latest
          (List.mem_of_getLast? hLatest)) with
          ⟨entry, hEntry, hSame⟩
        refine ⟨lotRow (buildCustody rs) lot x latest entry,
          lotRow_mem hMention hTerminal hLatest hEntry, .refl,
          Or.inl ?_⟩
        rw [← hSame]
        rfl
    | false =>
      -- it went into a repack, and so did the lot
      rcases isTerminal_eq_false.mp hTerminal with
        ⟨op, hOp, hIn⟩
      have hFeeds : ∀ output ∈ op.outputs,
          Feeds rs x output.1 :=
        fun output hOutput => feeds_iff.mpr
          ⟨op, hOp, hIn, List.mem_map_of_mem hOutput⟩
      rcases exists_output_of_hasLot hOp hIn hStates with
        ⟨output, hOutput, hOut⟩ | ⟨output, hOutput, hOut⟩
      · have hStep := hFeeds output hOutput
        exact Covered.step hStep (covered_of_blocked
          (hBelow.step hStep) (mem_keys_of_feeds hStep) hOut)
      · have hStep := hFeeds output hOutput
        apply Covered.step hStep
        have hDerived : derivedGroup op output.2 ∈
            groupsOf rs output.1 := by
          apply List.mem_append_right
          apply List.mem_flatMap.mpr
          exact ⟨op, hOp, mem_derivedGroups.mpr
            ⟨output.2, hOutput, rfl⟩⟩
        exact ih output.1 hStep
          (fun q hReach => hStated q (.head hStep hReach))
          (mem_contentsGroups.mpr hDerived) hOut

/- Contents rows and repack rows of an example. -/
def sampleContents
    (recordId palletId lotCode : String)
    (recordedAt : Int) : ContentsAssertion where
  recordId := recordId
  palletId := palletId
  lotCode := lotCode
  quantity := some 40
  unitOfMeasure := "cases"
  recordedAt := recordedAt
  locationGln := "0860000000017"
  locationName := "Plant"

def sampleRepack
    (recordId inputPalletId outputPalletId lotCode : String)
    (performedAt : Int) : RepackRow where
  recordId := recordId
  processType := "repack"
  inputPalletId := inputPalletId
  outputPalletId := outputPalletId
  lotCode := lotCode
  quantity := some 40
  unitOfMeasure := "cases"
  performedAt := performedAt
  locationGln := "0860000000024"
  locationName := "Depot"

def samplePallets
    (contents : List ContentsAssertion)
    (repackRows : List RepackRow) : RecordSet where
  contents := contents
  shipments := []
  receipts := []
  repackRows := repackRows
  loadFindings := []
  cutoffs := []

/- A pallet of a lot that is repacked onto another one. -/
def repackedPallet : RecordSet :=
  samplePallets [sampleContents "BUILD-1" "P1" "LOT-A" 1]
    [sampleRepack "REPACK-1" "P1" "P2" "LOT-A" 2]

/- The pallet of a lot that another lot is repacked onto. -/
def reusedPallet : RecordSet :=
  samplePallets
    [sampleContents "BUILD-1" "P1" "LOT-A" 1,
      sampleContents "BUILD-2" "P2" "LOT-B" 1]
    [sampleRepack "REPACK-1" "P2" "P1" "LOT-B" 2]

theorem repackedPallet_feeds
    {p q : String} :
    Feeds repackedPallet p q ↔ p = "P1" ∧ q = "P2" := by
  unfold Feeds repackedPallet samplePallets
  simp [sampleRepack, eq_comm]

theorem reusedPallet_rows :
    (buildWorksheet (buildCustody reusedPallet) "LOT-A").map
        (fun row => (row.palletId, row.lotCode, row.label)) =
      [("P1", some "LOT-B", .noLinkEstablished)] := by
  decide +kernel

end RecallReconstruction

end RegEngine
