import RegEngine.Shared.RecallReconstruction.Worksheet

/-
  What the custody model holds of a pallet, read off the
  records: its contents groups, the pallets it was made from,
  whether it was consumed, and what the repacks find.

  Main declarations:
    * `RecallReconstruction.Feeds`
    * `RecallReconstruction.CustodyModel.Blocked`
    * `RecallReconstruction.mem_parents`
-/

--------
-- Repacks Of The Rows
--------

namespace RegEngine

open Grouping (distinct groupBy)

namespace RecallReconstruction

/- A repack record names one pallet as input, one as output. -/
def Feeds (rs : RecordSet) (p q : String) : Prop :=
  ∃ x ∈ rs.repackRows, ∃ y ∈ rs.repackRows,
    x.recordId = y.recordId ∧
      x.inputPalletId = p ∧ y.outputPalletId = q

variable {rs : RecordSet} {op : RepackOp} {q : String}
variable {p : String}

/- The repacks are those of the records with repack rows. -/
theorem mem_repackOps
    {op : RepackOp} :
    op ∈ repackOps rs ↔
      ∃ group ∈ groupBy RepackRow.recordId rs.repackRows,
        repackOp group.1 group.2 = op := by
  unfold repackOps
  rw [(List.perm_insertionSort _ _).mem_iff, List.mem_map]

variable {recordId : String} {custody : CustodyModel}
variable {group : ContentsGroup} {finding : Finding}
variable {timeline : String → PalletTimeline}

/- The inputs that the rows of a record name. -/
theorem mem_inputs
    {rows : List RepackRow}
    {p : String} :
    p ∈ (repackOp recordId rows).inputs ↔
      ∃ row ∈ rows, row.inputPalletId = p := by
  unfold repackOp
  rw [(List.perm_insertionSort _ _).mem_iff,
    Grouping.mem_distinct, List.mem_map]

/- The outputs that the rows of a record name. -/
theorem mem_outputs
    {rows : List RepackRow}
    {q : String} :
    q ∈ (repackOp recordId rows).outputs.map Prod.fst ↔
      ∃ row ∈ rows, row.outputPalletId = q := by
  unfold repackOp
  rw [List.map_map, List.mem_map]
  constructor
  · rintro ⟨group, hGroup, rfl⟩
    exact (Grouping.mem_groupBy.mp hGroup).1
  · rintro ⟨row, hRow, rfl⟩
    rcases Grouping.exists_group RepackRow.outputPalletId hRow with ⟨group, hGroup, hKey, -⟩
    exact ⟨group, hGroup, hKey⟩

/- The names of outputs do not repeat. -/
theorem nodup_outputs
    (hOp : op ∈ repackOps rs) :
    (op.outputs.map Prod.fst).Nodup := by
  rw [mem_repackOps] at hOp
  rcases hOp with ⟨group, -, rfl⟩
  unfold repackOp
  rw [List.map_map]
  exact Grouping.nodup_keys_groupBy _ _

/- The names of inputs do not repeat. -/
theorem nodup_inputs
    (hOp : op ∈ repackOps rs) :
    op.inputs.Nodup := by
  rw [mem_repackOps] at hOp
  rcases hOp with ⟨group, -, rfl⟩
  exact (List.perm_insertionSort _ _).nodup_iff.mpr
    (Grouping.nodup_distinct _)

/- A pallet feeds another by way of a repack. -/
theorem feeds_iff
    {p q : String} :
    Feeds rs p q ↔
      ∃ op ∈ repackOps rs,
        p ∈ op.inputs ∧ q ∈ op.outputs.map Prod.fst := by
  constructor
  · rintro ⟨x, hX, y, hY, hRecord, rfl, rfl⟩
    rcases Grouping.exists_group RepackRow.recordId hX
      with ⟨group, hGroup, hKey, hRow⟩
    refine ⟨_, mem_repackOps.mpr ⟨group, hGroup, rfl⟩, ?_, ?_⟩
    · exact mem_inputs.mpr ⟨x, hRow, rfl⟩
    · refine Iff.mpr mem_outputs ⟨y, ?_, rfl⟩
      apply (Grouping.mem_of_mem_groupBy hGroup).mpr
      exact ⟨hY, by rw [hKey, hRecord]⟩
  · rintro ⟨op, hOp, hIn, hOut⟩
    rcases mem_repackOps.mp hOp with ⟨group, hGroup, rfl⟩
    rcases mem_inputs.mp hIn with ⟨x, hX, rfl⟩
    rcases Iff.mp mem_outputs hOut with ⟨y, hY, rfl⟩
    rw [Grouping.mem_of_mem_groupBy hGroup] at hX hY
    exact ⟨x, hX.1, y, hY.1, hX.2.trans hY.2.symm, rfl, rfl⟩

theorem exists_output
    (hOp : op ∈ repackOps rs) :
    ∃ output, output ∈ op.outputs := by
  rw [mem_repackOps] at hOp
  rcases hOp with ⟨group, hGroup, rfl⟩
  rcases List.exists_mem_of_ne_nil _
    (Grouping.ne_nil_of_mem_groupBy hGroup) with ⟨row, hRow⟩
  have hOut : row.outputPalletId ∈
      (repackOp group.1 group.2).outputs.map Prod.fst :=
    Iff.mpr mem_outputs ⟨row, hRow, rfl⟩
  rcases List.mem_map.mp hOut with ⟨output, hOutput, -⟩
  exact ⟨output, hOutput⟩

--------
-- Contents Groups
--------

/- The groups that a repack states for a pallet. -/
def derivedGroups (q : String) (op : RepackOp) :
    List ContentsGroup :=
  (op.outputs.filter (fun output => output.1 = q)).map
    (fun output => derivedGroup op output.2)

/- The groups that the contents rows state for a pallet. -/
def statedOf (rs : RecordSet) (q : String) :
    List ContentsGroup :=
  ((statedGroups rs).filter (fun stated =>
    stated.1 = q)).map Prod.snd

theorem contentsGroups_withContents
    (rs : RecordSet)
    (q : String) :
    ((withContents rs).timelines.get q).contentsGroups =
      statedOf rs q := by
  unfold withContents contentsSteps
  exact DefaultTable.view_changeEach Prod.fst
    (fun stated : String × ContentsGroup =>
      addContents stated.2)
    PalletTimeline.contentsGroups Prod.snd
    (fun _ _ => rfl) _ _ _

theorem contentsGroups_applyRepack
    (b : Builder)
    (op : RepackOp)
    (q : String) :
    ((applyRepack b op).timelines.get q).contentsGroups =
      (b.timelines.get q).contentsGroups ++
        derivedGroups q op := by
  unfold applyRepack repackSteps
  rw [DefaultTable.changeEach_append,
    DefaultTable.view_changeEach Prod.fst
      (fun output : String × Lots => produce op output.2)
      PalletTimeline.contentsGroups
      (fun output => derivedGroup op output.2)
      (fun _ _ => rfl),
    DefaultTable.kept_changeEach (fun p : String => p)
      (fun _ => consume op) PalletTimeline.contentsGroups
      (fun _ _ => rfl)]
  rfl

theorem contentsGroups_foldl
    (ops : List RepackOp)
    (b : Builder)
    (q : String) :
    ((ops.foldl applyRepack b).timelines.get q).contentsGroups =
      (b.timelines.get q).contentsGroups ++
        ops.flatMap (derivedGroups q) := by
  induction ops generalizing b with
  | nil => simp
  | cons op rest ih =>
    rw [List.foldl_cons, ih, contentsGroups_applyRepack,
      List.flatMap_cons, List.append_assoc]

/- Movements add no contents. -/
theorem kept_withMovements
    {γ : Type}
    (view : PalletTimeline → γ)
    (hKept : ∀ event tl, view (addEvent event tl) = view tl)
    (rs : RecordSet)
    (q : String) :
    view ((withMovements rs).get q) =
      view ((withRepacks rs).timelines.get q) := by
  unfold withMovements movementSteps
  rw [DefaultTable.changeEach_append,
    DefaultTable.kept_changeEach Receipt.palletId
      (fun r => addEvent (receivedEvent r)) view
      (fun _ _ => hKept _ _),
    DefaultTable.kept_changeEach Shipment.palletId
      (fun s => addEvent (shippedEvent s)) view
      (fun _ _ => hKept _ _)]

/- The groups of a pallet in the order they were added. -/
def groupsOf (rs : RecordSet) (q : String) :
    List ContentsGroup :=
  statedOf rs q ++ (repackOps rs).flatMap (derivedGroups q)

/- The custody model sorts the groups of a pallet. -/
theorem contentsGroups_perm
    (rs : RecordSet)
    (q : String) :
    ((buildCustody rs).timelines.get q).contentsGroups.Perm
      (groupsOf rs q) := by
  have hRaw : ((withMovements rs).get q).contentsGroups =
      groupsOf rs q := by
    rw [kept_withMovements PalletTimeline.contentsGroups
      (fun _ _ => rfl)]
    unfold withRepacks groupsOf
    rw [contentsGroups_foldl, contentsGroups_withContents]
  rw [← hRaw]
  exact List.perm_insertionSort _ _

theorem mem_contentsGroups
    {group : ContentsGroup} :
    group ∈
        ((buildCustody rs).timelines.get q).contentsGroups ↔
      group ∈ groupsOf rs q :=
  (contentsGroups_perm rs q).mem_iff

/- A group that a repack derives for a pallet. -/
theorem mem_derivedGroups
    {group : ContentsGroup} :
    group ∈ derivedGroups q op ↔
      ∃ lots, (q, lots) ∈ op.outputs ∧
        group = derivedGroup op lots := by
  unfold derivedGroups
  rw [List.mem_map]
  constructor
  · rintro ⟨⟨name, lots⟩, hMem, rfl⟩
    rcases List.mem_filter.mp hMem with ⟨hOut, hName⟩
    have hSame : name = q := of_decide_eq_true hName
    exact ⟨lots, hSame ▸ hOut, rfl⟩
  · rintro ⟨lots, hOut, rfl⟩
    refine ⟨(q, lots), ?_, rfl⟩
    exact List.mem_filter.mpr ⟨hOut, decide_eq_true rfl⟩

--------
-- Parents And Consumption
--------

/-
  A property of a timeline that each repack can bring about
  and that contents and movements leave alone.
-/
theorem holds_buildCustody
    (P : PalletTimeline → Prop)
    (brings : RepackOp → Prop)
    (hEmpty : ¬ P PalletTimeline.empty)
    (hContents : ∀ group tl, P (addContents group tl) ↔ P tl)
    (hEvent : ∀ event tl, P (addEvent event tl) ↔ P tl)
    (hSort : ∀ tl, P (PalletTimeline.sort tl) ↔ P tl)
    (hRepack : ∀ b op,
      P ((applyRepack b op).timelines.get q) ↔
        P (b.timelines.get q) ∨ brings op)
    (rs : RecordSet) :
    P ((buildCustody rs).timelines.get q) ↔
      ∃ op ∈ repackOps rs, brings op := by
  have hMovements : P ((withMovements rs).get q) ↔
      P ((withRepacks rs).timelines.get q) :=
    iff_of_eq (kept_withMovements P
      (fun event tl => propext (hEvent event tl)) rs q)
  have hStated :
      ¬ P ((withContents rs).timelines.get q) := by
    unfold withContents contentsSteps
    rw [DefaultTable.kept_changeEach Prod.fst
      (fun stated : String × ContentsGroup =>
        addContents stated.2) P
      (fun _ _ => propext (hContents _ _))]
    exact hEmpty
  have hOps : ∀ (ops : List RepackOp) (b : Builder),
      P ((ops.foldl applyRepack b).timelines.get q) ↔
        P (b.timelines.get q) ∨ ∃ op ∈ ops, brings op := by
    intro ops
    induction ops with
    | nil => simp
    | cons op rest ih =>
      intro b
      rw [List.foldl_cons, ih, hRepack, or_assoc]
      simp
  change P (PalletTimeline.sort ((withMovements rs).get q)) ↔ _
  rw [hSort, hMovements]
  unfold withRepacks
  rw [hOps]
  exact or_iff_right hStated

/- Names are extended by those that are new. -/
theorem mem_extendNew
    {names more : List String}
    {p : String} :
    p ∈ extendNew names more ↔ p ∈ names ∨ p ∈ more := by
  unfold extendNew
  rw [List.mem_append, List.mem_filter]
  by_cases hOld : p ∈ names
  · simp [hOld]
  · simp [hOld]

/- The parents of a pallet are what feeds it. -/
theorem mem_parents
    {p q : String} :
    p ∈ (buildCustody rs).parents q ↔ Feeds rs p q := by
  rw [feeds_iff]
  apply holds_buildCustody (fun tl => p ∈ tl.parents)
    (fun op => p ∈ op.inputs ∧ q ∈ op.outputs.map Prod.fst)
  · exact List.not_mem_nil
  · exact fun _ _ => Iff.rfl
  · exact fun _ _ => Iff.rfl
  · exact fun _ => Iff.rfl
  · intro b op
    unfold applyRepack repackSteps
    rw [DefaultTable.changeEach_append,
      DefaultTable.holds_changeEach Prod.fst
        (fun output : String × Lots => produce op output.2)
        (fun tl => p ∈ tl.parents) (fun _ => p ∈ op.inputs)
        (fun _ _ => mem_extendNew),
      DefaultTable.kept_changeEach (fun p : String => p)
        (fun _ => consume op) PalletTimeline.parents
        (fun _ _ => rfl),
      List.mem_map]
    constructor
    · rintro (hOld | ⟨output, hOut, hName, hIn⟩)
      · exact Or.inl hOld
      · exact Or.inr ⟨hIn, output, hOut, hName⟩
    · rintro (hOld | ⟨hIn, output, hOut, hName⟩)
      · exact Or.inl hOld
      · exact Or.inr ⟨output, hOut, hName, hIn⟩

/- A pallet is consumed by the repacks that it goes into. -/
theorem isTerminal_eq_false
    {p : String} :
    ((buildCustody rs).timelines.get p).isTerminal = false ↔
      ∃ op ∈ repackOps rs, p ∈ op.inputs := by
  apply holds_buildCustody (fun tl => tl.isTerminal = false)
    (fun op => p ∈ op.inputs)
  · exact Bool.noConfusion
  · exact fun _ _ => Iff.rfl
  · exact fun _ _ => Iff.rfl
  · exact fun _ => Iff.rfl
  · intro b op
    unfold applyRepack repackSteps
    rw [DefaultTable.changeEach_append,
      DefaultTable.kept_changeEach Prod.fst
        (fun output : String × Lots => produce op output.2)
        PalletTimeline.isTerminal (fun _ _ => rfl),
      DefaultTable.holds_changeEach (fun p : String => p)
        (fun _ => consume op)
        (fun tl => tl.isTerminal = false) (fun _ => True)
        (fun _ _ => iff_of_true rfl (Or.inr trivial))]
    simp

/- A pallet with anything on its timeline is mentioned. -/
theorem mem_keys_of_group
    (hGroup :
      group ∈ (custody.timelines.get p).contentsGroups) :
    p ∈ custody.timelines.keys := by
  by_contra hAbsent
  rw [custody.timelines.get_absent p hAbsent] at hGroup
  cases hGroup

theorem mem_keys_of_consumed
    (hConsumed :
      (custody.timelines.get p).isTerminal = false) :
    p ∈ custody.timelines.keys := by
  by_contra hAbsent
  rw [custody.timelines.get_absent p hAbsent] at hConsumed
  cases hConsumed

--------
-- What The Repacks Find
--------

/- What a repack finds among some timelines. -/
def repackFindings
    (op : RepackOp)
    (timeline : String → PalletTimeline) : List Finding :=
  op.inputs.flatMap (inputFindings op timeline) ++
    mismatchFindings op timeline

/- Later repacks keep what was found before. -/
theorem findings_foldl
    {ops : List RepackOp}
    {b : Builder}
    (hFound : finding ∈ b.findings) :
    finding ∈ (ops.foldl applyRepack b).findings := by
  induction ops generalizing b with
  | nil => exact hFound
  | cons op rest ih =>
    rw [List.foldl_cons]
    exact ih (List.mem_append_left _ hFound)

/-
  The timelines that a repack meets: their contents are among
  the final ones, and what it finds there is reported.
-/
theorem exists_met
    (hOp : op ∈ repackOps rs) :
    ∃ timeline : String → PalletTimeline,
      (∀ q, ∀ group ∈ (timeline q).contentsGroups,
        group ∈
          ((buildCustody rs).timelines.get q).contentsGroups) ∧
      ∀ finding ∈ repackFindings op timeline,
        finding ∈ (buildCustody rs).findings := by
  rcases List.append_of_mem hOp with ⟨before, later, hSplit⟩
  let met := before.foldl applyRepack (withContents rs)
  refine ⟨met.timelines.get, ?_, ?_⟩
  · intro q group hGroup
    rw [mem_contentsGroups]
    have hMet := contentsGroups_foldl before (withContents rs) q
    rw [contentsGroups_withContents] at hMet
    rw [hMet] at hGroup
    unfold groupsOf
    rw [hSplit, List.flatMap_append, ← List.append_assoc]
    exact List.mem_append_left _ hGroup
  · intro finding hFinding
    have hRepacks :
        finding ∈ (withRepacks rs).findings := by
      unfold withRepacks
      rw [hSplit, List.foldl_append, List.foldl_cons]
      apply findings_foldl
      exact List.mem_append_right _ hFinding
    unfold buildCustody
    simp only [List.mem_append]
    exact Or.inl (Or.inl (Or.inl (Or.inl (Or.inl hRepacks))))

/- A conflict between records is reported. -/
theorem mem_findings_of_conflict
    (hMention : p ∈ (buildCustody rs).timelines.keys)
    (hFinding :
      finding ∈
        conflictingContents (buildCustody rs).timelines p) :
    finding ∈ (buildCustody rs).findings := by
  have hChecked :
      finding ∈
        (sortedPallets (buildCustody rs).timelines).flatMap
          (conflictingContents (buildCustody rs).timelines) := by
    apply List.mem_flatMap.mpr
    refine ⟨p, ?_, hFinding⟩
    exact (List.perm_insertionSort _ _).mem_iff.mpr hMention
  unfold buildCustody at hChecked ⊢
  simp only [List.mem_append]
  exact Or.inl (Or.inl (Or.inr hChecked))

/- An input without contents is found, its outputs named. -/
theorem mem_inputFindings
    (hNone : (timeline p).contentsAt op.performedAt = none) :
    palletFinding .missingPalletContents (some p)
        (op.outputs.map Prod.fst) ∈
      inputFindings op timeline p := by
  unfold inputFindings
  rw [hNone]
  exact List.mem_append_right _ (List.mem_singleton_self _)

/- A repack that does not balance is found, its pallets named. -/
theorem mem_mismatchFindings
    {inputs : Lots}
    (hInputs : inputLots op timeline = some inputs)
    {entry : String × Option ℚ}
    (hEntry : entry ∈ inputs ++ op.outputs.flatMap Prod.snd)
    (hApart :
      reconciles inputs (op.outputs.flatMap Prod.snd) entry.1 =
        false) :
    palletFinding .quantityDiscrepancy none
        (op.inputs ++ op.outputs.map Prod.fst) ∈
      mismatchFindings op timeline := by
  unfold mismatchFindings
  rw [hInputs]
  have hNot :
      ¬ (inputs ++ op.outputs.flatMap Prod.snd).all
        (fun entry =>
          reconciles inputs (op.outputs.flatMap Prod.snd)
            entry.1) = true := by
    intro hAll
    have hReconciles := List.all_eq_true.mp hAll entry hEntry
    rw [hApart] at hReconciles
    cases hReconciles
  change _ ∈ if _ then _ else _
  rw [if_neg hNot]
  exact List.mem_singleton_self _

/- Contents are read from the groups of the timeline. -/
theorem mem_of_contentsAt
    {tl : PalletTimeline}
    {when_ : Int}
    (hAt : tl.contentsAt when_ = some group) :
    group ∈ tl.contentsGroups := by
  unfold PalletTimeline.contentsAt at hAt
  exact (List.mem_filter.mp
    (List.mem_of_getLast? hAt)).1

/- A total that is known comes from an entry. -/
theorem exists_entry_of_totalOf
    {entries : Lots}
    {lot : String}
    {total : ℚ}
    (hTotal : totalOf entries lot = some total) :
    ∃ quantity, (lot, quantity) ∈ entries := by
  unfold totalOf at hTotal
  split at hTotal
  · cases hTotal
  · rename_i hNonempty
    rcases List.exists_mem_of_ne_nil _ hNonempty with
      ⟨⟨name, quantity⟩, hMem⟩
    rcases List.mem_filter.mp hMem with ⟨hEntry, hName⟩
    have hSame : name = lot := of_decide_eq_true hName
    exact ⟨quantity, hSame ▸ hEntry⟩

--------
-- Ancestors And Blocking Findings
--------

open Relation (ReflTransGen TransGen)

/- The pallets of the model hold all parents. -/
theorem enough_ancestors
    (rs : RecordSet)
    (p : String) :
    Worklist.Enough (buildCustody rs).parents
      (buildCustody rs).timelines.keys
      (((buildCustody rs).parents p).length +
        ((buildCustody rs).timelines.keys.map (fun q =>
          ((buildCustody rs).parents q).length)).sum)
      ((buildCustody rs).parents p) [] := by
  have hParent : ∀ q, ∀ x ∈ (buildCustody rs).parents q,
      x ∈ (buildCustody rs).timelines.keys := by
    intro q x hMem
    rw [mem_parents, feeds_iff] at hMem
    rcases hMem with ⟨op, hOp, hIn, -⟩
    exact mem_keys_of_consumed
      (isTerminal_eq_false.mpr ⟨op, hOp, hIn⟩)
  refine ⟨(buildCustody rs).timelines.nodup, hParent p,
    fun x _ => hParent x, ?_⟩
  simp [Worklist.pending]

/- The ancestors are the pallets that feed it in some steps. -/
theorem mem_ancestors
    {p q : String} :
    q ∈ (buildCustody rs).ancestors p ↔
      TransGen (Feeds rs) q p := by
  have hNext : (fun a b => b ∈ (buildCustody rs).parents a) =
      Function.swap (Feeds rs) := by
    funext a b
    exact propext mem_parents
  unfold CustodyModel.ancestors
  rw [Worklist.mem_search_iff (enough_ancestors rs p), hNext]
  constructor
  · rintro ⟨x, hParent, hReach⟩
    rw [Relation.reflTransGen_swap] at hReach
    exact .tail' hReach (mem_parents.mp hParent)
  · intro hFeeds
    rcases Relation.TransGen.tail'_iff.mp hFeeds with
      ⟨x, hReach, hLast⟩
    exact ⟨x, mem_parents.mpr hLast,
      Relation.reflTransGen_swap.mpr hReach⟩

namespace CustodyModel

/- A blocking finding names the pallet. -/
def Blocked (custody : CustodyModel) (p : String) : Prop :=
  ∃ finding ∈ custody.findings, finding.blocking = true ∧
    (finding.palletId = some p ∨
      p ∈ finding.relatedPalletIds)

end CustodyModel

/- A blocked pallet blocks what is made from it. -/
theorem label_of_blocked
    {p t : String}
    (hBlocked : (buildCustody rs).Blocked p)
    (hReach : ReflTransGen (Feeds rs) p t)
    (implicated lot : String) :
    labelOf (buildCustody rs) implicated t lot =
      .unresolved := by
  rcases hBlocked with
    ⟨finding, hFinding, hBlocking, hNames⟩
  have hScope : p ∈ t :: (buildCustody rs).ancestors t := by
    rcases Relation.reflTransGen_iff_eq_or_transGen.mp hReach
      with hSame | hFeeds
    · rw [hSame]
      exact List.mem_cons_self
    · exact List.mem_cons_of_mem _ (mem_ancestors.mpr hFeeds)
  have hFor : finding ∈
      (buildCustody rs).blockingFindingsFor t := by
    apply List.mem_filter.mpr
    refine ⟨List.mem_filter.mpr ⟨hFinding, ?_⟩, hBlocking⟩
    rcases hNames with hPallet | hRelated
    · rw [hPallet]
      simp only [Bool.or_eq_true]
      exact Or.inl (List.contains_iff_mem.mpr hScope)
    · simp only [Bool.or_eq_true]
      exact Or.inr (List.any_eq_true.mpr
        ⟨p, hRelated, List.contains_iff_mem.mpr hScope⟩)
  unfold labelOf
  rw [if_neg]
  intro hEmpty
  rw [List.isEmpty_iff.mp hEmpty] at hFor
  cases hFor

end RecallReconstruction

end RegEngine
