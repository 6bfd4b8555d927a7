import RegEngine.Shared.RecallReconstruction.Views

/-
  What a repack meets and finds, for rows in any order: the
  contents that it takes for an input are fixed by the records.

  Main declarations:
    * `RecallReconstruction.metBy`
    * `RecallReconstruction.Picks`
    * `RecallReconstruction.Matches`
-/

--------
-- The Repacks Before One
--------

namespace RegEngine

namespace RecallReconstruction

/- The timelines after the contents and some repacks. -/
def metBy (rs : RecordSet) (before : List RepackOp) :
    String → PalletTimeline :=
  (before.foldl applyRepack (withContents rs)).timelines.get

/- The groups that a repack meets on a pallet. -/
theorem contentsGroups_metBy
    (rs : RecordSet)
    (before : List RepackOp)
    (p : String) :
    (metBy rs before p).contentsGroups =
      statedOf rs p ++ before.flatMap (derivedGroups p) := by
  unfold metBy
  rw [contentsGroups_foldl, contentsGroups_withContents]

/- The repacks stand in the order of their times. -/
theorem pairwise_repackOps
    (rs : RecordSet) :
    (repackOps rs).Pairwise (fun x y =>
      x.performedAt ≤ y.performedAt) := by
  have hTotal : Std.Total (fun x y : RepackOp =>
      x.performedAt ≤ y.performedAt) :=
    ⟨fun x y => le_total x.performedAt y.performedAt⟩
  have hTrans : IsTrans RepackOp (fun x y =>
      x.performedAt ≤ y.performedAt) :=
    ⟨fun _ _ _ => le_trans⟩
  exact List.pairwise_insertionSort _ _

/- The place of a repack among those of the records. -/
structure Split
    (rs : RecordSet)
    (before : List RepackOp)
    (op : RepackOp)
    (later : List RepackOp) : Prop where
  split : repackOps rs = before ++ op :: later

variable {op : RepackOp} {rs : RecordSet} {p : String}
variable {finding : Finding}

theorem Split.mem
    {before later : List RepackOp}
    (hSplit : Split rs before op later) :
    op ∈ repackOps rs := by
  rw [hSplit.split]
  exact List.mem_append_right _ List.mem_cons_self

theorem Split.mem_of_before
    {before later : List RepackOp}
    {op x : RepackOp}
    (hSplit : Split rs before op later)
    (hBefore : x ∈ before) :
    x ∈ repackOps rs := by
  rw [hSplit.split]
  exact List.mem_append_left _ hBefore

/- The repacks before are no later, and of other records. -/
theorem Split.before
    {before later : List RepackOp}
    {op x : RepackOp}
    (hSplit : Split rs before op later)
    (hBefore : x ∈ before) :
    x.performedAt ≤ op.performedAt ∧
      x.recordId ≠ op.recordId := by
  have hSorted := pairwise_repackOps rs
  have hIds := nodup_recordIds rs
  rw [hSplit.split] at hSorted hIds
  rw [List.map_append, List.map_cons] at hIds
  refine ⟨(List.pairwise_append.mp hSorted).2.2 x hBefore op
    List.mem_cons_self, ?_⟩
  have hApart := (List.nodup_append.mp hIds).2.2
  exact hApart _ (List.mem_map_of_mem hBefore) _
    List.mem_cons_self

/- The repacks from there on are no earlier. -/
theorem Split.later
    {before later : List RepackOp}
    {op x : RepackOp}
    (hSplit : Split rs before op later)
    (hLater : x ∈ op :: later) :
    op.performedAt ≤ x.performedAt := by
  have hSorted := pairwise_repackOps rs
  rw [hSplit.split] at hSorted
  have hTail := (List.pairwise_append.mp hSorted).2.1
  rcases List.mem_cons.mp hLater with rfl | hRest
  · exact le_refl _
  · exact (List.pairwise_cons.mp hTail).1 x hRest

/- An earlier repack stands before. -/
theorem Split.mem_before
    {before later : List RepackOp}
    {op x : RepackOp}
    (hSplit : Split rs before op later)
    (hMem : x ∈ repackOps rs)
    (hEarlier : x.performedAt < op.performedAt) :
    x ∈ before := by
  rw [hSplit.split] at hMem
  rcases List.mem_append.mp hMem with hBefore | hLater
  · exact hBefore
  · exact absurd (hSplit.later hLater) (not_le.mpr hEarlier)

/- A repack before that fills an input is an earlier one. -/
theorem OrderFree.lt_of_before
    (hFree : OrderFree rs)
    {before later : List RepackOp}
    {op x : RepackOp}
    (hSplit : Split rs before op later)
    (hBefore : x ∈ before)
    (hIn : p ∈ op.inputs)
    (hOut : p ∈ x.outputs.map Prod.fst) :
    x.performedAt < op.performedAt := by
  rcases hSplit.before hBefore with ⟨hLe, hRecord⟩
  apply lt_of_le_of_ne hLe
  intro hTime
  exact hFree.apart op hSplit.mem x
    (hSplit.mem_of_before hBefore) hTime.symm
    (Ne.symm hRecord) p hIn hOut

--------
-- The Contents That A Repack Picks
--------

/- The records decide the lots of an input at a time. -/
def Picks
    (rs : RecordSet)
    (when_ : Int)
    (p : String)
    (lots : LotsView) : Prop :=
  (∃ x ∈ repackOps rs, x.performedAt < when_ ∧
    (∃ put, (p, put) ∈ x.outputs ∧ (put : LotsView) = lots) ∧
    ∀ y ∈ repackOps rs, y.performedAt < when_ →
      p ∈ y.outputs.map Prod.fst →
        y.performedAt ≤ x.performedAt) ∨
  (¬ FilledBefore rs when_ p ∧
    ∃ stated ∈ statedGroups rs, stated.1 = p ∧
      stated.2.recordedAt ≤ when_ ∧
        (stated.2.lots : LotsView) = lots)

/- The last of rows in an order has all others before it. -/
theorem rel_getLast
    {α : Type}
    (le : α → α → Prop)
    (hRefl : ∀ x, le x x)
    {rows : List α}
    (hRows : rows.Pairwise le)
    {last x : α}
    (hLast : rows.getLast? = some last)
    (hMem : x ∈ rows) :
    le x last := by
  rcases List.getLast?_eq_some_iff.mp hLast with ⟨init, rfl⟩
  rcases List.mem_append.mp hMem with hInit | hOnly
  · exact (List.pairwise_append.mp hRows).2.2 x hInit last
      (List.mem_singleton_self _)
  · rw [List.mem_singleton.mp hOnly]
    exact hRefl last

variable {ops : List RepackOp}
variable {beforeLike laterLike : List RepackOp}
variable {timeline : String → PalletTimeline}

/- The groups that repacks state stand in their order. -/
theorem pairwise_derived
    (hOps : ops.Pairwise (fun x y =>
      x.performedAt ≤ y.performedAt))
    (p : String) :
    (ops.flatMap (derivedGroups p)).Pairwise (fun x y =>
      x.recordedAt ≤ y.recordedAt) := by
  rw [List.pairwise_flatMap]
  constructor
  · intro op _
    apply List.pairwise_of_forall_mem_list
    intro x hX y hY
    rcases mem_derivedGroups.mp hX with ⟨_, -, rfl⟩
    rcases mem_derivedGroups.mp hY with ⟨_, -, rfl⟩
    exact le_refl _
  · apply hOps.imp
    intro op later hLe x hX y hY
    rcases mem_derivedGroups.mp hX with ⟨_, -, rfl⟩
    rcases mem_derivedGroups.mp hY with ⟨_, -, rfl⟩
    exact hLe

theorem mem_statedOf
    {group : ContentsGroup} :
    group ∈ statedOf rs p ↔
      ∃ stated ∈ statedGroups rs,
        stated.1 = p ∧ stated.2 = group := by
  unfold statedOf
  rw [List.mem_map]
  constructor
  · rintro ⟨stated, hMem, hGroup⟩
    rcases List.mem_filter.mp hMem with ⟨hStated, hName⟩
    exact ⟨stated, hStated, of_decide_eq_true hName, hGroup⟩
  · rintro ⟨stated, hStated, hName, hGroup⟩
    exact ⟨stated, List.mem_filter.mpr
      ⟨hStated, decide_eq_true hName⟩, hGroup⟩

/- The groups up to the time of a repack that it meets. -/
theorem filter_metBy
    {before later : List RepackOp}
    (hSplit : Split rs before op later)
    (p : String) :
    (metBy rs before p).contentsGroups.filter (fun group =>
        group.recordedAt ≤ op.performedAt) =
      (statedOf rs p).filter (fun group =>
          group.recordedAt ≤ op.performedAt) ++
        before.flatMap (derivedGroups p) := by
  rw [contentsGroups_metBy, List.filter_append]
  congr 1
  rw [List.filter_eq_self]
  intro group hGroup
  rcases List.mem_flatMap.mp hGroup with ⟨x, hX, hDerived⟩
  rcases mem_derivedGroups.mp hDerived with ⟨_, -, rfl⟩
  exact decide_eq_true (hSplit.before hX).1

/- The contents that a repack meets are what the records pick. -/
theorem OrderFree.picks_of_contentsAt
    (hFree : OrderFree rs)
    {before later : List RepackOp}
    (hSplit : Split rs before op later)
    (hIn : p ∈ op.inputs)
    {group : ContentsGroup}
    (hAt : (metBy rs before p).contentsAt op.performedAt =
      some group) :
    Picks rs op.performedAt p group.lots := by
  unfold PalletTimeline.contentsAt at hAt
  rw [filter_metBy hSplit] at hAt
  by_cases hDerived : before.flatMap (derivedGroups p) = []
  · right
    rw [hDerived, List.append_nil] at hAt
    rcases List.mem_filter.mp (List.mem_of_getLast? hAt) with
      ⟨hStated, hTime⟩
    rcases Iff.mp mem_statedOf hStated with
      ⟨stated, hMem, hName, rfl⟩
    refine ⟨?_, stated, hMem, hName, of_decide_eq_true hTime,
      rfl⟩
    rintro ⟨x, hX, hEarlier, hOut⟩
    rcases List.mem_map.mp hOut with ⟨⟨_, lots⟩, hPut, rfl⟩
    have hGroup : derivedGroup x lots ∈
        before.flatMap (derivedGroups _) :=
      List.mem_flatMap.mpr ⟨x, hSplit.mem_before hX hEarlier,
        mem_derivedGroups.mpr ⟨lots, hPut, rfl⟩⟩
    rw [hDerived] at hGroup
    cases hGroup
  · left
    rw [List.getLast?_append_of_ne_nil _ hDerived] at hAt
    have hSorted : before.Pairwise (fun x y =>
        x.performedAt ≤ y.performedAt) := by
      have hAll := pairwise_repackOps rs
      rw [hSplit.split] at hAll
      exact (List.pairwise_append.mp hAll).1
    have hLast : ∀ other ∈ before.flatMap (derivedGroups p),
        other.recordedAt ≤ group.recordedAt :=
      fun other hOther => rel_getLast
        (fun x y => x.recordedAt ≤ y.recordedAt)
        (fun _ => le_refl _)
        (pairwise_derived hSorted p) hAt hOther
    rcases List.mem_flatMap.mp (List.mem_of_getLast? hAt) with
      ⟨x, hX, hOf⟩
    rcases mem_derivedGroups.mp hOf with ⟨put, hPut, rfl⟩
    refine ⟨x, hSplit.mem_of_before hX,
      hFree.lt_of_before hSplit hX hIn
        (List.mem_map_of_mem (f := Prod.fst) hPut),
      ⟨put, hPut, rfl⟩, ?_⟩
    intro y hY hEarlier hOut
    rcases List.mem_map.mp hOut with ⟨⟨_, lots⟩, hMore, rfl⟩
    exact hLast (derivedGroup y lots)
      (List.mem_flatMap.mpr ⟨y, hSplit.mem_before hY hEarlier,
        mem_derivedGroups.mpr ⟨lots, hMore, rfl⟩⟩)

/- Where the records pick lots, a repack meets contents. -/
theorem not_picks_of_contentsAt
    {before later : List RepackOp}
    (hSplit : Split rs before op later)
    (hAt : (metBy rs before p).contentsAt op.performedAt =
      none)
    (lots : LotsView) :
    ¬ Picks rs op.performedAt p lots := by
  unfold PalletTimeline.contentsAt at hAt
  rw [filter_metBy hSplit, List.getLast?_eq_none_iff,
    List.append_eq_nil_iff] at hAt
  rintro (⟨x, hX, hEarlier, ⟨put, hPut, -⟩, -⟩ |
    ⟨-, stated, hStated, hName, hTime, -⟩)
  · have hGroup : derivedGroup x put ∈
        before.flatMap (derivedGroups p) :=
      List.mem_flatMap.mpr ⟨x, hSplit.mem_before hX hEarlier,
        mem_derivedGroups.mpr ⟨put, hPut, rfl⟩⟩
    rw [hAt.2] at hGroup
    cases hGroup
  · have hGroup : stated.2 ∈ (statedOf rs p).filter
        (fun group => group.recordedAt ≤ op.performedAt) :=
      List.mem_filter.mpr
        ⟨Iff.mpr mem_statedOf ⟨stated, hStated, hName, rfl⟩,
          decide_eq_true hTime⟩
    rw [hAt.1] at hGroup
    cases hGroup

/- The records pick the same lots in both orders. -/
theorem OrderFree.picks_permuted
    {rs other : RecordSet}
    (hFree : OrderFree rs)
    (hPerm : Permuted rs other)
    {when_ : Int}
    {lots : LotsView}
    (hPicks : Picks other when_ p lots) :
    Picks rs when_ p lots := by
  rcases hPicks with
    ⟨x, hX, hEarlier, ⟨put, hPut, rfl⟩, hLast⟩ |
    ⟨hNot, stated, hStated, hName, hTime, rfl⟩
  · left
    rcases hFree.exists_op hPerm hX with ⟨same, hSame, hView⟩
    rcases exists_output_of_view hView.symm hPut with
      ⟨more, hMore, hLots⟩
    have hSameTime := (opView_eq hView).2.1
    refine ⟨same, hSame, by rw [hSameTime]; exact hEarlier,
      ⟨more, hMore, Multiset.coe_eq_coe.mpr hLots⟩, ?_⟩
    intro y hY hYEarlier hOut
    rcases (hFree.permuted hPerm).exists_op hPerm.symm hY with
      ⟨like, hLike, hLikeView⟩
    have hLikeTime := (opView_eq hLikeView).2.1
    rw [hSameTime, ← hLikeTime]
    apply hLast like hLike
    · rw [hLikeTime]
      exact hYEarlier
    · exact (mem_outputs_of_view hLikeView).mpr hOut
  · right
    rcases hFree.exists_stated hPerm hStated with
      ⟨same, hSame, hView⟩
    rcases statedView_eq hView with ⟨hPallet, hAt, hLots⟩
    refine ⟨?_, same, hSame, hPallet.trans hName, ?_,
      Multiset.coe_eq_coe.mpr hLots⟩
    · rw [hFree.filledBefore_iff hPerm]
      exact hNot
    · rw [hAt]
      exact hTime

/- The records pick lots for an input in one way only. -/
theorem OrderFree.picks_unique
    (hFree : OrderFree rs)
    (hOp : op ∈ repackOps rs)
    (hIn : p ∈ op.inputs)
    {lots more : LotsView}
    (hPicks : Picks rs op.performedAt p lots)
    (hAlso : Picks rs op.performedAt p more) :
    lots = more := by
  rcases hPicks with
    ⟨x, hX, hXEarlier, ⟨put, hPut, rfl⟩, hXLast⟩ |
    ⟨hNot, stated, hStated, hName, hTime, rfl⟩
  · have hXOut : p ∈ x.outputs.map Prod.fst :=
      List.mem_map_of_mem (f := Prod.fst) hPut
    rcases hAlso with
      ⟨y, hY, hYEarlier, ⟨set, hSet, rfl⟩, hYLast⟩ |
      ⟨hNot, -⟩
    · have hYOut : p ∈ y.outputs.map Prod.fst :=
        List.mem_map_of_mem (f := Prod.fst) hSet
      have hTime := le_antisymm
        (hYLast x hX hXEarlier hXOut)
        (hXLast y hY hYEarlier hYOut)
      exact Multiset.coe_eq_coe.mpr
        (hFree.repackTimes x hX y hY hTime p put set hPut hSet)
    · exact absurd ⟨x, hX, hXEarlier, hXOut⟩ hNot
  · rcases hAlso with
      ⟨y, hY, hYEarlier, ⟨set, hSet, rfl⟩, -⟩ |
      ⟨-, another, hAnother, hAnotherName, hAnotherTime, rfl⟩
    · exact absurd ⟨y, hY, hYEarlier,
        List.mem_map_of_mem (f := Prod.fst) hSet⟩ hNot
    · exact Multiset.coe_eq_coe.mpr
        (hFree.chosen op hOp p hIn hNot stated hStated another
          hAnother hName hAnotherName hTime hAnotherTime)

/- A group without its fields and the order of its lots. -/
def lotsView (group : ContentsGroup) : LotsView :=
  group.lots

/- A repack takes the same lots of an input in both orders. -/
theorem OrderFree.contentsAt_view
    {rs other : RecordSet}
    (hFree : OrderFree rs)
    (hPerm : Permuted rs other)
    {before later : List RepackOp}
    (hSplit : Split rs before op later)
    {like : RepackOp}
    (hLike : Split other beforeLike like laterLike)
    (hView : opView op = opView like)
    (hIn : p ∈ op.inputs) :
    ((metBy rs before p).contentsAt op.performedAt).map
        lotsView =
      ((metBy other beforeLike p).contentsAt
        like.performedAt).map lotsView := by
  rcases opView_eq hView with ⟨-, hTime, hInputs, -⟩
  have hInLike : p ∈ like.inputs := hInputs ▸ hIn
  have hBack := hFree.permuted hPerm
  cases hHere :
      (metBy rs before p).contentsAt op.performedAt with
  | none =>
    cases hThere : (metBy other beforeLike p).contentsAt
        like.performedAt with
    | none => rfl
    | some group =>
      have hPicks := hFree.picks_permuted hPerm
        (hBack.picks_of_contentsAt hLike hInLike hThere)
      rw [← hTime] at hPicks
      exact absurd hPicks
        (not_picks_of_contentsAt hSplit hHere _)
  | some group =>
    have hPicks := hFree.picks_of_contentsAt hSplit hIn hHere
    cases hThere : (metBy other beforeLike p).contentsAt
        like.performedAt with
    | none =>
      have hMoved := hBack.picks_permuted hPerm.symm hPicks
      rw [hTime] at hMoved
      exact absurd hMoved
        (not_picks_of_contentsAt hLike hThere _)
    | some more =>
      have hAlso := hFree.picks_permuted hPerm
        (hBack.picks_of_contentsAt hLike hInLike hThere)
      rw [← hTime] at hAlso
      have hSame := hFree.picks_unique hSplit.mem hIn hPicks
        hAlso
      exact congrArg some hSame

--------
-- Events
--------

def repackEventsOn (p : String) (op : RepackOp) :
    List PalletEvent :=
  (op.inputs.filter (fun input => input = p)).map
      (fun _ => repackEvent op .repackIn) ++
    (op.outputs.filter (fun output => output.1 = p)).map
      (fun _ => repackEvent op .repackOut)

theorem events_withContents
    (rs : RecordSet)
    (q : String) :
    ((withContents rs).timelines.get q).events =
      (statedOf rs q).map contentsEvent := by
  unfold withContents contentsSteps statedOf
  rw [List.map_map]
  exact DefaultTable.view_changeEach Prod.fst
    (fun stated : String × ContentsGroup =>
      addContents stated.2)
    PalletTimeline.events
    (fun stated => contentsEvent stated.2)
    (fun _ _ => rfl) _ _ _

theorem events_applyRepack
    (b : Builder)
    (op : RepackOp)
    (q : String) :
    ((applyRepack b op).timelines.get q).events =
      (b.timelines.get q).events ++ repackEventsOn q op := by
  unfold applyRepack repackSteps repackEventsOn
  rw [DefaultTable.changeEach_append,
    DefaultTable.view_changeEach Prod.fst
      (fun output : String × Lots => produce op output.2)
      PalletTimeline.events
      (fun _ => repackEvent op .repackOut) (fun _ _ => rfl),
    DefaultTable.view_changeEach (fun p : String => p)
      (fun _ => consume op) PalletTimeline.events
      (fun _ => repackEvent op .repackIn) (fun _ _ => rfl),
    List.append_assoc]

theorem events_foldl
    (ops : List RepackOp)
    (b : Builder)
    (q : String) :
    ((ops.foldl applyRepack b).timelines.get q).events =
      (b.timelines.get q).events ++
        ops.flatMap (repackEventsOn q) := by
  induction ops generalizing b with
  | nil => simp
  | cons op rest ih =>
    rw [List.foldl_cons, ih, events_applyRepack,
      List.flatMap_cons, List.append_assoc]

/- A repack that names a pallet is an event on it. -/
theorem repackEventsOn_eq_nil
    {op : RepackOp} :
    repackEventsOn p op = [] ↔
      p ∉ op.inputs ∧ p ∉ op.outputs.map Prod.fst := by
  unfold repackEventsOn
  rw [List.append_eq_nil_iff, List.map_eq_nil_iff,
    List.map_eq_nil_iff, List.filter_eq_nil_iff,
    List.filter_eq_nil_iff, List.mem_map]
  simp only [decide_eq_true_eq]
  constructor
  · rintro ⟨hIn, hOut⟩
    exact ⟨fun hMem => hIn p hMem rfl,
      fun ⟨output, hMem, hName⟩ => hOut output hMem hName⟩
  · rintro ⟨hIn, hOut⟩
    refine ⟨?_, fun output hMem hName =>
      hOut ⟨output, hMem, hName⟩⟩
    rintro input hMem rfl
    exact hIn hMem

/- An input that a repack meets unmentioned. -/
theorem metBy_isEmpty
    {before : List RepackOp}
    {p : String} :
    ((metBy rs before p).events.isEmpty &&
        (metBy rs before p).contentsGroups.isEmpty) = true ↔
      statedOf rs p = [] ∧
        ∀ x ∈ before,
          p ∉ x.inputs ∧ p ∉ x.outputs.map Prod.fst := by
  rw [contentsGroups_metBy]
  unfold metBy
  rw [events_foldl, events_withContents, Bool.and_eq_true,
    List.isEmpty_iff, List.isEmpty_iff,
    List.append_eq_nil_iff, List.append_eq_nil_iff,
    List.map_eq_nil_iff, List.flatMap_eq_nil_iff]
  simp only [repackEventsOn_eq_nil]
  constructor
  · rintro ⟨hEvents, -⟩
    exact hEvents
  · rintro ⟨hStated, hBefore⟩
    refine ⟨⟨hStated, hBefore⟩, hStated, ?_⟩
    rw [List.flatMap_eq_nil_iff]
    intro x hX
    rw [List.eq_nil_iff_forall_not_mem]
    intro group hGroup
    rcases mem_derivedGroups.mp hGroup with ⟨lots, hOut, -⟩
    exact (hBefore x hX).2
      (List.mem_map_of_mem (f := Prod.fst) hOut)

--------
-- What A Repack Finds In Both Orders
--------

open Relation (ReflTransGen)

/- A finding names a pallet or one that it was made from. -/
def Touches
    (rs : RecordSet)
    (finding : Finding)
    (t : String) : Prop :=
  ∃ p, (finding.palletId = some p ∨
      p ∈ finding.relatedPalletIds) ∧
    ReflTransGen (Feeds rs) p t

/- A finding like another one, which touches no less. -/
structure Matches
    (rs : RecordSet)
    (finding like : Finding) : Prop where
  type : finding.type = like.type
  palletId : finding.palletId = like.palletId
  lotCode : finding.lotCode = like.lotCode
  blocking : finding.blocking = like.blocking
  touches : ∀ t, Touches rs finding t → Touches rs like t

theorem Matches.refl
    (rs : RecordSet)
    (finding : Finding) :
    Matches rs finding finding :=
  ⟨rfl, rfl, rfl, rfl, fun _ => id⟩

/- Findings of a kind that name the same pallets. -/
theorem matches_of_related
    {type : FindingType}
    {palletId : Option String}
    {related more : List String}
    (hRelated : ∀ p ∈ related, p ∈ more) :
    Matches rs (palletFinding type palletId related)
      (palletFinding type palletId more) where
  type := rfl
  palletId := rfl
  lotCode := rfl
  blocking := rfl
  touches := by
    rintro t ⟨p, hPallet | hMem, hReach⟩
    · exact ⟨p, Or.inl hPallet, hReach⟩
    · exact ⟨p, Or.inr (hRelated p hMem), hReach⟩

/- The findings of the repacks, each at its place. -/
theorem mem_findings_foldl
    {b : Builder}
    {finding : Finding} :
    finding ∈ (ops.foldl applyRepack b).findings ↔
      finding ∈ b.findings ∨
        ∃ before op later, ops = before ++ op :: later ∧
          finding ∈ repackFindings op
            (before.foldl applyRepack b).timelines.get := by
  induction ops generalizing b with
  | nil => simp
  | cons op rest ih =>
    rw [List.foldl_cons, ih]
    change _ ∈ b.findings ++
      repackFindings op b.timelines.get ∨ _ ↔ _
    rw [List.mem_append, or_assoc]
    constructor
    · rintro (hOld | hHere |
        ⟨before, x, later, rfl, hFound⟩)
      · exact Or.inl hOld
      · exact Or.inr ⟨[], op, rest, rfl, hHere⟩
      · exact Or.inr ⟨op :: before, x, later, rfl, hFound⟩
    · rintro (hOld | ⟨before, x, later, hSplit, hFound⟩)
      · exact Or.inl hOld
      · right
        cases before with
        | nil =>
          rw [List.nil_append, List.cons.injEq] at hSplit
          left
          rw [hSplit.1]
          exact hFound
        | cons first before =>
          rw [List.cons_append, List.cons.injEq] at hSplit
          right
          refine ⟨before, x, later, hSplit.2, ?_⟩
          rw [hSplit.1]
          exact hFound

theorem mem_withRepacks
    {finding : Finding} :
    finding ∈ (withRepacks rs).findings ↔
      finding ∈ rs.loadFindings ∨
        ∃ before op later, Split rs before op later ∧
          finding ∈ repackFindings op (metBy rs before) := by
  unfold withRepacks
  rw [mem_findings_foldl]
  constructor
  · rintro (hLoad | ⟨before, op, later, hSplit, hFound⟩)
    · exact Or.inl hLoad
    · exact Or.inr ⟨before, op, later, ⟨hSplit⟩, hFound⟩
  · rintro (hLoad | ⟨before, op, later, hSplit, hFound⟩)
    · exact Or.inl hLoad
    · exact Or.inr ⟨before, op, later, hSplit.split, hFound⟩

/- A repack has a place. -/
theorem exists_split
    (hOp : op ∈ repackOps rs) :
    ∃ before later, Split rs before op later := by
  rcases List.append_of_mem hOp with ⟨before, later, hSplit⟩
  exact ⟨before, later, ⟨hSplit⟩⟩

/- The sum of known quantities does not depend on their order. -/
theorem sumKnown_perm
    {quantities others : List (Option ℚ)}
    (hPerm : quantities.Perm others) :
    sumKnown quantities = sumKnown others := by
  unfold sumKnown
  apply hPerm.foldr_eq'
  intro x _ y _ total
  cases x with
  | none =>
    cases y with
    | none => rfl
    | some y =>
      cases total with
      | none => rfl
      | some total => rfl
  | some x =>
    cases y with
    | none =>
      cases total with
      | none => rfl
      | some total => rfl
    | some y =>
      cases total with
      | none => rfl
      | some total => exact congrArg some (add_left_comm _ _ _)

theorem totalOf_perm
    {entries others : Lots}
    (hPerm : entries.Perm others)
    (lot : String) :
    totalOf entries lot = totalOf others lot := by
  have hFound := hPerm.filter (fun entry => entry.1 = lot)
  unfold totalOf
  cases hHere : entries.filter (fun entry => entry.1 = lot) with
  | nil =>
    rw [hHere] at hFound
    rw [List.nil_perm.mp hFound]
  | cons first rest =>
    cases hThere :
        others.filter (fun entry => entry.1 = lot) with
    | nil =>
      rw [hThere] at hFound
      rw [List.perm_nil.mp hFound] at hHere
      cases hHere
    | cons second more =>
      rw [hHere, hThere] at hFound
      exact sumKnown_perm (hFound.map Prod.snd)

theorem reconciles_perm
    {inputs outputs inputs' outputs' : Lots}
    (hInputs : inputs.Perm inputs')
    (hOutputs : outputs.Perm outputs')
    (lot : String) :
    reconciles inputs outputs lot =
      reconciles inputs' outputs' lot := by
  unfold reconciles
  rw [totalOf_perm hInputs lot, totalOf_perm hOutputs lot]

/- Lists of groups with the same lots hold the same lots. -/
theorem flatMap_lots_perm
    {groups others : List ContentsGroup}
    (hViews : groups.map lotsView = others.map lotsView) :
    (groups.flatMap ContentsGroup.lots).Perm
      (others.flatMap ContentsGroup.lots) := by
  induction groups generalizing others with
  | nil =>
    rw [List.map_nil] at hViews
    rw [List.map_eq_nil_iff.mp hViews.symm]
  | cons group rest ih =>
    cases others with
    | nil => cases hViews
    | cons other more =>
      simp only [List.map_cons, List.cons.injEq] at hViews
      rw [List.flatMap_cons, List.flatMap_cons]
      exact (Multiset.coe_eq_coe.mp hViews.1).append
        (ih hViews.2)

/- Outputs with the same view hold the same lots. -/
theorem flatMap_outputs_perm
    {outputs others : List (String × Lots)}
    (hView : outputsView outputs = outputsView others) :
    (outputs.flatMap Prod.snd).Perm
      (others.flatMap Prod.snd) := by
  have hJoin : ∀ list : List (String × Lots),
      ((list.flatMap Prod.snd : Lots) : LotsView) =
        ((outputsView list).map Prod.snd).sum := by
    intro list
    unfold outputsView
    rw [Multiset.map_coe, Multiset.sum_coe, List.map_map]
    induction list with
    | nil => rfl
    | cons output rest ih =>
      rw [List.flatMap_cons, List.map_cons, List.sum_cons,
        ← ih]
      rfl
  apply Multiset.coe_eq_coe.mp
  rw [hJoin, hJoin, hView]

--------
-- The Findings Of The Repacks
--------

/- Values that are alike are there for the same names. -/
theorem exists_groups_of_views
    (at_ atLike : String → Option ContentsGroup)
    {names : List String}
    (hViews : ∀ p ∈ names,
      (at_ p).map lotsView = (atLike p).map lotsView)
    {groups : List ContentsGroup}
    (hGroups : names.map at_ = groups.map some) :
    ∃ others : List ContentsGroup,
      names.map atLike = others.map some ∧
        groups.map lotsView = others.map lotsView := by
  induction names generalizing groups with
  | nil =>
    rw [List.map_nil] at hGroups
    rw [List.map_eq_nil_iff.mp hGroups.symm]
    exact ⟨[], rfl, rfl⟩
  | cons p rest ih =>
    cases groups with
    | nil => cases hGroups
    | cons group groups =>
      simp only [List.map_cons, List.cons.injEq] at hGroups
      rw [List.forall_mem_cons] at hViews
      rcases ih hViews.2 hGroups.2 with
        ⟨others, hOthers, hSame⟩
      have hView := hViews.1
      rw [hGroups.1, Option.map_some] at hView
      rcases Option.map_eq_some_iff.mp hView.symm with
        ⟨other, hOther, hLots⟩
      refine ⟨other :: others, ?_, ?_⟩
      · rw [List.map_cons, List.map_cons, hOther, hOthers]
      · rw [List.map_cons, List.map_cons, hSame, hLots]

/- A repack that does not balance, read back. -/
theorem of_mem_mismatchFindings
    (hFound : finding ∈ mismatchFindings op timeline) :
    ∃ inputs, inputLots op timeline = some inputs ∧
      (∃ entry ∈ inputs ++ op.outputs.flatMap Prod.snd,
        reconciles inputs (op.outputs.flatMap Prod.snd)
          entry.1 = false) ∧
      finding = palletFinding .quantityDiscrepancy none
        (op.inputs ++ op.outputs.map Prod.fst) := by
  unfold mismatchFindings at hFound
  cases hInputs : inputLots op timeline with
  | none =>
    rw [hInputs] at hFound
    cases hFound
  | some inputs =>
    rw [hInputs] at hFound
    refine ⟨inputs, rfl, ?_⟩
    change finding ∈ if _ then _ else _ at hFound
    split at hFound
    · cases hFound
    · rename_i hNot
      refine ⟨?_, List.mem_singleton.mp hFound⟩
      rw [Bool.not_eq_true, List.all_eq_false] at hNot
      rcases hNot with ⟨entry, hEntry, hApart⟩
      exact ⟨entry, hEntry, Bool.not_eq_true _ ▸ hApart⟩

/- A repack that does not balance does not in the other order. -/
theorem OrderFree.mismatch_matches
    {rs other : RecordSet}
    (hFree : OrderFree rs)
    (hPerm : Permuted rs other)
    {before later : List RepackOp}
    (hSplit : Split rs before op later)
    {like : RepackOp}
    (hLike : Split other beforeLike like laterLike)
    (hView : opView op = opView like)
    (hFound :
      finding ∈ mismatchFindings op (metBy rs before)) :
    ∃ same ∈ mismatchFindings like (metBy other beforeLike),
      Matches rs finding same := by
  rcases of_mem_mismatchFindings hFound with
    ⟨inputs, hInputs, ⟨entry, hEntry, hApart⟩, rfl⟩
  rcases opView_eq hView with ⟨-, hTime, hNames, hOutputs⟩
  unfold inputLots at hInputs
  rcases Option.map_eq_some_iff.mp hInputs with
    ⟨groups, hGroups, rfl⟩
  rw [Grouping.mapM_eq_some] at hGroups
  rcases exists_groups_of_views
      (fun p => (metBy rs before p).contentsAt op.performedAt)
      (fun p => (metBy other beforeLike p).contentsAt
        like.performedAt)
      (fun p hIn => hFree.contentsAt_view hPerm hSplit hLike
        hView hIn) hGroups with
    ⟨others, hOthers, hViews⟩
  have hIn := flatMap_lots_perm hViews
  have hOut := flatMap_outputs_perm hOutputs
  have hInputsLike :
      inputLots like (metBy other beforeLike) =
        some (others.flatMap ContentsGroup.lots) := by
    unfold inputLots
    rw [← hNames, Grouping.mapM_eq_some.mpr hOthers]
    rfl
  refine ⟨_, mem_mismatchFindings hInputsLike
    ((hIn.append hOut).mem_iff.mp hEntry) ?_, ?_⟩
  · rw [← reconciles_perm hIn hOut]
    exact hApart
  · apply matches_of_related
    intro p hMem
    rw [List.mem_append] at hMem ⊢
    rw [← hNames, ← mem_outputs_of_view hView]
    exact hMem

/-
  An input that no record mentions before: the first repack of
  the other order that names it finds it unmentioned as well.
-/
theorem OrderFree.exists_unmatched
    {rs other : RecordSet}
    (hFree : OrderFree rs)
    (hPerm : Permuted rs other)
    {before later : List RepackOp}
    (hSplit : Split rs before op later)
    (hIn : p ∈ op.inputs)
    (hStated : statedOf rs p = [])
    (hBefore : ∀ x ∈ before,
      p ∉ x.inputs ∧ p ∉ x.outputs.map Prod.fst) :
    ∃ beforeLike like laterLike,
      Split other beforeLike like laterLike ∧
        p ∈ like.inputs ∧ statedOf other p = [] ∧
          ∀ x ∈ beforeLike,
            p ∉ x.inputs ∧ p ∉ x.outputs.map Prod.fst := by
  have hBack := hFree.permuted hPerm
  rcases hBack.exists_op hPerm.symm hSplit.mem with
    ⟨same, hSame, hSameView⟩
  rcases opView_eq hSameView with
    ⟨-, hSameTime, hSameInputs, -⟩
  have hStatedOther : statedOf other p = [] := by
    rw [List.eq_nil_iff_forall_not_mem]
    intro group hGroup
    rcases Iff.mp mem_statedOf hGroup with
      ⟨stated, hMem, hName, -⟩
    rcases hFree.exists_stated hPerm hMem with
      ⟨here, hHere, hView⟩
    have hIs : here.2 ∈ statedOf rs p := Iff.mpr mem_statedOf
      ⟨here, hHere, (statedView_eq hView).1.trans hName, rfl⟩
    rw [hStated] at hIs
    cases hIs
  -- the first repack of the other order that names the pallet
  have hFind : ((repackOps other).find? (fun x =>
      decide (p ∈ x.inputs ∨
        p ∈ x.outputs.map Prod.fst))).isSome := by
    rw [List.find?_isSome]
    refine ⟨same, hSame, decide_eq_true (Or.inl ?_)⟩
    rw [hSameInputs]
    exact hIn
  rcases Option.isSome_iff_exists.mp hFind with
    ⟨like, hFound⟩
  rcases List.find?_eq_some_iff_append.mp hFound with
    ⟨hNames, beforeLike, laterLike, hOps, hFirst⟩
  have hLike : Split other beforeLike like laterLike := ⟨hOps⟩
  have hUnnamed : ∀ x ∈ beforeLike,
      p ∉ x.inputs ∧ p ∉ x.outputs.map Prod.fst := by
    intro x hX
    have hNot := hFirst x hX
    rw [Bool.not_eq_true', decide_eq_false_iff_not,
      not_or] at hNot
    exact hNot
  refine ⟨beforeLike, like, laterLike, hLike, ?_,
    hStatedOther, hUnnamed⟩
  rcases of_decide_eq_true hNames with hInLike | hOutLike
  · exact hInLike
  · by_contra hNotIn
    -- both orders name the pallet first at one time
    rcases hFree.exists_op hPerm hLike.mem with
      ⟨here, hHere, hView⟩
    rcases opView_eq hView with ⟨hId, hHereTime, hInputs, -⟩
    have hHereOut := (mem_outputs_of_view hView).mpr hOutLike
    have hAfter : op.performedAt ≤ here.performedAt := by
      rw [hSplit.split] at hHere
      rcases List.mem_append.mp hHere with hEarly | hLate
      · exact absurd hHereOut (hBefore here hEarly).2
      · exact hSplit.later hLate
    have hSameLater : like.performedAt ≤ same.performedAt := by
      rw [hOps] at hSame
      rcases List.mem_append.mp hSame with hEarly | hLate
      · exact absurd (hSameInputs ▸ hIn)
          (hUnnamed same hEarly).1
      · exact hLike.later hLate
    have hTime : op.performedAt = here.performedAt := by
      apply le_antisymm hAfter
      rw [hHereTime, ← hSameTime]
      exact hSameLater
    by_cases hRecord : op.recordId = here.recordId
    · have hIs := eq_of_recordId hSplit.mem hHere hRecord
      apply hNotIn
      rw [← hInputs, ← hIs]
      exact hIn
    · exact hFree.apart op hSplit.mem here hHere hTime hRecord
        p hIn hHereOut

/- What a repack finds about an input, read back. -/
theorem of_mem_inputFindings
    (hFound : finding ∈ inputFindings op timeline p) :
    (((timeline p).events.isEmpty &&
          (timeline p).contentsGroups.isEmpty) = true ∧
        finding = palletFinding .unmatchedIdentifier (some p)
          (op.outputs.map Prod.fst)) ∨
      ((timeline p).contentsAt op.performedAt = none ∧
        finding = palletFinding .missingPalletContents (some p)
          (op.outputs.map Prod.fst)) := by
  unfold inputFindings at hFound
  rcases List.mem_append.mp hFound with hFirst | hSecond
  · split at hFirst
    · rename_i hEmpty
      exact Or.inl ⟨hEmpty, List.mem_singleton.mp hFirst⟩
    · cases hFirst
  · split at hSecond
    · rename_i hNone
      exact Or.inr ⟨hNone, List.mem_singleton.mp hSecond⟩
    · cases hSecond

/-
  What the repacks find is found, or what is like it, for rows
  in another order.
-/
theorem OrderFree.repack_matches
    {rs other : RecordSet}
    (hFree : OrderFree rs)
    (hPerm : Permuted rs other)
    (hFound : finding ∈ (withRepacks rs).findings) :
    ∃ like ∈ (withRepacks other).findings,
      Matches rs finding like := by
  rcases mem_withRepacks.mp hFound with
    hLoad | ⟨before, op, later, hSplit, hOf⟩
  · refine ⟨finding, mem_withRepacks.mpr (Or.inl ?_),
      Matches.refl rs finding⟩
    rw [← hPerm.loadFindings]
    exact hLoad
  rcases (hFree.permuted hPerm).exists_op hPerm.symm
      hSplit.mem with ⟨like, hLikeMem, hLikeView⟩
  rcases exists_split hLikeMem with
    ⟨beforeLike, laterLike, hLike⟩
  have hView : opView op = opView like := hLikeView.symm
  rcases opView_eq hView with ⟨-, -, hInputs, -⟩
  rcases List.mem_append.mp hOf with hInput | hMismatch
  · rcases List.mem_flatMap.mp hInput with ⟨p, hIn, hAbout⟩
    rcases of_mem_inputFindings hAbout with
      ⟨hEmpty, rfl⟩ | ⟨hNone, rfl⟩
    · -- a finding about the pallet that feeds all the related
      rcases metBy_isEmpty.mp hEmpty with ⟨hStated, hUnnamed⟩
      rcases hFree.exists_unmatched hPerm hSplit hIn hStated
          hUnnamed with
        ⟨early, first, late, hFirst, hFirstIn, hNoGroup,
          hNoneBefore⟩
      have hEmptyLike := metBy_isEmpty.mpr
        ⟨hNoGroup, hNoneBefore⟩
      refine ⟨palletFinding .unmatchedIdentifier (some p)
        (first.outputs.map Prod.fst), ?_, ?_⟩
      · apply mem_withRepacks.mpr
        refine Or.inr ⟨early, first, late, hFirst, ?_⟩
        apply List.mem_append_left
        apply List.mem_flatMap.mpr
        refine ⟨p, hFirstIn, ?_⟩
        unfold inputFindings
        rw [if_pos hEmptyLike]
        exact List.mem_append_left _
          (List.mem_singleton_self _)
      · refine ⟨rfl, rfl, rfl, rfl, ?_⟩
        rintro t ⟨q, hPallet | hOut, hReach⟩
        · exact ⟨q, Or.inl hPallet, hReach⟩
        · refine ⟨p, Or.inl rfl, .head ?_ hReach⟩
          exact feeds_iff.mpr ⟨op, hSplit.mem, hIn, hOut⟩
    · have hSame := hFree.contentsAt_view hPerm hSplit hLike
        hView hIn
      rw [hNone, Option.map_none] at hSame
      have hNoneLike := Option.map_eq_none_iff.mp hSame.symm
      refine ⟨palletFinding .missingPalletContents (some p)
        (like.outputs.map Prod.fst), ?_, ?_⟩
      · apply mem_withRepacks.mpr
        refine Or.inr ⟨beforeLike, like, laterLike, hLike, ?_⟩
        apply List.mem_append_left
        apply List.mem_flatMap.mpr
        exact ⟨p, hInputs ▸ hIn, mem_inputFindings hNoneLike⟩
      · apply matches_of_related
        intro q hOut
        exact (mem_outputs_of_view hView).mp hOut
  · rcases hFree.mismatch_matches hPerm hSplit hLike hView
      hMismatch with ⟨same, hSame, hMatches⟩
    refine ⟨same, mem_withRepacks.mpr (Or.inr
      ⟨beforeLike, like, laterLike, hLike,
        List.mem_append_right _ hSame⟩), hMatches⟩

end RecallReconstruction

end RegEngine
