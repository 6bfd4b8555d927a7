import Mathlib.Data.Multiset.Bind
import RegEngine.Shared.RecallReconstruction.RepackOrder

/-
  The timelines of the custody model for rows in any order:
  the groups and the events stand in an order that the records
  fix.

  Main declarations:
    * `RecallReconstruction.eventView`
    * `RecallReconstruction.eventsOf`
    * `RecallReconstruction.OrderFree.eventViews_eq`
-/

--------
-- Groups
--------

namespace RegEngine

namespace RecallReconstruction

/- The groups of the model, sorted. -/
theorem contentsGroups_buildCustody
    (rs : RecordSet)
    (q : String) :
    ((buildCustody rs).timelines.get q).contentsGroups =
      (groupsOf rs q).insertionSort (fun x y =>
        x.recordedAt ≤ y.recordedAt) := by
  have hRaw : ((withMovements rs).get q).contentsGroups =
      groupsOf rs q := by
    rw [kept_withMovements PalletTimeline.contentsGroups
      (fun _ _ => rfl)]
    unfold withRepacks groupsOf
    rw [contentsGroups_foldl, contentsGroups_withContents]
  rw [← hRaw]
  rfl

/- The stated groups of a pallet are the same up to order. -/
theorem OrderFree.statedOf_perm
    {rs other : RecordSet}
    (hFree : OrderFree rs)
    (hPerm : Permuted rs other)
    (q : String) :
    ((statedOf rs q).map groupView).Perm
      ((statedOf other q).map groupView) := by
  have hOf : ∀ set : RecordSet,
      (statedOf set q).map groupView =
        ((((statedGroups set).map statedView).filter
          (fun view => view.1 = q)).map Prod.snd) := by
    intro set
    unfold statedOf
    rw [List.filter_map, List.map_map, List.map_map]
    rfl
  rw [hOf rs, hOf other]
  exact ((hFree.statedViews_perm hPerm).filter _).map _

/- What a repack states for a pallet, by its view. -/
def derivedViews
    (q : String)
    (view : String × Int × List String ×
      Multiset (String × LotsView)) :
    Multiset (Int × Bool × LotsView) :=
  (view.2.2.2.filter (fun output => output.1 = q)).map
    (fun output =>
      (view.2.1, !view.2.2.1.isEmpty, output.2))

theorem derivedGroups_view
    (q : String)
    (op : RepackOp) :
    (((derivedGroups q op).map groupView :
        List (Int × Bool × LotsView)) :
      Multiset (Int × Bool × LotsView)) =
      derivedViews q (opView op) := by
  unfold derivedGroups derivedViews opView outputsView
  rw [Multiset.filter_coe, Multiset.map_coe, List.map_map,
    List.filter_map, List.map_map]
  rfl

/- The groups of a pallet are the same up to order. -/
theorem OrderFree.groupsOf_perm
    {rs other : RecordSet}
    (hFree : OrderFree rs)
    (hPerm : Permuted rs other)
    (q : String) :
    ((groupsOf rs q).map groupView).Perm
      ((groupsOf other q).map groupView) := by
  have hDerived : ∀ set : RecordSet,
      ((((repackOps set).flatMap (derivedGroups q)).map
          groupView : List (Int × Bool × LotsView)) :
        Multiset (Int × Bool × LotsView)) =
        (((repackOps set).map opView :
          List (String × Int × List String ×
            Multiset (String × LotsView))) :
          Multiset (String × Int × List String ×
            Multiset (String × LotsView))).bind
          (derivedViews q) := by
    intro set
    induction repackOps set with
    | nil => rfl
    | cons op rest ih =>
      rw [List.flatMap_cons, List.map_append, List.map_cons,
        ← Multiset.cons_coe, Multiset.cons_bind, ← ih,
        ← derivedGroups_view]
      rfl
  unfold groupsOf
  rw [List.map_append, List.map_append]
  apply (hFree.statedOf_perm hPerm q).append
  apply Multiset.coe_eq_coe.mp
  rw [hDerived rs, hDerived other,
    Multiset.coe_eq_coe.mpr (hFree.opViews_perm hPerm)]

variable {rs : RecordSet} {q : String}

/- A repack takes something in. -/
theorem inputs_ne_nil
    {op : RepackOp}
    (hOp : op ∈ repackOps rs) :
    op.inputs ≠ [] := by
  rcases mem_repackOps.mp hOp with ⟨group, hGroup, rfl⟩
  rcases List.exists_mem_of_ne_nil _
    (Grouping.ne_nil_of_mem_groupBy hGroup) with ⟨row, hRow⟩
  exact List.ne_nil_of_mem (mem_inputs.mpr ⟨row, hRow, rfl⟩)

variable {group : ContentsGroup} {event : PalletEvent}

/- The views of stated groups. -/
theorem derived_of_mem_statedOf
    (hStated : group ∈ statedOf rs q) :
    (groupView group).2.1 = false := by
  rcases exists_rows_of_stated hStated with ⟨rows, -, -, rfl⟩
  rfl

theorem derived_of_mem_repacks
    (hDerived :
      group ∈ (repackOps rs).flatMap (derivedGroups q)) :
    (groupView group).2.1 = true := by
  rcases List.mem_flatMap.mp hDerived with ⟨op, hOp, hOf⟩
  rcases mem_derivedGroups.mp hOf with ⟨lots, -, rfl⟩
  change (!op.inputs.isEmpty) = true
  rw [Bool.not_eq_true', List.isEmpty_eq_false_iff]
  exact inputs_ne_nil hOp

/- Groups of one time and kind have one view. -/
theorem OrderFree.groupView_eq
    (hFree : OrderFree rs)
    {x y : ContentsGroup}
    (hX : x ∈ groupsOf rs q)
    (hY : y ∈ groupsOf rs q)
    (hTime : x.recordedAt = y.recordedAt)
    (hKind : (groupView x).2.1 = (groupView y).2.1) :
    groupView x = groupView y := by
  have hLots : x.lots.Perm y.lots := by
    rcases List.mem_append.mp hX with hXOf | hXOf
    · rcases List.mem_append.mp hY with hYOf | hYOf
      · rcases mem_statedOf.mp hXOf with
          ⟨s, hS, hSName, rfl⟩
        rcases mem_statedOf.mp hYOf with
          ⟨t, hT, hTName, rfl⟩
        exact hFree.contentsTimes s hS t hT
          (hSName.trans hTName.symm) hTime
      · rw [derived_of_mem_statedOf hXOf,
          derived_of_mem_repacks hYOf] at hKind
        cases hKind
    · rcases List.mem_append.mp hY with hYOf | hYOf
      · rw [derived_of_mem_repacks hXOf,
          derived_of_mem_statedOf hYOf] at hKind
        cases hKind
      · rcases List.mem_flatMap.mp hXOf with ⟨s, hS, hSOf⟩
        rcases mem_derivedGroups.mp hSOf with
          ⟨lots, hLots, rfl⟩
        rcases List.mem_flatMap.mp hYOf with ⟨t, hT, hTOf⟩
        rcases mem_derivedGroups.mp hTOf with
          ⟨more, hMore, rfl⟩
        exact hFree.repackTimes s hS t hT hTime q lots more
          hLots hMore
  have hViews := Multiset.coe_eq_coe.mpr hLots
  have hDerived : (!x.derivedFrom.isEmpty) =
      !y.derivedFrom.isEmpty := hKind
  unfold groupView
  rw [hTime, hDerived, hViews]

/- The groups of a pallet stand in one order of views. -/
theorem OrderFree.groupViews_eq
    {rs other : RecordSet}
    (hFree : OrderFree rs)
    (hPerm : Permuted rs other)
    (q : String) :
    ((buildCustody rs).timelines.get q).contentsGroups.map
        groupView =
      ((buildCustody other).timelines.get
        q).contentsGroups.map groupView := by
  have hTotal : Std.Total
      (fun v w : Int × Bool × LotsView => v.1 ≤ w.1) :=
    ⟨fun v w => le_total v.1 w.1⟩
  have hTrans : IsTrans (Int × Bool × LotsView)
      (fun v w => v.1 ≤ w.1) := ⟨fun _ _ _ => le_trans⟩
  have hSorted : ∀ set : RecordSet,
      ((buildCustody set).timelines.get q).contentsGroups.map
          groupView =
        ((groupsOf set q).map groupView).insertionSort
          (fun v w => v.1 ≤ w.1) := by
    intro set
    rw [contentsGroups_buildCustody]
    exact List.map_insertionSort _ _ _ _
      (fun _ _ _ _ => Iff.rfl)
  -- what repacks state stands behind what records state
  have hStable : ∀ set : RecordSet,
      ((groupsOf set q).map groupView).Pairwise (fun v w =>
        v.2.1 = true → w.2.1 = true) := by
    intro set
    unfold groupsOf
    rw [List.map_append, List.pairwise_append]
    refine ⟨?_, ?_, ?_⟩
    · apply List.pairwise_of_forall_mem_list
      intro v hV w _ hIs
      rcases List.mem_map.mp hV with ⟨x, hX, rfl⟩
      rw [derived_of_mem_statedOf hX] at hIs
      cases hIs
    · apply List.pairwise_of_forall_mem_list
      intro v _ w hW _
      rcases List.mem_map.mp hW with ⟨y, hY, rfl⟩
      exact derived_of_mem_repacks hY
    · intro v _ w hW _
      rcases List.mem_map.mp hW with ⟨y, hY, rfl⟩
      exact derived_of_mem_repacks hY
  have hViews := hFree.groupsOf_perm hPerm q
  rw [hSorted rs, hSorted other]
  apply List.Perm.eq_of_pairwise _
    (Grouping.stable_insertionSort (hStable rs))
    (Grouping.stable_insertionSort (hStable other))
    ((List.perm_insertionSort _ _).trans
      (hViews.trans (List.perm_insertionSort _ _).symm))
  intro v w hV hW hVW hWV
  rw [(List.perm_insertionSort _ _).mem_iff] at hV hW
  rcases List.mem_map.mp hV with ⟨x, hX, rfl⟩
  rcases List.mem_map.mp (hViews.mem_iff.mpr hW) with
    ⟨y, hY, rfl⟩
  apply hFree.groupView_eq hX hY (le_antisymm hVW.1 hWV.1)
  cases hKind : (groupView x).2.1 with
  | true => exact (hVW.2 hWV.1 hKind).symm
  | false =>
    cases hOther : (groupView y).2.1 with
    | false => rfl
    | true =>
      rw [hWV.2 hVW.1 hOther] at hKind
      cases hKind

--------
-- Events
--------

def movementsOn (rs : RecordSet) (q : String) :
    List PalletEvent :=
  (rs.shipments.filter (fun s => s.palletId = q)).map
      shippedEvent ++
    (rs.receipts.filter (fun r => r.palletId = q)).map
      receivedEvent

/- The events of a pallet in the order they were added. -/
def eventsOf (rs : RecordSet) (q : String) :
    List PalletEvent :=
  (statedOf rs q).map contentsEvent ++
    (repackOps rs).flatMap (repackEventsOn q) ++
      movementsOn rs q

/- The events of the model, sorted. -/
theorem events_buildCustody
    (rs : RecordSet)
    (q : String) :
    ((buildCustody rs).timelines.get q).events =
      (eventsOf rs q).insertionSort
        PalletTimeline.eventLe := by
  have hRaw : ((withMovements rs).get q).events =
      eventsOf rs q := by
    unfold withMovements movementSteps eventsOf movementsOn
    rw [DefaultTable.changeEach_append,
      DefaultTable.view_changeEach Receipt.palletId
        (fun r => addEvent (receivedEvent r))
        PalletTimeline.events receivedEvent (fun _ _ => rfl),
      DefaultTable.view_changeEach Shipment.palletId
        (fun s => addEvent (shippedEvent s))
        PalletTimeline.events shippedEvent (fun _ _ => rfl),
      List.append_assoc]
    unfold withRepacks
    rw [events_foldl, events_withContents]
  rw [← hRaw]
  rfl

/- The time of an event, its kind, and where a movement is. -/
def eventView (event : PalletEvent) :
    Int × EventKind × String :=
  (event.at_, event.kind,
    if event.kind = .shipped ∨ event.kind = .received then
      event.locationGln
    else
      "")

def repackEventViews
    (q : String)
    (view : String × Int × List String ×
      Multiset (String × LotsView)) :
    Multiset (Int × EventKind × String) :=
  ((view.2.2.1.filter (fun input => input = q)).map
      (fun _ => (view.2.1, EventKind.repackIn, "")) :
    List (Int × EventKind × String)) +
    (view.2.2.2.filter (fun output => output.1 = q)).map
      (fun _ => (view.2.1, EventKind.repackOut, ""))

theorem repackEventsOn_view
    (q : String)
    (op : RepackOp) :
    (((repackEventsOn q op).map eventView :
        List (Int × EventKind × String)) :
      Multiset (Int × EventKind × String)) =
      repackEventViews q (opView op) := by
  unfold repackEventsOn repackEventViews opView outputsView
  rw [List.map_append, List.map_map, List.map_map,
    ← Multiset.coe_add, Multiset.filter_coe, Multiset.map_coe,
    List.filter_map, List.map_map]
  rfl

/- The events of a pallet are the same up to order. -/
theorem OrderFree.eventsOf_perm
    {rs other : RecordSet}
    (hFree : OrderFree rs)
    (hPerm : Permuted rs other)
    (q : String) :
    ((eventsOf rs q).map eventView).Perm
      ((eventsOf other q).map eventView) := by
  have hContents : ∀ set : RecordSet,
      ((statedOf set q).map contentsEvent).map eventView =
        ((statedOf set q).map groupView).map (fun view =>
          (view.1, EventKind.contents, "")) := by
    intro set
    rw [List.map_map, List.map_map]
    rfl
  have hRepacks : ∀ set : RecordSet,
      ((((repackOps set).flatMap (repackEventsOn q)).map
          eventView : List (Int × EventKind × String)) :
        Multiset (Int × EventKind × String)) =
        (((repackOps set).map opView :
          List (String × Int × List String ×
            Multiset (String × LotsView))) :
          Multiset (String × Int × List String ×
            Multiset (String × LotsView))).bind
          (repackEventViews q) := by
    intro set
    induction repackOps set with
    | nil => rfl
    | cons op rest ih =>
      rw [List.flatMap_cons, List.map_append, List.map_cons,
        ← Multiset.cons_coe, Multiset.cons_bind, ← ih,
        ← repackEventsOn_view]
      rfl
  unfold eventsOf movementsOn
  simp only [List.map_append]
  refine List.Perm.append (List.Perm.append ?_ ?_)
    (List.Perm.append ?_ ?_)
  · rw [hContents rs, hContents other]
    exact (hFree.statedOf_perm hPerm q).map _
  · apply Multiset.coe_eq_coe.mp
    rw [hRepacks rs, hRepacks other,
      Multiset.coe_eq_coe.mpr (hFree.opViews_perm hPerm)]
  · exact ((hPerm.shipments.filter _).map _).map _
  · exact ((hPerm.receipts.filter _).map _).map _

/- The shipment of a shipped event. -/
theorem exists_shipment
    (hEvent : event ∈ eventsOf rs q)
    (hKind : event.kind = .shipped) :
    ∃ s ∈ rs.shipments, s.palletId = q ∧
      event = shippedEvent s := by
  rcases List.mem_append.mp hEvent with hEarly | hMoved
  · rcases List.mem_append.mp hEarly with hStated | hRepack
    · rcases List.mem_map.mp hStated with ⟨group, -, rfl⟩
      cases hKind
    · rcases List.mem_flatMap.mp hRepack with ⟨op, -, hOf⟩
      rcases List.mem_append.mp hOf with hIn | hOut
      · rcases List.mem_map.mp hIn with ⟨input, -, rfl⟩
        cases hKind
      · rcases List.mem_map.mp hOut with ⟨output, -, rfl⟩
        cases hKind
  · rcases List.mem_append.mp hMoved with hShipped | hReceived
    · rcases List.mem_map.mp hShipped with ⟨s, hS, rfl⟩
      rcases List.mem_filter.mp hS with ⟨hMem, hName⟩
      exact ⟨s, hMem, of_decide_eq_true hName, rfl⟩
    · rcases List.mem_map.mp hReceived with ⟨r, -, rfl⟩
      cases hKind

/- The receipt of a received event. -/
theorem exists_receipt
    (hEvent : event ∈ eventsOf rs q)
    (hKind : event.kind = .received) :
    ∃ r ∈ rs.receipts, r.palletId = q ∧
      event = receivedEvent r := by
  rcases List.mem_append.mp hEvent with hEarly | hMoved
  · rcases List.mem_append.mp hEarly with hStated | hRepack
    · rcases List.mem_map.mp hStated with ⟨group, -, rfl⟩
      cases hKind
    · rcases List.mem_flatMap.mp hRepack with ⟨op, -, hOf⟩
      rcases List.mem_append.mp hOf with hIn | hOut
      · rcases List.mem_map.mp hIn with ⟨input, -, rfl⟩
        cases hKind
      · rcases List.mem_map.mp hOut with ⟨output, -, rfl⟩
        cases hKind
  · rcases List.mem_append.mp hMoved with hShipped | hReceived
    · rcases List.mem_map.mp hShipped with ⟨s, -, rfl⟩
      cases hKind
    · rcases List.mem_map.mp hReceived with ⟨r, hR, rfl⟩
      rcases List.mem_filter.mp hR with ⟨hMem, hName⟩
      exact ⟨r, hMem, of_decide_eq_true hName, rfl⟩

/- Events of one time and kind have one view. -/
theorem OrderFree.eventView_eq
    (hFree : OrderFree rs)
    {x y : PalletEvent}
    (hX : x ∈ eventsOf rs q)
    (hY : y ∈ eventsOf rs q)
    (hTime : x.at_ = y.at_)
    (hKind : x.kind = y.kind) :
    eventView x = eventView y := by
  unfold eventView
  rw [hTime, hKind]
  cases hIs : y.kind with
  | shipped =>
    rcases exists_shipment hX (hKind.trans hIs) with
      ⟨s, hS, hSName, rfl⟩
    rcases exists_shipment hY hIs with ⟨t, hT, hTName, rfl⟩
    have hGln := hFree.shipments s hS t hT
      (hSName.trans hTName.symm) hTime
    change (_, _, s.fromGln) = (_, _, t.fromGln)
    rw [hGln]
  | received =>
    rcases exists_receipt hX (hKind.trans hIs) with
      ⟨s, hS, hSName, rfl⟩
    rcases exists_receipt hY hIs with ⟨t, hT, hTName, rfl⟩
    have hGln := hFree.receipts s hS t hT
      (hSName.trans hTName.symm) hTime
    change (_, _, s.locationGln) = (_, _, t.locationGln)
    rw [hGln]
  | contents => rfl
  | repackOut => rfl
  | repackIn => rfl

/- The order of events, on their views. -/
def viewLe (v w : Int × EventKind × String) : Prop :=
  v.1 < w.1 ∨ (v.1 = w.1 ∧ v.2.1.order ≤ w.2.1.order)

instance : DecidableRel viewLe := by
  intro v w
  unfold viewLe
  infer_instance

theorem EventKind.order_injective :
    Function.Injective EventKind.order := by
  intro x y hSame
  cases x <;> cases y <;> first | rfl | cases hSame

/- The events of a pallet stand in one order of views. -/
theorem OrderFree.eventViews_eq
    {rs other : RecordSet}
    (hFree : OrderFree rs)
    (hPerm : Permuted rs other)
    (q : String) :
    ((buildCustody rs).timelines.get q).events.map eventView =
      ((buildCustody other).timelines.get q).events.map
        eventView := by
  have hTotal : Std.Total viewLe := by
    constructor
    intro v w
    unfold viewLe
    omega
  have hTrans : IsTrans (Int × EventKind × String) viewLe := by
    constructor
    intro u v w hUV hVW
    unfold viewLe at hUV hVW ⊢
    omega
  have hSorted : ∀ set : RecordSet,
      ((buildCustody set).timelines.get q).events.map
          eventView =
        ((eventsOf set q).map eventView).insertionSort
          viewLe := by
    intro set
    rw [events_buildCustody]
    exact List.map_insertionSort _ _ _ _
      (fun _ _ _ _ => Iff.rfl)
  have hViews := hFree.eventsOf_perm hPerm q
  rw [hSorted rs, hSorted other]
  apply List.Perm.eq_of_pairwise _
    (List.pairwise_insertionSort viewLe _)
    (List.pairwise_insertionSort viewLe _)
    ((List.perm_insertionSort _ _).trans
      (hViews.trans (List.perm_insertionSort _ _).symm))
  intro v w hV hW hVW hWV
  rw [(List.perm_insertionSort _ _).mem_iff] at hV hW
  rcases List.mem_map.mp hV with ⟨x, hX, rfl⟩
  rcases List.mem_map.mp (hViews.mem_iff.mpr hW) with
    ⟨y, hY, rfl⟩
  have hBoth : x.at_ = y.at_ ∧
      x.kind.order = y.kind.order := by
    unfold viewLe eventView at hVW hWV
    dsimp only at hVW hWV
    omega
  exact hFree.eventView_eq hX hY hBoth.1
    (EventKind.order_injective hBoth.2)

end RecallReconstruction

end RegEngine
