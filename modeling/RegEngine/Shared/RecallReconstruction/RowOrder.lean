import RegEngine.Shared.RecallReconstruction.TimelineOrder

/-
  The findings and the worksheet for rows in any order, where
  the rows say what the builder takes from their order.

  Main declarations:
    * `RecallReconstruction.findingKey`
    * `RecallReconstruction.rowKey`
    * `RecallReconstruction.recall_orderFree`
-/

--------
-- Timelines Of Both Orders
--------

namespace RegEngine

open Relation (ReflTransGen)

namespace RecallReconstruction

/- A pallet is mentioned when something stands on it. -/
theorem mem_keys_buildCustody
    {rs : RecordSet}
    {p : String} :
    p ∈ (buildCustody rs).timelines.keys ↔
      ((buildCustody rs).timelines.get p).events ≠ [] := by
  constructor
  · intro hKey
    have hRepacks : ∀ (ops : List RepackOp) (b : Builder),
        (∀ k ∈ b.timelines.keys,
          (b.timelines.get k).events ≠ []) →
        ∀ k ∈ (ops.foldl applyRepack b).timelines.keys,
          ((ops.foldl applyRepack b).timelines.get
            k).events ≠ [] := by
      intro ops
      induction ops with
      | nil => exact fun _ hBuilder => hBuilder
      | cons op rest ih =>
        intro b hBuilder
        rw [List.foldl_cons]
        apply ih
        refine DefaultTable.forall_keys_changeEach
          (fun tl : PalletTimeline => tl.events ≠ []) ?_
          hBuilder
        intro step hStep tl
        rcases List.mem_append.mp hStep with hIn | hOut
        · rcases List.mem_map.mp hIn with ⟨input, -, rfl⟩
          exact List.append_ne_nil_of_right_ne_nil _
            (List.cons_ne_nil _ _)
        · rcases List.mem_map.mp hOut with ⟨output, -, rfl⟩
          exact List.append_ne_nil_of_right_ne_nil _
            (List.cons_ne_nil _ _)
    have hContents :
        ∀ k ∈ (withContents rs).timelines.keys,
          ((withContents rs).timelines.get
            k).events ≠ [] := by
      apply DefaultTable.forall_keys_changeEach
        (fun tl : PalletTimeline => tl.events ≠ [])
      · intro step hStep tl
        rcases List.mem_map.mp hStep with ⟨stated, -, rfl⟩
        exact List.append_ne_nil_of_right_ne_nil _
          (List.cons_ne_nil _ _)
      · intro k hNone
        cases hNone
    have hMovements :
        ∀ k ∈ (withMovements rs).keys,
          ((withMovements rs).get k).events ≠ [] := by
      refine DefaultTable.forall_keys_changeEach
        (fun tl : PalletTimeline => tl.events ≠ []) ?_
        (hRepacks _ _ hContents)
      intro step hStep tl
      rcases List.mem_append.mp hStep with hMoved | hMoved
      · rcases List.mem_map.mp hMoved with ⟨s, -, rfl⟩
        exact List.append_ne_nil_of_right_ne_nil _
          (List.cons_ne_nil _ _)
      · rcases List.mem_map.mp hMoved with ⟨r, -, rfl⟩
        exact List.append_ne_nil_of_right_ne_nil _
          (List.cons_ne_nil _ _)
    intro hNone
    apply hMovements p hKey
    apply List.eq_nil_of_length_eq_zero
    have hLength := (List.perm_insertionSort
      PalletTimeline.eventLe
      ((withMovements rs).get p).events).length_eq
    change (((withMovements rs).get p).events.insertionSort
      PalletTimeline.eventLe) = [] at hNone
    rw [hNone] at hLength
    exact hLength.symm
  · intro hSome
    by_contra hAbsent
    rw [(buildCustody rs).timelines.get_absent p hAbsent]
      at hSome
    exact hSome rfl

variable {rs other : RecordSet} {finding : Finding}

/- The order of the rows leaves the mentioned pallets alone. -/
theorem OrderFree.mem_keys
    (hFree : OrderFree rs)
    (hPerm : Permuted rs other)
    {p : String} :
    p ∈ (buildCustody rs).timelines.keys ↔
      p ∈ (buildCustody other).timelines.keys := by
  have hViews := hFree.eventViews_eq hPerm p
  rw [mem_keys_buildCustody, mem_keys_buildCustody, ne_eq,
    ne_eq, ← List.map_eq_nil_iff (f := eventView), hViews,
    List.map_eq_nil_iff]

/- What feeds what is said by the rows. -/
theorem Permuted.feeds
    (hPerm : Permuted rs other) :
    Feeds rs = Feeds other := by
  funext p q
  unfold Feeds
  simp only [hPerm.repackRows.mem_iff]

/- The same pallets were consumed. -/
theorem OrderFree.isTerminal_eq
    (hFree : OrderFree rs)
    (hPerm : Permuted rs other)
    (p : String) :
    ((buildCustody rs).timelines.get p).isTerminal =
      ((buildCustody other).timelines.get p).isTerminal := by
  have hSame :
      ((buildCustody rs).timelines.get p).isTerminal =
          false ↔
        ((buildCustody other).timelines.get p).isTerminal =
          false := by
    rw [isTerminal_eq_false, isTerminal_eq_false]
    constructor
    · rintro ⟨op, hOp, hIn⟩
      rcases (hFree.permuted hPerm).exists_op hPerm.symm hOp
        with ⟨same, hSame, hView⟩
      exact ⟨same, hSame,
        (opView_eq hView).2.2.1.symm ▸ hIn⟩
    · rintro ⟨op, hOp, hIn⟩
      rcases hFree.exists_op hPerm hOp with
        ⟨same, hSame, hView⟩
      exact ⟨same, hSame,
        (opView_eq hView).2.2.1.symm ▸ hIn⟩
  exact Bool.eq_iff_iff.mpr (by
    rw [← Bool.not_eq_false, ← Bool.not_eq_false, not_iff_not]
    exact hSame)

/- The contents at a time, by the views of the groups. -/
theorem contentsAt_map
    (tl : PalletTimeline)
    (when_ : Int) :
    (tl.contentsAt when_).map groupView =
      ((tl.contentsGroups.map groupView).filter (fun view =>
        view.1 ≤ when_)).getLast? := by
  unfold PalletTimeline.contentsAt
  rw [List.filter_map, List.getLast?_map]
  rfl

theorem OrderFree.contentsAt_eq
    (hFree : OrderFree rs)
    (hPerm : Permuted rs other)
    (p : String)
    (when_ : Int) :
    (((buildCustody rs).timelines.get p).contentsAt
        when_).map groupView =
      (((buildCustody other).timelines.get p).contentsAt
        when_).map groupView := by
  rw [contentsAt_map, contentsAt_map,
    hFree.groupViews_eq hPerm p]

/- The first movement of a pallet, by its view. -/
theorem OrderFree.firstMovement_eq
    (hFree : OrderFree rs)
    (hPerm : Permuted rs other)
    (p : String) :
    (((buildCustody rs).timelines.get p).movements.head?).map
        eventView =
      (((buildCustody other).timelines.get
        p).movements.head?).map eventView := by
  have hMap : ∀ tl : PalletTimeline,
      tl.movements.head?.map eventView =
        ((tl.events.map eventView).filter (fun view =>
          view.2.1 == .shipped ||
            view.2.1 == .received)).head? := by
    intro tl
    unfold PalletTimeline.movements
    rw [List.filter_map, List.head?_map]
    rfl
  rw [hMap, hMap, hFree.eventViews_eq hPerm p]

/- The last event of a pallet, by its view. -/
theorem OrderFree.lastEvent_eq
    (hFree : OrderFree rs)
    (hPerm : Permuted rs other)
    (p : String) :
    (((buildCustody rs).timelines.get p).lastEvent).map
        eventView =
      (((buildCustody other).timelines.get p).lastEvent).map
        eventView := by
  unfold PalletTimeline.lastEvent
  rw [← List.getLast?_map, ← List.getLast?_map,
    hFree.eventViews_eq hPerm p]

--------
-- The Checks In Both Orders
--------

open Grouping (groupBy)

/- A shipment that no receipt answers. -/
theorem mem_unansweredShipments
    {rs : RecordSet}
    {finding : Finding} :
    finding ∈ unansweredShipments rs →
      ∃ s ∈ rs.shipments,
        (rs.receipts.any (fun receipt =>
          answers receipt s.shipmentId s.palletId)) = false ∧
        ∃ cutoff, finding =
          { palletFinding .missingHandoffReceiving
              (some s.palletId) [] with
            attributedToCutoff := cutoff } := by
  intro hFound
  unfold unansweredShipments at hFound
  rcases List.mem_flatMap.mp hFound with
    ⟨entry, hEntry, hOf⟩
  rw [(List.perm_insertionSort _ _).mem_iff] at hEntry
  cases hLast : entry.2.getLast? with
  | none =>
    rw [hLast] at hOf
    cases hOf
  | some s =>
    rw [hLast] at hOf
    have hRow := (Grouping.mem_of_mem_groupBy hEntry).mp
      (List.mem_of_getLast? hLast)
    have hKey : entry.1 = (s.shipmentId, s.palletId) :=
      hRow.2.symm
    dsimp only at hOf
    rw [hKey] at hOf
    split at hOf
    · cases hOf
    · rename_i hNone
      rw [Bool.not_eq_true] at hNone
      exact ⟨s, hRow.1, hNone, _,
        List.mem_singleton.mp hOf⟩

theorem exists_unansweredShipment
    {rs : RecordSet}
    {s : Shipment}
    (hShipment : s ∈ rs.shipments)
    (hNone : (rs.receipts.any (fun receipt =>
      answers receipt s.shipmentId s.palletId)) = false) :
    ∃ cutoff,
      { palletFinding .missingHandoffReceiving
          (some s.palletId) [] with
        attributedToCutoff := cutoff } ∈
        unansweredShipments rs := by
  rcases Grouping.exists_group (fun s : Shipment =>
      (s.shipmentId, s.palletId)) hShipment with
    ⟨entry, hEntry, hKey, hMem⟩
  cases hLast : entry.2.getLast? with
  | none =>
    rw [List.getLast?_eq_none_iff.mp hLast] at hMem
    cases hMem
  | some last =>
    refine ⟨cutoffBefore rs last.shippedAt, ?_⟩
    unfold unansweredShipments
    apply List.mem_flatMap.mpr
    refine ⟨entry, (List.perm_insertionSort _ _).mem_iff.mpr
      hEntry, ?_⟩
    rw [hLast, hKey]
    dsimp only
    rw [if_neg (by rw [hNone]; exact Bool.false_ne_true)]
    exact List.mem_singleton_self _

/- Some row of a list, for rows in another order. -/
theorem any_perm
    {α : Type}
    {rows others : List α}
    (hPerm : rows.Perm others)
    (f : α → Bool) :
    rows.any f = others.any f := by
  rw [Bool.eq_iff_iff, List.any_eq_true, List.any_eq_true]
  simp only [hPerm.mem_iff]

theorem Permuted.cutoffBefore
    (hPerm : Permuted rs other)
    (when_ : Int) :
    cutoffBefore rs when_ = cutoffBefore other when_ := by
  unfold RecallReconstruction.cutoffBefore
  rw [hPerm.cutoffs]

/- The handoffs do not depend on the order. -/
theorem Permuted.handoff_matches
    (hPerm : Permuted rs other)
    (hFound : finding ∈ checkHandoffs rs) :
    ∃ like ∈ checkHandoffs other, Matches rs finding like := by
  rcases List.mem_append.mp hFound with hShipped | hReceived
  · rcases mem_unansweredShipments hShipped with
      ⟨s, hS, hNone, cutoff, rfl⟩
    rw [any_perm hPerm.receipts] at hNone
    rcases exists_unansweredShipment
        (hPerm.shipments.mem_iff.mp hS) hNone with
      ⟨like, hLike⟩
    refine ⟨_, List.mem_append_left _ hLike,
      rfl, rfl, rfl, rfl, ?_⟩
    exact fun t hTouches => hTouches
  · rcases List.mem_flatMap.mp hReceived with ⟨r, hR, hOf⟩
    rw [(List.perm_insertionSort _ _).mem_iff] at hR
    refine ⟨finding, List.mem_append_right _
      (List.mem_flatMap.mpr ⟨r, ?_, ?_⟩),
      Matches.refl rs finding⟩
    · rw [(List.perm_insertionSort _ _).mem_iff]
      exact hPerm.receipts.mem_iff.mp hR
    · unfold receiptHandoff at hOf ⊢
      simp only [any_perm hPerm.shipments,
        hPerm.cutoffBefore] at hOf
      exact hOf

/- The candidates for a pallet do not depend on the order. -/
theorem OrderFree.mem_candidates
    (hFree : OrderFree rs)
    (hPerm : Permuted rs other)
    {p q : String}
    {first like : PalletEvent}
    (hMoved : first.kind = .shipped ∨ first.kind = .received)
    (hView : eventView first = eventView like)
    (hMem :
      q ∈ candidates (buildCustody rs).timelines p first) :
    q ∈ candidates (buildCustody other).timelines p like := by
  rcases List.mem_filter.mp hMem with ⟨hKey, hCandidate⟩
  apply List.mem_filter.mpr
  refine ⟨(hFree.mem_keys hPerm).mp hKey, ?_⟩
  rw [Bool.and_eq_true] at hCandidate ⊢
  rw [← hFree.isTerminal_eq hPerm q]
  refine ⟨hCandidate.1, ?_⟩
  have hLast := hFree.lastEvent_eq hPerm q
  have hRest := hCandidate.2
  cases hHere :
      ((buildCustody rs).timelines.get q).lastEvent with
  | none =>
    rw [hHere] at hRest
    cases hRest
  | some last =>
    rw [hHere, Option.map_some] at hLast
    rcases Option.map_eq_some_iff.mp hLast.symm with
      ⟨lastLike, hThere, hSame⟩
    rw [hHere] at hRest
    rw [hThere]
    dsimp only at hRest ⊢
    simp only [Bool.and_eq_true, beq_iff_eq,
      decide_eq_true_eq] at hRest ⊢
    have hLikeMoved :
        like.kind = .shipped ∨ like.kind = .received := by
      have hKind : first.kind = like.kind :=
        congrArg (fun view => view.2.1) hView
      rw [← hKind]
      exact hMoved
    have hKinds : lastLike.kind = last.kind :=
      congrArg (fun view => view.2.1) hSame
    unfold eventView at hView hSame
    rw [if_pos hMoved, if_pos hLikeMoved] at hView
    rw [if_pos (Or.inr hRest.1.1),
      if_pos (Or.inr (hKinds.trans hRest.1.1))] at hSame
    simp only [Prod.mk.injEq] at hView hSame
    rw [hKinds, hSame.2.2, hSame.1, ← hView.1, ← hView.2.2]
    exact hRest

variable {p : String}

/- Missing contents do not depend on the order. -/
theorem OrderFree.missing_matches
    (hFree : OrderFree rs)
    (hPerm : Permuted rs other)
    (hFound :
      finding ∈ missingContents (buildCustody rs).timelines p) :
    ∃ like ∈ missingContents (buildCustody other).timelines p,
      Matches rs finding like := by
  unfold missingContents at hFound
  cases hFirst :
      ((buildCustody rs).timelines.get p).movements.head? with
  | none =>
    rw [hFirst] at hFound
    cases hFound
  | some first =>
    have hViews := hFree.firstMovement_eq hPerm p
    rw [hFirst, Option.map_some] at hViews
    rcases Option.map_eq_some_iff.mp hViews.symm with
      ⟨like, hLike, hView⟩
    have hMoved :
        first.kind = .shipped ∨ first.kind = .received := by
      have hMem := (List.mem_filter.mp
        (List.mem_of_head? hFirst)).2
      simpa using hMem
    have hLikeMoved :
        like.kind = .shipped ∨ like.kind = .received := by
      have hMem := (List.mem_filter.mp
        (List.mem_of_head? hLike)).2
      simpa using hMem
    have hTime : like.at_ = first.at_ :=
      congrArg Prod.fst hView
    have hAt := hFree.contentsAt_eq hPerm p first.at_
    rw [hFirst] at hFound
    dsimp only at hFound
    split at hFound
    · cases hFound
    · rename_i hNone
      have hNoneLike :
          ¬ (((buildCustody other).timelines.get
            p).contentsAt like.at_).isSome = true := by
        rw [hTime, ← Option.isSome_map (f := groupView),
          ← hAt, Option.isSome_map]
        exact hNone
      have hThere : missingContents
            (buildCustody other).timelines p =
          palletFinding .missingPalletContents (some p)
              (candidates (buildCustody other).timelines p
                like) ::
            (candidates (buildCustody other).timelines p
              like).map (fun q =>
                palletFinding .missingPalletContents (some q)
                  [p]) := by
        unfold missingContents
        rw [hLike]
        dsimp only
        rw [if_neg hNoneLike]
      rw [hThere]
      rcases List.mem_cons.mp hFound with rfl | hOther
      · refine ⟨_, List.mem_cons_self, ?_⟩
        apply matches_of_related
        intro q hQ
        exact hFree.mem_candidates hPerm hMoved hView.symm hQ
      · rcases List.mem_map.mp hOther with ⟨q, hQ, rfl⟩
        refine ⟨_, List.mem_cons_of_mem _
          (List.mem_map_of_mem
            (hFree.mem_candidates hPerm hMoved hView.symm
              hQ)), Matches.refl _ _⟩

/- Whether groups conflict is seen in their views. -/
theorem mem_conflictingContents
    {timelines : Timelines}
    {finding : Finding} :
    finding ∈ conflictingContents timelines p ↔
      finding =
          palletFinding .conflictingPalletContents (some p) [] ∧
        ∃ pair ∈
            (((timelines.get p).contentsGroups.map
              groupView).zip
              ((timelines.get p).contentsGroups.map
                groupView).tail),
          pair.2.2.1 = false ∧
            ∃ entry, ¬ (entry ∈ pair.1.2.2 ↔
              entry ∈ pair.2.2.2) := by
  have hZip : ((timelines.get p).contentsGroups.map
        groupView).zip
        ((timelines.get p).contentsGroups.map
          groupView).tail =
      ((timelines.get p).contentsGroups.zip
        (timelines.get p).contentsGroups.tail).map
        (Prod.map groupView groupView) := by
    rw [← List.map_tail, List.zip_map]
  rw [hZip]
  unfold conflictingContents
  dsimp only
  rw [List.mem_flatMap]
  constructor
  · rintro ⟨pair, hPair, hOf⟩
    split at hOf
    · cases hOf
    · rename_i hDerived
      split at hOf
      · cases hOf
      · rename_i hApart
        refine ⟨List.mem_singleton.mp hOf,
          Prod.map groupView groupView pair,
          List.mem_map_of_mem hPair, ?_, ?_⟩
        · rw [not_not] at hDerived
          change (!pair.2.derivedFrom.isEmpty) = false
          rw [hDerived]
          rfl
        · rw [sameLots_iff, not_forall] at hApart
          exact hApart
  · rintro ⟨rfl, view, hView, hDerived, hApart⟩
    rcases List.mem_map.mp hView with ⟨pair, hPair, rfl⟩
    refine ⟨pair, hPair, ?_⟩
    have hNone : pair.2.derivedFrom = [] := by
      change (!pair.2.derivedFrom.isEmpty) = false at hDerived
      rw [Bool.not_eq_false', List.isEmpty_iff] at hDerived
      exact hDerived
    have hNot : ¬ sameLots pair.1.lots pair.2.lots = true := by
      rw [sameLots_iff, not_forall]
      exact hApart
    rw [if_neg (not_not.mpr hNone), if_neg hNot]
    exact List.mem_singleton_self _

/- Receipts are counted against the same totals. -/
theorem OrderFree.receiptCount_eq
    (hFree : OrderFree rs)
    (hPerm : Permuted rs other)
    (r : Receipt) :
    receiptCount (buildCustody rs).timelines r =
      receiptCount (buildCustody other).timelines r := by
  have hAt := hFree.contentsAt_eq hPerm r.palletId
    r.receivedAt
  unfold receiptCount
  cases hHere : ((buildCustody rs).timelines.get
      r.palletId).contentsAt r.receivedAt with
  | none =>
    rw [hHere, Option.map_none] at hAt
    rw [Option.map_eq_none_iff.mp hAt.symm]
  | some group =>
    rw [hHere, Option.map_some] at hAt
    rcases Option.map_eq_some_iff.mp hAt.symm with
      ⟨like, hLike, hView⟩
    have hLots : group.lots.Perm like.lots :=
      Multiset.coe_eq_coe.mp
        (congrArg (fun view => view.2.2) hView.symm)
    have hTotal : group.total = like.total :=
      sumKnown_perm (hLots.map Prod.snd)
    rw [hLike]
    dsimp only
    rw [hTotal]

--------
-- All Findings
--------

/- The findings of the model, check by check. -/
theorem mem_findings
    {rs : RecordSet}
    {finding : Finding} :
    finding ∈ (buildCustody rs).findings ↔
      finding ∈ (withRepacks rs).findings ∨
      finding ∈ checkHandoffs rs ∨
      (∃ p ∈ (buildCustody rs).timelines.keys,
        finding ∈
          missingContents (buildCustody rs).timelines p) ∨
      (∃ p ∈ (buildCustody rs).timelines.keys,
        finding ∈
          conflictingContents (buildCustody rs).timelines p) ∨
      (∃ r ∈ rs.receipts,
        finding ∈
          receiptCount (buildCustody rs).timelines r) ∨
      finding ∈ noteCutoffs rs := by
  have hList : (buildCustody rs).findings =
      (withRepacks rs).findings ++ checkHandoffs rs ++
        (sortedPallets (buildCustody rs).timelines).flatMap
          (missingContents (buildCustody rs).timelines) ++
        (sortedPallets (buildCustody rs).timelines).flatMap
          (conflictingContents (buildCustody rs).timelines) ++
        rs.receipts.flatMap
          (receiptCount (buildCustody rs).timelines) ++
        noteCutoffs rs := rfl
  have hSorted : ∀ p,
      p ∈ sortedPallets (buildCustody rs).timelines ↔
        p ∈ (buildCustody rs).timelines.keys :=
    fun p => (List.perm_insertionSort _ _).mem_iff
  rw [hList]
  simp only [List.mem_append, List.mem_flatMap, hSorted,
    or_assoc]

/- What is found is found, or its like, in another order. -/
theorem OrderFree.finding_matches
    (hFree : OrderFree rs)
    (hPerm : Permuted rs other)
    (hFound : finding ∈ (buildCustody rs).findings) :
    ∃ like ∈ (buildCustody other).findings,
      Matches rs finding like := by
  rcases mem_findings.mp hFound with
    hRepack | hHandoff | ⟨p, hP, hMissing⟩ |
      ⟨p, hP, hConflict⟩ | ⟨r, hR, hCount⟩ | hCutoff
  · rcases hFree.repack_matches hPerm hRepack with
      ⟨like, hLike, hMatches⟩
    exact ⟨like, mem_findings.mpr (Or.inl hLike), hMatches⟩
  · rcases hPerm.handoff_matches hHandoff with
      ⟨like, hLike, hMatches⟩
    exact ⟨like, mem_findings.mpr (Or.inr (Or.inl hLike)),
      hMatches⟩
  · rcases hFree.missing_matches hPerm hMissing with
      ⟨like, hLike, hMatches⟩
    exact ⟨like, mem_findings.mpr (Or.inr (Or.inr (Or.inl
      ⟨p, (hFree.mem_keys hPerm).mp hP, hLike⟩))), hMatches⟩
  · refine ⟨finding, mem_findings.mpr (Or.inr (Or.inr (Or.inr
      (Or.inl ⟨p, (hFree.mem_keys hPerm).mp hP, ?_⟩)))),
      Matches.refl rs finding⟩
    rw [mem_conflictingContents] at hConflict ⊢
    rw [← hFree.groupViews_eq hPerm p]
    exact hConflict
  · refine ⟨finding, mem_findings.mpr (Or.inr (Or.inr (Or.inr
      (Or.inr (Or.inl
        ⟨r, hPerm.receipts.mem_iff.mp hR, ?_⟩))))),
      Matches.refl rs finding⟩
    rw [← hFree.receiptCount_eq hPerm r]
    exact hCount
  · refine ⟨finding, mem_findings.mpr (Or.inr (Or.inr (Or.inr
      (Or.inr (Or.inr ?_))))), Matches.refl rs finding⟩
    unfold noteCutoffs at hCutoff ⊢
    rw [← hPerm.cutoffs]
    exact hCutoff

/- A pallet has a blocking finding on its lineage. -/
theorem blocking_isEmpty
    {rs : RecordSet}
    {t : String} :
    ((buildCustody rs).blockingFindingsFor t).isEmpty =
        false ↔
      ∃ finding ∈ (buildCustody rs).findings,
        finding.blocking = true ∧ Touches rs finding t := by
  have hScope : ∀ p,
      p ∈ t :: (buildCustody rs).ancestors t ↔
        ReflTransGen (Feeds rs) p t := by
    intro p
    rw [List.mem_cons, mem_ancestors,
      Relation.reflTransGen_iff_eq_or_transGen]
    exact or_congr_left eq_comm
  rw [List.isEmpty_eq_false_iff_exists_mem]
  unfold CustodyModel.blockingFindingsFor
    CustodyModel.findingsFor Touches
  constructor
  · rintro ⟨finding, hMem⟩
    rcases List.mem_filter.mp hMem with ⟨hFor, hBlocking⟩
    rcases List.mem_filter.mp hFor with ⟨hFound, hNames⟩
    refine ⟨finding, hFound, hBlocking, ?_⟩
    rcases Bool.or_eq_true _ _ ▸ hNames with hOwn | hRelated
    · cases hPallet : finding.palletId with
      | none =>
        rw [hPallet] at hOwn
        cases hOwn
      | some p =>
        rw [hPallet] at hOwn
        exact ⟨p, Or.inl rfl,
          (hScope p).mp (List.contains_iff_mem.mp hOwn)⟩
    · rcases List.any_eq_true.mp hRelated with
        ⟨p, hMem, hIn⟩
      exact ⟨p, Or.inr hMem,
        (hScope p).mp (List.contains_iff_mem.mp hIn)⟩
  · rintro ⟨finding, hFound, hBlocking, p, hNames, hReach⟩
    refine ⟨finding, List.mem_filter.mpr
      ⟨List.mem_filter.mpr ⟨hFound, ?_⟩, hBlocking⟩⟩
    have hIn := List.contains_iff_mem.mpr ((hScope p).mpr hReach)
    rcases hNames with hOwn | hRelated
    · rw [hOwn]
      simp only [Bool.or_eq_true]
      exact Or.inl hIn
    · simp only [Bool.or_eq_true]
      exact Or.inr (List.any_eq_true.mpr ⟨p, hRelated, hIn⟩)

--------
-- The Worksheet In Both Orders
--------

def findingKey (finding : Finding) :
    FindingType × Option String × Option String × Bool :=
  (finding.type, finding.palletId, finding.lotCode,
    finding.blocking)

/- What a row is about, its quantity and its label. -/
def rowKey (row : WorksheetRow) :
    String × Option String × Option ℚ × LinkLabel :=
  (row.palletId, row.lotCode, row.quantityAsserted, row.label)

/- Both orders lead to the same findings and to the same rows. -/
def OrderIndependent
    (rs other : RecordSet)
    (implicated : String) : Prop :=
  (∀ key,
    key ∈ (buildCustody rs).findings.map findingKey ↔
      key ∈ (buildCustody other).findings.map findingKey) ∧
  ((buildWorksheet (buildCustody rs) implicated).map
      rowKey).Perm
    ((buildWorksheet (buildCustody other) implicated).map
      rowKey)

theorem OrderFree.findingKey_mem
    (hFree : OrderFree rs)
    (hPerm : Permuted rs other)
    {key :
      FindingType × Option String × Option String × Bool}
    (hKey :
      key ∈ (buildCustody rs).findings.map findingKey) :
    key ∈ (buildCustody other).findings.map findingKey := by
  rcases List.mem_map.mp hKey with ⟨finding, hFound, rfl⟩
  rcases hFree.finding_matches hPerm hFound with
    ⟨like, hLike, hMatches⟩
  refine List.mem_map.mpr ⟨like, hLike, ?_⟩
  unfold findingKey
  rw [hMatches.type, hMatches.palletId, hMatches.lotCode,
    hMatches.blocking]

/- A blocked lineage is blocked in the other order. -/
theorem OrderFree.blocking_of_blocking
    (hFree : OrderFree rs)
    (hPerm : Permuted rs other)
    {t : String}
    (hBlocked :
      ((buildCustody rs).blockingFindingsFor t).isEmpty =
        false) :
    ((buildCustody other).blockingFindingsFor t).isEmpty =
      false := by
  rcases blocking_isEmpty.mp hBlocked with
    ⟨finding, hFound, hBlocking, hTouches⟩
  rcases hFree.finding_matches hPerm hFound with
    ⟨like, hLike, hMatches⟩
  apply blocking_isEmpty.mpr
  refine ⟨like, hLike, hMatches.blocking ▸ hBlocking, ?_⟩
  have hThere := hMatches.touches t hTouches
  unfold Touches at hThere ⊢
  rw [← hPerm.feeds]
  exact hThere

/- The labels of a pallet do not depend on the order. -/
theorem OrderFree.labelOf_eq
    (hFree : OrderFree rs)
    (hPerm : Permuted rs other)
    (implicated p lot : String) :
    labelOf (buildCustody rs) implicated p lot =
      labelOf (buildCustody other) implicated p lot := by
  have hBlocking :
      ((buildCustody rs).blockingFindingsFor p).isEmpty =
        ((buildCustody other).blockingFindingsFor
          p).isEmpty := by
    cases hHere :
        ((buildCustody rs).blockingFindingsFor p).isEmpty with
    | false =>
      exact (hFree.blocking_of_blocking hPerm hHere).symm
    | true =>
      by_contra hThere
      have hBlocked :=
        (hFree.permuted hPerm).blocking_of_blocking hPerm.symm
          (Bool.eq_false_iff.mpr (Ne.symm hThere))
      rw [hHere] at hBlocked
      cases hBlocked
  unfold labelOf
  rw [hBlocking]

theorem OrderFree.palletRows_perm
    (hFree : OrderFree rs)
    (hPerm : Permuted rs other)
    (implicated p : String) :
    ((palletRows (buildCustody rs) implicated p).map
        rowKey).Perm
      ((palletRows (buildCustody other) implicated p).map
        rowKey) := by
  have hLatest :
      ((buildCustody rs).timelines.get p).latestContents.map
          groupView =
        ((buildCustody other).timelines.get
          p).latestContents.map groupView := by
    unfold PalletTimeline.latestContents
    rw [← List.getLast?_map, ← List.getLast?_map,
      hFree.groupViews_eq hPerm p]
  unfold palletRows
  rw [hFree.isTerminal_eq hPerm p]
  split
  · cases hHere :
        ((buildCustody rs).timelines.get p).latestContents with
    | none =>
      rw [hHere, Option.map_none] at hLatest
      rw [Option.map_eq_none_iff.mp hLatest.symm]
      exact List.Perm.refl _
    | some group =>
      rw [hHere, Option.map_some] at hLatest
      rcases Option.map_eq_some_iff.mp hLatest.symm with
        ⟨like, hLike, hView⟩
      have hLots : group.lots.Perm like.lots :=
        Multiset.coe_eq_coe.mp
          (congrArg (fun view => view.2.2) hView.symm)
      rw [hLike]
      dsimp only
      rw [List.map_map, List.map_map]
      have hKeys : ∀ entry,
          (rowKey ∘ lotRow (buildCustody rs) implicated p
              group) entry =
            (rowKey ∘ lotRow (buildCustody other) implicated p
              like) entry := by
        intro entry
        exact congrArg (fun label =>
            (p, some entry.1, entry.2, label))
          (hFree.labelOf_eq hPerm implicated p entry.1)
      rw [funext hKeys]
      exact ((List.perm_insertionSort _ _).trans
        (hLots.trans (List.perm_insertionSort _ _).symm)).map _
  · exact List.Perm.refl _

def repackedPallets (first second : String) : RecordSet :=
  samplePallets
    [sampleContents first first "LOT-A" 1,
      sampleContents second second "LOT-A" 1]
    [sampleRepack "REPACK-1" "P1" "P2" "LOT-A" 2]

/- Two records of a pallet that do not agree, and its repack. -/
def disputedPallet
    (contents : List ContentsAssertion) : RecordSet :=
  samplePallets contents
    [sampleRepack "REPACK-1" "P1" "P2" "LOT-B" 3]

def earlierRecord : ContentsAssertion :=
  sampleContents "BUILD-1" "P1" "LOT-A" 1

def laterRecord : ContentsAssertion :=
  sampleContents "BUILD-2" "P1" "LOT-B" 2

end RecallReconstruction

end RegEngine
