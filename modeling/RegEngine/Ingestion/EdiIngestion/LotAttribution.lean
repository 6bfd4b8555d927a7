import Mathlib.Data.List.Forall2
import RegEngine.Ingestion.EdiIngestion.Items
import RegEngine.Library.Machine

/-
  The lots of the item lines, and the items that gave them. A
  sender writes its items one after the other, each around one
  quantity segment; the extractor tells them apart by a LIN
  that follows a line which already has a product or a lot.

  Main declarations:
    * `EdiIngestion.ItemGroup`
    * `EdiIngestion.Document`
    * `EdiIngestion.lotsOwn_iff_keptApart`
-/

--------
-- Lots of Segments
--------

namespace RegEngine

namespace EdiIngestion

/- The lots among the pairs of a segment. -/
def pairLots (segment : Segment) (start : Nat) :
    List NonemptyText :=
  (idPairs (segment.drop start)).filterMap (fun pair =>
    if pair.1 = "LT" then pair.2 else none)

/- The lots that a segment gives. -/
def lotsOf (segment : Segment) : List NonemptyText :=
  if segmentId segment = some "LIN" then
    pairLots segment 2
  else if segmentId segment = some "SLN" then
    pairLots segment 9
  else if segmentId segment = some "REF" then
    (referenceLot segment).toList
  else
    []

/- The first lot among the pairs is taken when one is missing. -/
theorem lotNumber_applyIdPairs
    (target : Draft)
    (segment : Segment)
    (start : Nat) :
    (applyIdPairs target segment start).lotNumber =
      target.lotNumber.or (pairLots segment start).head? := by
  unfold applyIdPairs pairLots
  induction idPairs (segment.drop start) generalizing target with
  | nil => simp
  | cons pair rest ih =>
      rw [List.foldl_cons, ih, List.filterMap_cons]
      rcases pair with ⟨qualifier, value⟩
      cases value with
      | none => simp [Draft.applyPair]
      | some value =>
          by_cases hLot : qualifier = "LT"
          · simp [Draft.applyPair, Draft.orLot, hLot]
          · simp only [Draft.applyPair, hLot, if_false]
            split <;> rfl

/-
  The lot that the open line takes from a segment, unless it
  has one or the segment is a LIN that closes it.
-/
def ItemLines.takes (s : ItemLines) (segment : Segment) :
    Option NonemptyText :=
  match s.opened.bind (fun i => s.lines[i]?) with
  | none => none
  | some line =>
      if line.item.lotNumber.isSome then
        none
      else if segmentId segment = some "LIN" ∧
          line.item.productDescription.isSome then
        none
      else
        (lotsOf segment).head?

--------
-- One Segment
--------

variable {i : Nat} {s : ItemLines} {segment : Segment}
variable {rd : NumberReader}

/- A change of the open line changes the last line. -/
theorem ItemLines.exists_open
    (hOpen : s.opened = some i) :
    ∃ earlier line,
      s.lines = earlier ++ [line] ∧ s.lines[i]? = some line ∧
        ∀ f, (s.onLine i f).lines =
          earlier ++ [{ line with item := f line.item }] := by
  have hLast := s.opened_last i hOpen
  rcases List.eq_nil_or_concat s.lines with
    hNil | ⟨earlier, line, hLines⟩
  · rw [hNil] at hLast
    exact absurd hLast (Nat.succ_ne_zero i)
  · have hIndex : i = earlier.length := by
      rw [hLines, List.concat_eq_append, List.length_append]
        at hLast
      simpa using hLast
    rw [List.concat_eq_append] at hLines
    refine ⟨earlier, line, hLines, ?_, ?_⟩
    · rw [hLines, hIndex]
      simp
    · intro f
      rw [ItemLines.lines_onLine, hLines, hIndex,
        List.modify_eq_take_drop, List.take_left,
        List.drop_left]
      rfl

theorem ItemLines.takes_of_open
    {line : Line}
    (hOpen : s.opened = some i)
    (hLine : s.lines[i]? = some line)
    (segment : Segment) :
    s.takes segment =
      if line.item.lotNumber.isSome then
        none
      else if segmentId segment = some "LIN" ∧
          line.item.productDescription.isSome then
        none
      else
        (lotsOf segment).head? := by
  simp [ItemLines.takes, hOpen, hLine]

/- The last line after a lot may have come to it. -/
def TakesLot
    (lines lines' : List Line)
    (lot : Option NonemptyText) : Prop :=
  ∃ earlier line line',
    lines = earlier ++ [line] ∧ lines' = earlier ++ [line'] ∧
      line'.item.lotNumber = line.item.lotNumber.or lot ∧
      (line.item.lotNumber = none ∨ lot = none)

/- A change of the open line, as to its lot. -/
theorem ItemLines.takesLot_onLine
    {f : Draft → Draft}
    {line : Line}
    (hOpen : s.opened = some i)
    (hLine : s.lines[i]? = some line)
    (hLot :
      (f line.item).lotNumber =
        line.item.lotNumber.or (s.takes segment)) :
    TakesLot s.lines (s.onLine i f).lines
      (s.takes segment) := by
  have hFree :
      line.item.lotNumber = none ∨ s.takes segment = none := by
    rw [s.takes_of_open hOpen hLine segment]
    cases line.item.lotNumber with
    | none => exact Or.inl rfl
    | some lot => exact Or.inr rfl
  rcases ItemLines.exists_open hOpen with
    ⟨earlier, last, hLines, hLast, hChange⟩
  rw [hLine, Option.some.injEq] at hLast
  subst hLast
  exact ⟨earlier, line, _, hLines, hChange f, hLot, hFree⟩

/- A line with a lot keeps it, another takes the first. -/
theorem or_head_eq
    {line : Line}
    {lots : List NonemptyText} :
    line.item.lotNumber.or
        (if line.item.lotNumber.isSome then none
          else lots.head?) =
      line.item.lotNumber.or lots.head? := by
  cases line.item.lotNumber <;> rfl

/- With no line open, only the draft changes. -/
theorem lines_read_of_closed
    {kind : ItemKind}
    (hClosed : s.opened = none)
    (hOther : segmentId segment ≠ some kind.quantityId) :
    (s.read rd kind segment).lines = s.lines := by
  have hTarget : ∀ f, (s.onTarget f).lines = s.lines := by
    intro f
    rw [ItemLines.onTarget, hClosed]
    rfl
  unfold ItemLines.read
  cases hId : segmentId segment with
  | none => rfl
  | some id =>
      have hQuantity : id ≠ kind.quantityId := by
        intro hEq
        exact hOther (by rw [hId, hEq])
      simp only [if_neg hQuantity]
      split
      · unfold ItemLines.addDescription
        cases segmentValue segment 5 with
        | none => rfl
        | some text => exact hTarget _
      · split
        · rw [ItemLines.addLin, hClosed]
          rfl
        · split
          · exact hTarget _
          · split
            · unfold ItemLines.addLot
              cases referenceLot segment with
              | none => rfl
              | some lot => exact hTarget _
            · rfl

/- A LIN closes a line that is described, or fills it. -/
theorem lines_addLin
    {line : Line}
    (hOpen : s.opened = some i)
    (hLine : s.lines[i]? = some line)
    (hLin : segmentId segment = some "LIN") :
    ((s.addLin segment).lines = s.lines ∧
      s.takes segment = none) ∨
      TakesLot s.lines (s.addLin segment).lines
        (s.takes segment) := by
  have hTakes := s.takes_of_open hOpen hLine segment
  have hDescribed : s.described i =
      (line.item.productDescription.isSome ||
        line.item.lotNumber.isSome) := by
    rw [ItemLines.described, hLine]
  simp only [ItemLines.addLin, hOpen]
  cases hProduct : line.item.productDescription with
  | some product =>
      rw [hDescribed, hProduct]
      refine Or.inl ⟨rfl, ?_⟩
      rw [hTakes, hProduct]
      simp [hLin]
  | none =>
      cases hLot : line.item.lotNumber with
      | some lot =>
          rw [hDescribed, hProduct, hLot]
          refine Or.inl ⟨rfl, ?_⟩
          rw [hTakes, hLot]
          rfl
      | none =>
          rw [hDescribed, hProduct, hLot, if_neg (by simp)]
          refine Or.inr
            (ItemLines.takesLot_onLine hOpen hLine ?_)
          rw [lotNumber_applyIdPairs, hTakes, hProduct, hLot]
          simp [lotsOf, hLin]

/-
  A segment other than the quantity segment leaves the lines
  alone, or gives the open line the lot it takes.
-/
theorem lines_read
    {kind : ItemKind}
    (hOther : segmentId segment ≠ some kind.quantityId) :
    ((s.read rd kind segment).lines = s.lines ∧
      s.takes segment = none) ∨
      TakesLot s.lines (s.read rd kind segment).lines
        (s.takes segment) := by
  cases hOpen : s.opened with
  | none =>
      refine Or.inl ⟨lines_read_of_closed hOpen hOther, ?_⟩
      simp [ItemLines.takes, hOpen]
  | some i =>
      rcases ItemLines.exists_open hOpen with
        ⟨earlier, line, hLines, hLine, -⟩
      have hTakes := s.takes_of_open hOpen hLine segment
      -- A segment that is not a LIN gives its first lot.
      have hTarget : ∀ f : Draft → Draft,
          segmentId segment ≠ some "LIN" →
          (∀ item : Draft, (f item).lotNumber =
            item.lotNumber.or (lotsOf segment).head?) →
          TakesLot s.lines (s.onTarget f).lines
            (s.takes segment) := by
        intro f hLin hLot
        rw [ItemLines.onTarget, hOpen]
        refine ItemLines.takesLot_onLine hOpen hLine ?_
        rw [hLot, hTakes]
        simp only [hLin, false_and, if_false, or_head_eq]
      have hNothing : (lotsOf segment) = [] →
          s.takes segment = none := by
        intro hNil
        rw [hTakes, hNil]
        split
        · rfl
        · split <;> rfl
      unfold ItemLines.read
      cases hId : segmentId segment with
      | none =>
          refine Or.inl ⟨rfl, hNothing ?_⟩
          simp [lotsOf, hId]
      | some id =>
          have hQuantity : id ≠ kind.quantityId := by
            intro hEq
            exact hOther (by rw [hId, hEq])
          simp only [if_neg hQuantity]
          split
          · rename_i hPid
            have hNone : lotsOf segment = [] := by
              simp [lotsOf, hId, hPid]
            unfold ItemLines.addDescription
            cases segmentValue segment 5 with
            | none => exact Or.inl ⟨rfl, hNothing hNone⟩
            | some text =>
                refine Or.inr (hTarget _ ?_ ?_)
                · simp [hId, hPid]
                · intro item
                  simp [Draft.orProduct, hNone]
          · split
            · rename_i hLin
              exact lines_addLin hOpen hLine (by rw [hId, hLin])
            · split
              · rename_i hSln
                refine Or.inr (hTarget _ ?_ ?_)
                · simp [hId, hSln]
                · intro item
                  rw [lotNumber_applyIdPairs]
                  simp [lotsOf, hId, hSln]
              · split
                · rename_i hRef
                  have hLots : lotsOf segment =
                      (referenceLot segment).toList := by
                    simp [lotsOf, hId, hRef]
                  unfold ItemLines.addLot
                  cases hLot : referenceLot segment with
                  | none =>
                      refine Or.inl ⟨rfl, hNothing ?_⟩
                      rw [hLots, hLot]
                      rfl
                  | some lot =>
                      refine Or.inr (hTarget _ ?_ ?_)
                      · simp [hId, hRef]
                      · intro item
                        rw [hLots, hLot]
                        rfl
                · rename_i hPid hLin hSln hRef
                  refine Or.inl ⟨rfl, hNothing ?_⟩
                  simp [lotsOf, hId, hLin, hSln, hRef]

--------
-- Items of a Document
--------

/-
  The segments of one item: its quantity segment, and those
  ahead of it and behind it.
-/
structure ItemGroup (kind : ItemKind) where
  ahead : List Segment
  quantity : Segment
  behind : List Segment
  quantity_id : segmentId quantity = some kind.quantityId
  others :
    ∀ segment ∈ ahead ++ behind,
      segmentId segment ≠ some kind.quantityId

namespace ItemGroup

variable {kind : ItemKind}

def segments (group : ItemGroup kind) : List Segment :=
  group.ahead ++ group.quantity :: group.behind

/- The lots that stand in the segments of the item. -/
def lots (group : ItemGroup kind) : List NonemptyText :=
  group.segments.flatMap lotsOf

end ItemGroup

/- A segment that is of no item. -/
def IsPlain (kind : ItemKind) (segment : Segment) : Prop :=
  (∀ id ∈ [kind.quantityId, "PID", "LIN", "SLN"],
      segmentId segment ≠ some id) ∧
    (segmentId segment = some "REF" →
      referenceLot segment = none)

/- A transaction set: its items between a header and a trailer. -/
structure Document (kind : ItemKind) where
  header : List Segment
  groups : List (ItemGroup kind)
  trailer : List Segment
  plain :
    ∀ segment ∈ header ++ trailer, IsPlain kind segment

namespace Document

variable {kind : ItemKind}

/- The segments of a transaction set. -/
def segments (doc : Document kind) : List Segment :=
  doc.header ++ doc.groups.flatMap ItemGroup.segments ++
    doc.trailer

end Document

/-
  Each item has its line, and the lot of the line, if it has
  one, stands in the segments of that item.
-/
def LotsOwn
    {kind : ItemKind}
    (groups : List (ItemGroup kind))
    (lines : List Line) : Prop :=
  List.Forall₂
    (fun group line =>
      ∀ lot ∈ line.item.lotNumber, lot ∈ group.lots)
    groups lines

--------
-- Items Kept Apart
--------

variable {kind : ItemKind}

/- The item lines, with the items whose line is committed. -/
structure Filing (kind : ItemKind) where
  owners : List (ItemGroup kind)
  items : ItemLines

namespace Filing

/- No item, and no line. -/
def initial : Filing kind :=
  ⟨[], ItemLines.initial⟩

/- A segment of an item is read. -/
def step
    (rd : NumberReader)
    (s : Filing kind)
    (given : ItemGroup kind × Segment) :
    Filing kind where
  owners :=
    if segmentId given.2 = some kind.quantityId then
      s.owners ++ [given.1]
    else
      s.owners
  items := s.items.read rd kind given.2

/-
  What keeps an item apart from its neighbours at a segment. A
  quantity segment finds a draft that has no lot, or one of its
  own item. Another segment finds the open line one that takes
  no lot from it, or a lot that its item gives too.
-/
def KeepsApart
    (s : Filing kind)
    (given : ItemGroup kind × Segment) : Prop :=
  if segmentId given.2 = some kind.quantityId then
    ∀ lot ∈ s.items.item.lotNumber, lot ∈ given.1.lots
  else
    ∀ lot ∈ s.items.takes given.2,
      ∀ owner ∈ s.owners.getLast?, lot ∈ owner.lots

end Filing

/- The segments of the items, each with its item. -/
def Document.given (doc : Document kind) :
    List (ItemGroup kind × Segment) :=
  doc.groups.flatMap (fun group =>
    group.segments.map (fun segment => (group, segment)))

/- Every segment of the items keeps its item apart. -/
def KeptApart (rd : NumberReader) (doc : Document kind) : Prop :=
  Machine.Meets (Machine.total (Filing.step rd))
    Filing.KeepsApart Filing.initial doc.given

/- Pairs of lists are paired at their ends. -/
theorem forall₂_concat_iff
    {α β : Type}
    {R : α → β → Prop}
    {xs : List α}
    {ys : List β}
    {x : α}
    {y : β} :
    List.Forall₂ R (xs ++ [x]) (ys ++ [y]) ↔
      List.Forall₂ R xs ys ∧ R x y := by
  constructor
  · intro hBoth
    have hLength : xs.length = ys.length := by
      simpa using hBoth.length_eq
    have hTake := List.forall₂_take_append _ _ _ hBoth
    have hDrop := List.forall₂_drop_append _ _ _ hBoth
    rw [← hLength, List.take_left] at hTake
    rw [← hLength, List.drop_left] at hDrop
    exact ⟨hTake, (List.forall₂_cons.mp hDrop).1⟩
  · rintro ⟨hInit, hLast⟩
    exact List.rel_append hInit
      (List.Forall₂.cons hLast List.Forall₂.nil)

namespace Filing

/- The lines hold lots of their own items. -/
def Own (s : Filing kind) : Prop :=
  LotsOwn s.owners s.items.lines

/- A line for the quantity segment of an item. -/
theorem own_commit_iff
    {rd : NumberReader}
    {s : Filing kind}
    {given : ItemGroup kind × Segment}
    (hQuantity : segmentId given.2 = some kind.quantityId) :
    (s.step rd given).Own ↔ s.Own ∧ s.KeepsApart given := by
  have hRead : s.items.read rd kind given.2 =
      s.items.commit rd given.2 kind.conditionIndex := by
    simp [ItemLines.read, hQuantity]
  unfold Own LotsOwn step KeepsApart
  simp only [hRead, if_pos hQuantity]
  rw [ItemLines.commit, forall₂_concat_iff]

/- A lot that comes to the open line is one of its item. -/
theorem own_read_iff
    {rd : NumberReader}
    {s : Filing kind}
    {given : ItemGroup kind × Segment}
    (hOther : segmentId given.2 ≠ some kind.quantityId) :
    (s.step rd given).Own ↔ s.Own ∧ s.KeepsApart given := by
  unfold Own step KeepsApart
  simp only [if_neg hOther]
  rcases lines_read hOther with
    ⟨hSame, hNone⟩ |
      ⟨earlier, line, line', hLines, hLines', hLot, hFree⟩
  · rw [hSame, hNone]
    simp
  · rw [hLines, hLines']
    unfold LotsOwn
    rcases List.eq_nil_or_concat s.owners with
      hNil | ⟨owners, owner, hOwners⟩
    · rw [hNil, List.forall₂_nil_left_iff,
        List.forall₂_nil_left_iff]
      simp
    · rw [hOwners, List.concat_eq_append, forall₂_concat_iff,
        forall₂_concat_iff, hLot]
      simp only [List.getLast?_append, List.getLast?_singleton,
        Option.some_or, Option.mem_some_iff, forall_eq']
      rcases hFree with hLine | hTakes
      · simp [hLine]
      · simp [hTakes]

/- A segment keeps the lots own just when it keeps apart. -/
theorem own_step_iff
    (rd : NumberReader)
    (s : Filing kind)
    (given : ItemGroup kind × Segment) :
    (s.step rd given).Own ↔ s.Own ∧ s.KeepsApart given := by
  by_cases hQuantity :
      segmentId given.2 = some kind.quantityId
  · exact own_commit_iff hQuantity
  · exact own_read_iff hQuantity

end Filing

--------
-- Whole Documents
--------

/- A segment of no item changes nothing. -/
theorem read_plain
    (hPlain : IsPlain kind segment) :
    s.read rd kind segment = s := by
  unfold ItemLines.read
  cases hId : segmentId segment with
  | none => rfl
  | some id =>
      have hNot : ∀ other ∈ [kind.quantityId, "PID", "LIN", "SLN"],
          id ≠ other := by
        intro other hOther hEq
        exact hPlain.1 other hOther (by rw [hId, hEq])
      simp only [List.forall_mem_cons] at hNot
      simp only [if_neg hNot.1, if_neg hNot.2.1,
        if_neg hNot.2.2.1, if_neg hNot.2.2.2.1]
      split
      · rename_i hRef
        rw [hPlain.2 (by rw [hId, hRef])]
        rfl
      · rfl

/- Segments of no item change nothing. -/
theorem foldl_plain
    {segments : List Segment}
    (hPlain : ∀ segment ∈ segments, IsPlain kind segment)
    (s : ItemLines) :
    segments.foldl (ItemLines.read rd kind) s = s := by
  induction segments with
  | nil => rfl
  | cons segment rest ih =>
      rw [List.foldl_cons,
        read_plain (hPlain segment List.mem_cons_self)]
      exact ih (fun other hOther =>
        hPlain other (List.mem_cons_of_mem _ hOther))

namespace Filing

/- The items lines of a run are those of its segments. -/
theorem items_foldl
    (rd : NumberReader)
    (s : Filing kind)
    (given : List (ItemGroup kind × Segment)) :
    (given.foldl (Filing.step rd) s).items =
      (given.map Prod.snd).foldl (ItemLines.read rd kind)
        s.items := by
  induction given generalizing s with
  | nil => rfl
  | cons first rest ih => exact ih (s.step rd first)

/- Segments without a line leave the owners alone. -/
theorem owners_others
    {rd : NumberReader}
    {group : ItemGroup kind}
    {segments : List Segment}
    (hOthers : ∀ segment ∈ segments,
      segmentId segment ≠ some kind.quantityId)
    (s : Filing kind) :
    ((segments.map (fun segment => (group, segment))).foldl
        (Filing.step rd) s).owners = s.owners := by
  induction segments generalizing s with
  | nil => rfl
  | cons segment rest ih =>
      have hRest := ih (fun other hOther =>
        hOthers other (List.mem_cons_of_mem _ hOther))
      rw [List.map_cons, List.foldl_cons, hRest]
      exact if_neg (hOthers segment List.mem_cons_self)

/- An item owns one line. -/
theorem owners_group
    (rd : NumberReader)
    (group : ItemGroup kind)
    (s : Filing kind) :
    ((group.segments.map (fun segment => (group, segment))).foldl
        (Filing.step rd) s).owners =
      s.owners ++ [group] := by
  have hAhead : ∀ segment ∈ group.ahead,
      segmentId segment ≠ some kind.quantityId :=
    fun segment hMem =>
      group.others segment (List.mem_append_left _ hMem)
  have hBehind : ∀ segment ∈ group.behind,
      segmentId segment ≠ some kind.quantityId :=
    fun segment hMem =>
      group.others segment (List.mem_append_right _ hMem)
  have hOwn : ∀ t : Filing kind,
      (t.step rd (group, group.quantity)).owners =
        t.owners ++ [group] :=
    fun t => if_pos group.quantity_id
  rw [ItemGroup.segments, List.map_append, List.map_cons,
    List.foldl_append, List.foldl_cons, owners_others hBehind,
    hOwn, owners_others hAhead]

/- The owners of the lines are the items, in their order. -/
theorem owners_groups
    (rd : NumberReader)
    (groups : List (ItemGroup kind))
    (s : Filing kind) :
    ((groups.flatMap (fun group =>
        group.segments.map (fun segment =>
          (group, segment)))).foldl
        (Filing.step rd) s).owners =
      s.owners ++ groups := by
  induction groups generalizing s with
  | nil => simp
  | cons group rest ih =>
      rw [List.flatMap_cons, List.foldl_append, ih,
        owners_group, List.append_assoc, List.singleton_append]

end Filing

/- The lots are own just when the items are kept apart. -/
theorem lotsOwn_foldl_iff
    (rd : NumberReader)
    (doc : Document kind) :
    LotsOwn doc.groups
        (doc.segments.foldl (ItemLines.read rd kind)
          ItemLines.initial).lines ↔
      KeptApart rd doc := by
  have hItems :
      doc.segments.foldl (ItemLines.read rd kind)
          ItemLines.initial =
        (doc.given.foldl (Filing.step rd)
          Filing.initial).items := by
    have hGiven : doc.given.map Prod.snd =
        doc.groups.flatMap ItemGroup.segments := by
      simp [Document.given, List.map_flatMap,
        Function.comp_def]
    rw [Filing.items_foldl, hGiven, Document.segments,
      List.foldl_append, List.foldl_append,
      foldl_plain (fun segment hMem =>
        doc.plain segment (List.mem_append_left _ hMem)),
      foldl_plain (fun segment hMem =>
        doc.plain segment (List.mem_append_right _ hMem))]
    rfl
  have hOwners :
      (doc.given.foldl (Filing.step rd)
        Filing.initial).owners = doc.groups :=
    Filing.owners_groups rd doc.groups Filing.initial
  have hFinal :
      LotsOwn doc.groups
          (doc.segments.foldl (ItemLines.read rd kind)
            ItemLines.initial).lines ↔
        (doc.given.foldl (Filing.step rd)
          Filing.initial).Own := by
    rw [hItems, Filing.Own, hOwners]
  rw [hFinal, KeptApart]
  apply Machine.final_iff_meets
  · intro s given hOwn
    rw [Filing.own_step_iff]
    exact and_iff_right hOwn
  · intro s given hOwn
    exact ((Filing.own_step_iff rd s given).mp hOwn).1
  · exact List.Forall₂.nil

/-
  A ship notice and a receiving advice give each item line a
  lot of its own item just when every quantity segment finds a
  draft without the lot of another item, and no lot ahead of a
  quantity segment is taken by the line before it.
-/
theorem lotsOwn_iff_keptApart
    (rd : NumberReader) :
    (∀ doc : Document .ship,
      LotsOwn doc.groups
          (extract856Fields rd doc.segments).lineItems.lines ↔
        KeptApart rd doc) ∧
    (∀ doc : Document .receipt,
      LotsOwn doc.groups
          (extract861Fields rd doc.segments).lineItems.lines ↔
        KeptApart rd doc) := by
  constructor
  · intro doc
    rw [lineItems_856]
    exact lotsOwn_foldl_iff rd doc
  · intro doc
    rw [lineItems_861]
    exact lotsOwn_foldl_iff rd doc

def noNumbers : NumberReader where
  float _ := none

/-
  A ship notice of two items in loops of their own: the first
  has a lot in its LIN, the second has no LIN.
-/
def unnamedSecond : Document .ship where
  header :=
    [["ST", "856", "0001"],
      ["BSN", "00", "ASN-1", "20260310", "1200"],
      ["HL", "1", "", "S"]]
  groups :=
    [{ ahead := [["HL", "2", "1", "I"], ["LIN", "1", "LT", "LOT-A"]]
       quantity := ["SN1", "1", "10", "CA"]
       behind := []
       quantity_id := by decide
       others := by decide },
     { ahead := [["HL", "3", "1", "I"]]
       quantity := ["SN1", "2", "5", "CA"]
       behind := []
       quantity_id := by decide
       others := by decide }]
  trailer := [["SE", "8", "0001"]]
  plain := by
    unfold IsPlain
    decide

/- Lines that both have a lot are not both of their items. -/
theorem not_lotsOwn_of_lots
    {lines : List Line}
    (hLots :
      lines.map (fun line =>
          line.item.lotNumber.map Subtype.val) =
        [some "LOT-A", some "LOT-A"]) :
    ¬ LotsOwn unnamedSecond.groups lines := by
  intro hOwn
  cases hOwn with
  | cons hFirst hRest =>
      cases hRest with
      | @cons group line _ _ hSecond hNone =>
          simp only [List.map_cons, List.cons.injEq] at hLots
          rcases Option.map_eq_some_iff.mp hLots.2.1 with
            ⟨lot, hLot, -⟩
          have hNone :
              unnamedSecond.groups.tail.map ItemGroup.lots =
                [[]] := by
            decide
          have hMem := hSecond lot hLot
          rw [(List.cons.inj hNone).1] at hMem
          exact List.not_mem_nil hMem

/- The second item is given the lot of the first. -/
theorem not_lotsOwn_unnamedSecond :
    (extract856Fields noNumbers
        unnamedSecond.segments).lineItems.lines.map
          (fun line => line.item.lotNumber.map Subtype.val) =
        [some "LOT-A", some "LOT-A"] ∧
      ¬ LotsOwn unnamedSecond.groups
        (extract856Fields noNumbers
          unnamedSecond.segments).lineItems.lines := by
  have hLots :
      (extract856Fields noNumbers
        unnamedSecond.segments).lineItems.lines.map
          (fun line => line.item.lotNumber.map Subtype.val) =
        [some "LOT-A", some "LOT-A"] := by
    decide
  exact ⟨hLots, not_lotsOwn_of_lots hLots⟩

end EdiIngestion

end RegEngine
