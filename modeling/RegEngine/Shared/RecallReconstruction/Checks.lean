import RegEngine.Shared.RecallReconstruction.Chain

/-
  The checks of the custody timelines, which report the gaps
  in the evidence, and the custody model they end in.

  Main declarations:
    * `RecallReconstruction.conflictingContents`
    * `RecallReconstruction.buildCustody`
    * `RecallReconstruction.CustodyModel.ancestors`
-/

--------
-- Handoffs
--------

namespace RegEngine

open Grouping (groupBy)

namespace RecallReconstruction

/- `_cutoff_before`: the first source that ends before then. -/
def cutoffBefore (rs : RecordSet) (when_ : Int) :
    Option (String × Int) :=
  (rs.cutoffs.insertionSort (fun x y => x.1 ≤ y.1)).find?
    (fun cutoff => cutoff.2 < when_)

/- The order of pairs of texts. -/
def pairLe (x y : String × String) : Prop :=
  x.1 < y.1 ∨ (x.1 = y.1 ∧ x.2 ≤ y.2)

instance : DecidableRel pairLe := by
  intro x y
  unfold pairLe
  infer_instance

/- A receipt answers a shipment of a pallet. -/
def answers
    (receipt : Receipt)
    (shipmentId palletId : String) : Bool :=
  shipmentId ≠ "" &&
    receipt.shipmentRef == some shipmentId &&
    receipt.palletId == palletId

/- The shipments that no receipt answers. -/
def unansweredShipments (rs : RecordSet) : List Finding :=
  let shipmentsByKey :=
    (groupBy (fun s : Shipment =>
      (s.shipmentId, s.palletId)) rs.shipments).insertionSort
        (fun x y => pairLe x.1 y.1)
  shipmentsByKey.flatMap (fun entry =>
    match entry.2.getLast? with
    | none => []
    | some shipment =>
        if rs.receipts.any (fun receipt =>
            answers receipt entry.1.1 entry.1.2) then
          []
        else
          [{ palletFinding .missingHandoffReceiving
                (some entry.1.2) [] with
              attributedToCutoff :=
                cutoffBefore rs shipment.shippedAt }])

/- What is found about the shipment of one receipt. -/
def receiptHandoff (rs : RecordSet) (receipt : Receipt) :
    List Finding :=
  match receipt.shipmentRef with
  | none =>
      [palletFinding .missingHandoffShipping
        (some receipt.palletId) []]
  | some ref =>
      if rs.shipments.any (fun shipment =>
          shipment.shipmentId == ref &&
            shipment.palletId == receipt.palletId) then
        []
      else
        match cutoffBefore rs receipt.receivedAt with
        | some cutoff =>
            [{ palletFinding .missingHandoffShipping
                  (some receipt.palletId) [] with
                attributedToCutoff := some cutoff }]
        | none =>
            [palletFinding .unmatchedIdentifier
              (some receipt.palletId) []]

/- The order of receipts: by time, then by their id. -/
def receiptLe (x y : Receipt) : Prop :=
  x.receivedAt < y.receivedAt ∨
    (x.receivedAt = y.receivedAt ∧ x.receiptId ≤ y.receiptId)

instance : DecidableRel receiptLe := by
  intro x y
  unfold receiptLe
  infer_instance

/- `_check_handoffs`. -/
def checkHandoffs (rs : RecordSet) : List Finding :=
  unansweredShipments rs ++
    (rs.receipts.insertionSort receiptLe).flatMap
      (receiptHandoff rs)

--------
-- Contents And Counts
--------

/- The pallets in the order of their names. -/
def sortedPallets (timelines : Timelines) : List String :=
  timelines.keys.insertionSort (fun x y => x ≤ y)

/-
  The pallets that may have gone into another: last received
  where it was first moved from, and not consumed.
-/
def candidates
    (timelines : Timelines)
    (p : String)
    (first : PalletEvent) : List String :=
  timelines.keys.filter (fun other =>
    other ≠ p && (timelines.get other).isTerminal &&
      match (timelines.get other).lastEvent with
      | none => false
      | some last =>
          last.kind == .received &&
            last.locationGln == first.locationGln &&
            decide (last.at_ < first.at_))

/- `_check_missing_contents`, for one pallet. -/
def missingContents
    (timelines : Timelines)
    (p : String) : List Finding :=
  match (timelines.get p).movements.head? with
  | none => []
  | some first =>
      if ((timelines.get p).contentsAt first.at_).isSome then
        []
      else
        let others := candidates timelines p first
        palletFinding .missingPalletContents (some p) others ::
          others.map (fun other =>
            palletFinding .missingPalletContents (some other)
              [p])

/- `_check_conflicting_contents`, for one pallet. -/
def conflictingContents
    (timelines : Timelines)
    (p : String) : List Finding :=
  let groups := (timelines.get p).contentsGroups
  (groups.zip groups.tail).flatMap (fun pair =>
    if pair.2.derivedFrom ≠ [] then
      -- a repack legitimately restates contents
      []
    else if sameLots pair.1.lots pair.2.lots then
      []
    else
      [palletFinding .conflictingPalletContents (some p) []])

/- `_check_receipt_counts`, for one receipt. -/
def receiptCount
    (timelines : Timelines)
    (receipt : Receipt) : List Finding :=
  match (timelines.get receipt.palletId).contentsAt
      receipt.receivedAt with
  | none => []
  | some group =>
      let finding :=
        { palletFinding .quantityDiscrepancy
            (some receipt.palletId) [] with
          blocking := false }
      match receipt.countedQuantity, group.total with
      | none, _ => [finding]
      | some _, none => []
      | some counted, some asserted =>
          if near asserted counted then [] else [finding]

/- `_note_cutoffs`. -/
def noteCutoffs (rs : RecordSet) : List Finding :=
  rs.cutoffs.map (fun _ =>
    { palletFinding .sourceUnavailableAfterCutoff none [] with
      blocking := false })

--------
-- The Custody Model
--------

structure CustodyModel where
  timelines : Timelines
  repackOps : List RepackOp
  findings : List Finding

/- `build_custody`. -/
def buildCustody (rs : RecordSet) : CustodyModel :=
  let timelines :=
    (withMovements rs).map PalletTimeline.sort rfl
  { timelines := timelines
    repackOps := repackOps rs
    findings :=
      (withRepacks rs).findings ++ checkHandoffs rs ++
        (sortedPallets timelines).flatMap
          (missingContents timelines) ++
        (sortedPallets timelines).flatMap
          (conflictingContents timelines) ++
        rs.receipts.flatMap (receiptCount timelines) ++
        noteCutoffs rs }

namespace CustodyModel

/- The pallets that a pallet was directly made from. -/
def parents (custody : CustodyModel) (p : String) :
    List String :=
  (custody.timelines.get p).parents

/-
  `ancestors`: each round takes one name off the list, and a
  pallet puts its parents on the list once.
-/
def ancestors (custody : CustodyModel) (p : String) :
    List String :=
  let onList :=
    (custody.timelines.keys.map (fun q =>
      (custody.parents q).length)).sum
  Worklist.search custody.parents
    ((custody.parents p).length + onList)
    (custody.parents p) []

/- `findings_for`, with the ancestors. -/
def findingsFor (custody : CustodyModel) (p : String) :
    List Finding :=
  let scope := p :: custody.ancestors p
  custody.findings.filter (fun finding =>
    (match finding.palletId with
      | none => false
      | some pallet => scope.contains pallet) ||
    finding.relatedPalletIds.any (fun q => scope.contains q))

def blockingFindingsFor (custody : CustodyModel) (p : String) :
    List Finding :=
  (custody.findingsFor p).filter Finding.blocking

/- The lots that a pallet or its ancestors ever held. -/
def lineageLots (custody : CustodyModel) (p : String) :
    List String :=
  (p :: custody.ancestors p).flatMap (fun q =>
    (custody.timelines.get q).contentsGroups.flatMap
      (fun group => group.lots.map Prod.fst))

end CustodyModel

end RecallReconstruction

end RegEngine
