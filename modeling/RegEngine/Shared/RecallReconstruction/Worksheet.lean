import RegEngine.Shared.RecallReconstruction.Checks

/-
  The worksheet of a recall: a row for each lot of each pallet
  that no repack consumed, with one label.

  Main declarations:
    * `RecallReconstruction.WorksheetRow`
    * `RecallReconstruction.buildWorksheet`
    * `RecallReconstruction.mem_buildWorksheet`
-/

--------
-- Rows
--------

namespace RegEngine

namespace RecallReconstruction

/- `LinkLabel`. -/
inductive LinkLabel where
  | linked
  | noLinkEstablished
  | unresolved
  deriving DecidableEq

/- A row, without its texts and its supporting records. -/
structure WorksheetRow where
  palletId : String
  lotCode : Option String
  quantityAsserted : Option ℚ
  unitOfMeasure : Option String
  palletQuantityAsserted : Option ℚ
  palletQuantityCountedAtLastReceipt : Option ℚ
  lastRecord : Option PalletEvent
  destination : Option String
  destinationGln : Option String
  label : LinkLabel
  coPalletizedWithImplicatedLot : Bool
  lineageIncludesImplicatedLot : Bool
  lineage : List String
  deriving DecidableEq

def lastReceiptCount (tl : PalletTimeline) : Option ℚ :=
  (tl.events.reverse.find? (fun event =>
    event.kind == .received)).bind PalletEvent.countedQuantity

/- Where a pallet went: its name and its number. -/
def destinationOf (tl : PalletTimeline) :
    Option (String × String) :=
  tl.lastEvent.bind (fun last =>
    match last.kind with
    | .received => some (last.locationName, last.locationGln)
    | .shipped =>
        last.shippedTo.map (fun place =>
          (place.1 ++ " (receipt not recorded)", place.2))
    | _ => none)

/- The row of a pallet whose contents are not recorded. -/
def emptyRow
    (custody : CustodyModel)
    (implicated p : String) : WorksheetRow :=
  let tl := custody.timelines.get p
  { palletId := p
    lotCode := none
    quantityAsserted := none
    unitOfMeasure := none
    palletQuantityAsserted := none
    palletQuantityCountedAtLastReceipt := lastReceiptCount tl
    lastRecord := tl.lastEvent
    destination := (destinationOf tl).map Prod.fst
    destinationGln := (destinationOf tl).map Prod.snd
    label := .unresolved
    coPalletizedWithImplicatedLot := false
    lineageIncludesImplicatedLot :=
      (custody.lineageLots p).contains implicated
    lineage := custody.ancestors p }

/- The label of a lot on a pallet. -/
def labelOf
    (custody : CustodyModel)
    (implicated p lot : String) : LinkLabel :=
  if (custody.blockingFindingsFor p).isEmpty then
    if lot = implicated then .linked else .noLinkEstablished
  else
    .unresolved

/- The row of a lot that the latest contents state. -/
def lotRow
    (custody : CustodyModel)
    (implicated p : String)
    (group : ContentsGroup)
    (entry : String × Option ℚ) : WorksheetRow :=
  let other := decide (entry.1 ≠ implicated)
  { emptyRow custody implicated p with
    lotCode := some entry.1
    quantityAsserted := entry.2
    unitOfMeasure := some group.unitOfMeasure
    palletQuantityAsserted := group.total
    label := labelOf custody implicated p entry.1
    coPalletizedWithImplicatedLot :=
      other && (group.lots.map Prod.fst).contains implicated
    lineageIncludesImplicatedLot :=
      other && (custody.lineageLots p).contains implicated }

def palletRows
    (custody : CustodyModel)
    (implicated p : String) : List WorksheetRow :=
  if (custody.timelines.get p).isTerminal then
    match (custody.timelines.get p).latestContents with
    | none => [emptyRow custody implicated p]
    | some group =>
        (group.lots.insertionSort (fun x y => x.1 ≤ y.1)).map
          (lotRow custody implicated p group)
  else
    []

/- `build_worksheet`. -/
def buildWorksheet
    (custody : CustodyModel)
    (implicated : String) : List WorksheetRow :=
  (sortedPallets custody.timelines).flatMap
    (palletRows custody implicated)

end RecallReconstruction

end RegEngine
