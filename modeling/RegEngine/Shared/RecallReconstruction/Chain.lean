import Mathlib.Algebra.Order.Group.Abs
import Mathlib.Algebra.Order.Ring.Rat
import Mathlib.Data.List.Sort
import Mathlib.Data.Rat.Lemmas
import Mathlib.Data.String.Basic
import RegEngine.Library.Grouping
import RegEngine.Library.Worklist

/-
  The custody timelines of pallets, built from the records of
  a recall, with what the repacks among them find.  A quantity
  is an exact rational, unknown when it is missing.

  Main declarations:
    * `RecallReconstruction.RecordSet`
    * `RecallReconstruction.repackOps`
    * `RecallReconstruction.applyRepack`
    * `RecallReconstruction.withMovements`
-/

--------
-- Records
--------

namespace RegEngine

namespace RecallReconstruction

/- `FindingType`. -/
inductive FindingType where
  | missingHandoffShipping
  | missingHandoffReceiving
  | missingPalletContents
  | conflictingPalletContents
  | unmatchedIdentifier
  | quantityDiscrepancy
  | sourceUnavailableAfterCutoff
  deriving DecidableEq

/- A finding, without its texts and its sources. -/
structure Finding where
  type : FindingType
  palletId : Option String
  lotCode : Option String
  blocking : Bool
  attributedToCutoff : Option (String × Int)
  relatedPalletIds : List String
  deriving DecidableEq

/- A claim that a quantity of a lot was on a pallet. -/
structure ContentsAssertion where
  recordId : String
  palletId : String
  lotCode : String
  quantity : Option ℚ
  unitOfMeasure : String
  recordedAt : Int
  locationGln : String
  locationName : String
  deriving DecidableEq

structure Shipment where
  shipmentId : String
  palletId : String
  fromGln : String
  fromName : String
  toGln : String
  toName : String
  shippedAt : Int
  deriving DecidableEq

structure Receipt where
  receiptId : String
  shipmentRef : Option String
  palletId : String
  locationGln : String
  locationName : String
  receivedAt : Int
  countedQuantity : Option ℚ
  deriving DecidableEq

structure RepackRow where
  recordId : String
  processType : String
  inputPalletId : String
  outputPalletId : String
  lotCode : String
  quantity : Option ℚ
  unitOfMeasure : String
  performedAt : Int
  locationGln : String
  locationName : String
  deriving DecidableEq

/- The records of a recall, with what loading them found. -/
structure RecordSet where
  contents : List ContentsAssertion
  shipments : List Shipment
  receipts : List Receipt
  repackRows : List RepackRow
  loadFindings : List Finding
  cutoffs : List (String × Int)

--------
-- Timelines
--------

/- The quantities by lot, each lot once. -/
abbrev Lots := List (String × Option ℚ)

def sumKnown (quantities : List (Option ℚ)) : Option ℚ :=
  quantities.foldr (fun q total =>
    match q, total with
    | some x, some y => some (x + y)
    | _, _ => none) (some 0)

/- Two dictionaries of lots hold the same entries. -/
def sameLots (lots other : Lots) : Bool :=
  lots.all (fun entry => other.contains entry) &&
    other.all (fun entry => lots.contains entry)

/- All lot rows asserted by one record for one pallet. -/
structure ContentsGroup where
  recordId : String
  recordedAt : Int
  locationGln : String
  locationName : String
  lots : Lots
  unitOfMeasure : String
  derivedFrom : List String
  processType : Option String
  deriving DecidableEq

/- `ContentsGroup.total`. -/
def ContentsGroup.total (group : ContentsGroup) : Option ℚ :=
  sumKnown (group.lots.map Prod.snd)

structure RepackOp where
  recordId : String
  processType : String
  performedAt : Int
  locationGln : String
  locationName : String
  inputs : List String
  outputs : List (String × Lots)
  unitOfMeasure : String
  deriving DecidableEq

/- The kinds of events, in the order of `_KIND_ORDER`. -/
inductive EventKind where
  | contents
  | repackOut
  | received
  | shipped
  | repackIn
  deriving DecidableEq

def EventKind.order : EventKind → Nat
| .contents => 0
| .repackOut => 1
| .received => 2
| .shipped => 3
| .repackIn => 4

structure PalletEvent where
  kind : EventKind
  at_ : Int
  locationGln : String
  locationName : String
  shipmentId : Option String
  countedQuantity : Option ℚ
  shippedTo : Option (String × String)
  deriving DecidableEq

structure PalletTimeline where
  events : List PalletEvent
  contentsGroups : List ContentsGroup
  parents : List String
  children : List String
  consumedAt : Option Int
  consumedByRecord : Option String
  deriving DecidableEq

namespace PalletTimeline

/- A timeline on which nothing stands yet. -/
def empty : PalletTimeline where
  events := []
  contentsGroups := []
  parents := []
  children := []
  consumedAt := none
  consumedByRecord := none

/- The order of events: by time, then by kind. -/
def eventLe (x y : PalletEvent) : Prop :=
  x.at_ < y.at_ ∨
    (x.at_ = y.at_ ∧ x.kind.order ≤ y.kind.order)

instance : DecidableRel eventLe := by
  intro x y
  unfold eventLe
  infer_instance

/- `sort`, which keeps the order of what compares equal. -/
def sort (tl : PalletTimeline) : PalletTimeline :=
  { tl with
    events := tl.events.insertionSort eventLe
    contentsGroups :=
      tl.contentsGroups.insertionSort (fun x y =>
        x.recordedAt ≤ y.recordedAt) }

/- `contents_at`: the last in the list recorded by then. -/
def contentsAt (tl : PalletTimeline) (when_ : Int) :
    Option ContentsGroup :=
  (tl.contentsGroups.filter (fun group =>
    group.recordedAt ≤ when_)).getLast?

def latestContents (tl : PalletTimeline) :
    Option ContentsGroup :=
  tl.contentsGroups.getLast?

def movements (tl : PalletTimeline) : List PalletEvent :=
  tl.events.filter (fun event =>
    event.kind == .shipped || event.kind == .received)

def lastEvent (tl : PalletTimeline) : Option PalletEvent :=
  tl.events.getLast?

def isTerminal (tl : PalletTimeline) : Bool :=
  tl.consumedAt.isNone

end PalletTimeline

--------
-- Contents And Repacks From Rows
--------

open Grouping (distinct groupBy)

def earliest (times : List Int) : Int :=
  times.min?.getD 0

/- The lots of contents rows: a later row replaces one before. -/
def statedLots (rows : List ContentsAssertion) : Lots :=
  (groupBy ContentsAssertion.lotCode rows).map (fun group =>
    (group.1, group.2.getLast?.bind
      ContentsAssertion.quantity))

/- The group that a record states for a pallet. -/
def contentsGroup
    (recordId : String)
    (rows : List ContentsAssertion) : ContentsGroup where
  recordId := recordId
  recordedAt := earliest
    (rows.map ContentsAssertion.recordedAt)
  locationGln :=
    (rows.head?.map ContentsAssertion.locationGln).getD ""
  locationName :=
    (rows.head?.map ContentsAssertion.locationName).getD ""
  lots := statedLots rows
  unitOfMeasure :=
    (rows.head?.map ContentsAssertion.unitOfMeasure).getD ""
  derivedFrom := []
  processType := none

def statedGroups (rs : RecordSet) :
    List (String × ContentsGroup) :=
  (groupBy (fun row : ContentsAssertion =>
      (row.palletId, row.recordId)) rs.contents).map
    (fun group =>
      (group.1.1, contentsGroup group.1.2 group.2))

/-
  The running quantity of a lot on an output: known quantities
  add up, an unknown one replaces or is replaced.
-/
def runningQuantity (quantities : List (Option ℚ)) :
    Option ℚ :=
  match quantities with
  | [] => none
  | first :: rest =>
      rest.foldl (fun current q =>
        match current, q with
        | some x, some y => some (x + y)
        | _, _ => q) first

/- The lots of the rows of one output pallet. -/
def outputLots (rows : List RepackRow) : Lots :=
  (groupBy RepackRow.lotCode rows).map (fun group =>
    (group.1, runningQuantity
      (group.2.map RepackRow.quantity)))

/- The repack that the rows of a record describe. -/
def repackOp (recordId : String) (rows : List RepackRow) :
    RepackOp where
  recordId := recordId
  processType :=
    (rows.head?.map RepackRow.processType).getD ""
  performedAt := earliest (rows.map RepackRow.performedAt)
  locationGln :=
    (rows.head?.map RepackRow.locationGln).getD ""
  locationName :=
    (rows.head?.map RepackRow.locationName).getD ""
  inputs :=
    (distinct (rows.map RepackRow.inputPalletId)).insertionSort
      (fun x y => x ≤ y)
  outputs :=
    (groupBy RepackRow.outputPalletId rows).map (fun group =>
      (group.1, outputLots group.2))
  unitOfMeasure :=
    (rows.head?.map RepackRow.unitOfMeasure).getD ""

/- The repacks in the order of their times. -/
def repackOps (rs : RecordSet) : List RepackOp :=
  ((groupBy RepackRow.recordId rs.repackRows).map
      (fun group => repackOp group.1 group.2)).insertionSort
    (fun x y => x.performedAt ≤ y.performedAt)

--------
-- The Builder
--------

/- The timelines of the pallets that were mentioned. -/
abbrev Timelines :=
  DefaultTable String PalletTimeline.empty

structure Builder where
  timelines : Timelines
  findings : List Finding

/- A finding without a lot or a cutoff. -/
def palletFinding
    (type : FindingType)
    (palletId : Option String)
    (related : List String) : Finding where
  type := type
  palletId := palletId
  lotCode := none
  blocking := true
  attributedToCutoff := none
  relatedPalletIds := related

/- The event of contents that a record states. -/
def contentsEvent (group : ContentsGroup) : PalletEvent where
  kind := .contents
  at_ := group.recordedAt
  locationGln := group.locationGln
  locationName := group.locationName
  shipmentId := none
  countedQuantity := none
  shippedTo := none

/- `_add_contents_assertions`, for one group. -/
def addContents
    (group : ContentsGroup)
    (tl : PalletTimeline) : PalletTimeline :=
  { tl with
    contentsGroups := tl.contentsGroups ++ [group]
    events := tl.events ++ [contentsEvent group] }

def repackEvent (op : RepackOp) (kind : EventKind) :
    PalletEvent where
  kind := kind
  at_ := op.performedAt
  locationGln := op.locationGln
  locationName := op.locationName
  shipmentId := none
  countedQuantity := none
  shippedTo := none

/- The names that are new to a list, at its end. -/
def extendNew (names more : List String) : List String :=
  names ++ more.filter (fun name => name ∉ names)

/- The timeline of an input after the repack. -/
def consume (op : RepackOp) (tl : PalletTimeline) :
    PalletTimeline :=
  { tl with
    consumedAt := some op.performedAt
    consumedByRecord := some op.recordId
    children := extendNew tl.children (op.outputs.map Prod.fst)
    events := tl.events ++ [repackEvent op .repackIn] }

/- The group that a repack states for one of its outputs. -/
def derivedGroup (op : RepackOp) (lots : Lots) :
    ContentsGroup where
  recordId := op.recordId
  recordedAt := op.performedAt
  locationGln := op.locationGln
  locationName := op.locationName
  lots := lots
  unitOfMeasure := op.unitOfMeasure
  derivedFrom := op.inputs
  processType := some op.processType

/- The timeline of an output with its lots after the repack. -/
def produce
    (op : RepackOp)
    (lots : Lots)
    (tl : PalletTimeline) : PalletTimeline :=
  { tl with
    contentsGroups :=
      tl.contentsGroups ++ [derivedGroup op lots]
    parents := extendNew tl.parents op.inputs
    events := tl.events ++ [repackEvent op .repackOut] }

/- What the repack finds about one of its inputs. -/
def inputFindings
    (op : RepackOp)
    (timeline : String → PalletTimeline)
    (p : String) : List Finding :=
  (if (timeline p).events.isEmpty &&
        (timeline p).contentsGroups.isEmpty then
      [palletFinding .unmatchedIdentifier (some p)
        (op.outputs.map Prod.fst)]
    else
      []) ++
    match (timeline p).contentsAt op.performedAt with
    | none =>
        [palletFinding .missingPalletContents (some p)
          (op.outputs.map Prod.fst)]
    | some _ => []

/- The total of a lot, unknown when it is nowhere stated. -/
def totalOf (entries : Lots) (lot : String) : Option ℚ :=
  match entries.filter (fun entry => entry.1 = lot) with
  | [] => none
  | found => sumKnown (found.map Prod.snd)

/- The lots of the inputs, when every input has contents. -/
def inputLots
    (op : RepackOp)
    (timeline : String → PalletTimeline) : Option Lots :=
  (op.inputs.mapM (fun p =>
    (timeline p).contentsAt op.performedAt)).map (fun groups =>
      groups.flatMap ContentsGroup.lots)

/- Two quantities that pass as equal. -/
def near (x y : ℚ) : Bool :=
  decide (|x - y| ≤ 1 / 1000000000)

/- The two totals of a lot are known and near each other. -/
def reconciles (inputs outputs : Lots) (lot : String) : Bool :=
  match totalOf inputs lot, totalOf outputs lot with
  | some inp, some out => near inp out
  | _, _ => false

/- The finding about a repack that does not reconcile. -/
def mismatchFindings
    (op : RepackOp)
    (timeline : String → PalletTimeline) : List Finding :=
  match inputLots op timeline with
  | none => []
  | some inputs =>
      let outputs := op.outputs.flatMap Prod.snd
      if (inputs ++ outputs).all (fun entry =>
          reconciles inputs outputs entry.1) then
        []
      else
        [palletFinding .quantityDiscrepancy none
          (op.inputs ++ op.outputs.map Prod.fst)]

/- What a repack changes: its inputs, then its outputs. -/
def repackSteps (op : RepackOp) :
    List (String × (PalletTimeline → PalletTimeline)) :=
  op.inputs.map (fun p => (p, consume op)) ++
    op.outputs.map (fun output =>
      (output.1, produce op output.2))

/-
  A round of `_add_repacks`.  The inputs are distinct, so that
  what is found about one of them does not depend on the
  others being consumed.
-/
def applyRepack (b : Builder) (op : RepackOp) : Builder where
  timelines := b.timelines.changeEach (repackSteps op)
  findings :=
    b.findings ++
      (op.inputs.flatMap (inputFindings op b.timelines.get) ++
        mismatchFindings op b.timelines.get)

def shippedEvent (shipment : Shipment) : PalletEvent where
  kind := .shipped
  at_ := shipment.shippedAt
  locationGln := shipment.fromGln
  locationName := shipment.fromName
  shipmentId := some shipment.shipmentId
  countedQuantity := none
  shippedTo := some (shipment.toName, shipment.toGln)

def receivedEvent (receipt : Receipt) : PalletEvent where
  kind := .received
  at_ := receipt.receivedAt
  locationGln := receipt.locationGln
  locationName := receipt.locationName
  shipmentId := receipt.shipmentRef
  countedQuantity := receipt.countedQuantity
  shippedTo := none

/- An event at the end of a timeline. -/
def addEvent (event : PalletEvent) (tl : PalletTimeline) :
    PalletTimeline :=
  { tl with events := tl.events ++ [event] }

/- What the stated contents change. -/
def contentsSteps (rs : RecordSet) :
    List (String × (PalletTimeline → PalletTimeline)) :=
  (statedGroups rs).map (fun stated =>
    (stated.1, addContents stated.2))

/- What the shipments and the receipts change. -/
def movementSteps (rs : RecordSet) :
    List (String × (PalletTimeline → PalletTimeline)) :=
  rs.shipments.map (fun s =>
      (s.palletId, addEvent (shippedEvent s))) ++
    rs.receipts.map (fun r =>
      (r.palletId, addEvent (receivedEvent r)))

/- The builder after the stated contents. -/
def withContents (rs : RecordSet) : Builder where
  timelines := DefaultTable.empty.changeEach (contentsSteps rs)
  findings := rs.loadFindings

def withRepacks (rs : RecordSet) : Builder :=
  (repackOps rs).foldl applyRepack (withContents rs)

/- The timelines after the movements, not yet sorted. -/
def withMovements (rs : RecordSet) : Timelines :=
  (withRepacks rs).timelines.changeEach (movementSteps rs)

end RecallReconstruction

end RegEngine
