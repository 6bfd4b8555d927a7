import RegEngine.Ingestion.EdiIngestion.Extractors

/-
  The item lines of a ship notice (856) and of a receiving
  advice (861): one line for each SN1 or RCD segment, with the
  lot and the product of the segments around it
  (`services/ingestion/app/edi_ingestion/extractors.py`).

  Main declarations:
    * `EdiIngestion.ItemLines`
    * `EdiIngestion.extract856Fields`
    * `EdiIngestion.extract861Fields`
-/

--------
-- Elements
--------

namespace RegEngine

namespace EdiIngestion

/- What the extractor calls: `float` on a text. -/
structure NumberReader where
  float : String → Option Python.Float

abbrev NonemptyText :=
  { text : String // text ≠ "" }

/- `text or None`. -/
def orNone (text : String) : Option NonemptyText :=
  if h : text = "" then none else some ⟨text, h⟩

/- `_segment_value`. -/
def segmentValue (segment : Segment) (index : Nat) :
    Option NonemptyText :=
  segment[index]?.bind (fun text => orNone (Python.strip text))

/- `segment[i] if len(segment) > i and segment[i] else None`. -/
def rawValue (segment : Segment) (index : Nat) :
    Option String :=
  segment[index]?.filter (fun text => text != "")

/- A number that is finite and more than nothing. -/
def isPositive (x : Python.Float) : Bool :=
  !x.nonpos && x.repr != "nan" && x.repr != "inf"

/- `_positive_line_quantity`. -/
def positiveLineQuantity
    (rd : NumberReader)
    (raw : Option NonemptyText) :
    Option Python.Float :=
  raw.bind (fun text => (rd.float text.val).filter isPositive)

/- `_ITEM_ID_QUALIFIERS`. -/
def itemIdQualifiers : List String :=
  ["SK", "UP", "EN", "VP", "BP"]

/- The product and the lot of a draft or of a line. -/
structure Draft where
  productDescription : Option NonemptyText
  lotNumber : Option NonemptyText
  deriving DecidableEq

namespace Draft

/- A draft without a product and without a lot. -/
def empty : Draft :=
  ⟨none, none⟩

/- `target["product_description"] or product`. -/
def orProduct (target : Draft) (product : NonemptyText) :
    Draft :=
  { target with
    productDescription :=
      target.productDescription.or (some product) }

/- `target["lot_number"] or lot`. -/
def orLot (target : Draft) (lot : NonemptyText) : Draft :=
  { target with lotNumber := target.lotNumber.or (some lot) }

/- A pair that is given fills what is still missing. -/
def applyPair
    (target : Draft)
    (pair : String × Option NonemptyText) :
    Draft :=
  match pair.2 with
  | none => target
  | some value =>
      if pair.1 = "LT" then
        target.orLot value
      else if itemIdQualifiers.contains pair.1 then
        target.orProduct value
      else
        target

end Draft

/-
  The pairs of a qualifier and a value, each cleaned. An empty
  qualifier is neither a lot's nor a product's.
-/
def idPairs : Segment → List (String × Option NonemptyText)
| qualifier :: value :: rest =>
    (Python.upper (Python.strip qualifier),
      orNone (Python.strip value)) :: idPairs rest
| _ => []

/- `_apply_id_pairs`. -/
def applyIdPairs
    (target : Draft)
    (segment : Segment)
    (start : Nat) :
    Draft :=
  (idPairs (segment.drop start)).foldl Draft.applyPair target

--------
-- Item Lines
--------

/- A line: its quantity, and the item it is of. -/
structure Line where
  quantity : Option Python.Float
  unitOfMeasure : Option NonemptyText
  item : Draft
  conditionCode : Option (Option NonemptyText)

/-
  `_ItemLines`: the draft, the lines, and the line that is
  still open, which is the last one.
-/
structure ItemLines where
  item : Draft
  lines : List Line
  opened : Option Nat
  opened_last : ∀ i ∈ opened, i + 1 = lines.length

namespace ItemLines

/- `_ItemLines()`. -/
def initial : ItemLines where
  item := Draft.empty
  lines := []
  opened := none
  opened_last := by simp

/- A change of the draft. -/
def onItem (s : ItemLines) (f : Draft → Draft) : ItemLines :=
  { s with item := f s.item }

/- A change of the item of one line. -/
def onLine (s : ItemLines) (i : Nat) (f : Draft → Draft) :
    ItemLines where
  item := s.item
  lines :=
    s.lines.modify i (fun line => { line with item := f line.item })
  opened := s.opened
  opened_last := by
    rw [List.length_modify]
    exact s.opened_last

@[simp] theorem lines_onItem
    (s : ItemLines)
    (f : Draft → Draft) :
    (s.onItem f).lines = s.lines :=
  rfl

theorem lines_onLine
    (s : ItemLines)
    (i : Nat)
    (f : Draft → Draft) :
    (s.onLine i f).lines =
      s.lines.modify i (fun line =>
        { line with item := f line.item }) :=
  rfl

/- A change of the open line, or else of the draft. -/
def onTarget (s : ItemLines) (f : Draft → Draft) : ItemLines :=
  match s.opened with
  | some i => s.onLine i f
  | none => s.onItem f

/- Whether the line has a product or a lot. -/
def described (s : ItemLines) (i : Nat) : Bool :=
  match s.lines[i]? with
  | none => false
  | some line =>
      line.item.productDescription.isSome ||
        line.item.lotNumber.isSome

/- `self.item = {...}; self._open = None`. -/
def close (s : ItemLines) : ItemLines where
  item := Draft.empty
  lines := s.lines
  opened := none
  opened_last := by simp

@[simp] theorem lines_close (s : ItemLines) :
    s.close.lines = s.lines :=
  rfl

/- `add_lin`. -/
def addLin (s : ItemLines) (segment : Segment) : ItemLines :=
  match s.opened with
  | some i =>
      if s.described i then
        s.close.onItem (fun item => applyIdPairs item segment 2)
      else
        s.onLine i (fun item => applyIdPairs item segment 2)
  | none => s.onItem (fun item => applyIdPairs item segment 2)

/- `add_description`. -/
def addDescription
    (s : ItemLines)
    (text : Option NonemptyText) :
    ItemLines :=
  match text with
  | none => s
  | some text => s.onTarget (fun item => item.orProduct text)

/- `add_lot`. -/
def addLot (s : ItemLines) (lot : Option NonemptyText) :
    ItemLines :=
  match lot with
  | none => s
  | some lot => s.onTarget (fun item => item.orLot lot)

/- `add_sln`: the pairs of an SLN start at its ninth element. -/
def addSln (s : ItemLines) (segment : Segment) : ItemLines :=
  s.onTarget (fun item => applyIdPairs item segment 9)

/- `commit`. -/
def commit
    (rd : NumberReader)
    (s : ItemLines)
    (segment : Segment)
    (conditionIndex : Option Nat) :
    ItemLines where
  item := s.item
  lines :=
    s.lines ++
      [{ quantity :=
          positiveLineQuantity rd (segmentValue segment 2)
         unitOfMeasure := segmentValue segment 3
         item := s.item
         conditionCode :=
          conditionIndex.map (segmentValue segment) }]
  opened := some s.lines.length
  opened_last := by simp

end ItemLines

--------
-- The Extractors
--------

/- `_FROM_ENTITY_CODES`. -/
def fromEntityCodes : List String :=
  ["SF", "SU", "SH"]

/- `_TO_ENTITY_CODES`. -/
def toEntityCodes : List String :=
  ["ST", "BT", "OB"]

/- A qualifier in capitals, empty when there is none. -/
def qualifierOf (segment : Segment) : String :=
  (segment[1]?.map Python.upper).getD ""

/- The fields of a ship notice. -/
structure Fields856 where
  envelope : EnvelopeIds
  controlNumber : Option String
  asnNumber : Option String
  shipDateRaw : Option String
  shipTimeRaw : Option String
  shipFromName : Option String
  shipFromGln : Option String
  shipToName : Option String
  shipToGln : Option String
  referenceDocumentNumber : Option String
  carrier : Option String
  lineItems : ItemLines

/- The fields before the loop over the segments. -/
def start856 (segments : List Segment) : Fields856 :=
  let bsn := (firstSegment segments "BSN").getD []
  { envelope := extractEnvelopeIds segments
    controlNumber :=
      ((firstSegment segments "ST").getD [])[2]?
    asnNumber := bsn[2]?
    shipDateRaw := bsn[3]?
    shipTimeRaw := bsn[4]?
    shipFromName := none
    shipFromGln := none
    shipToName := none
    shipToGln := none
    referenceDocumentNumber := none
    carrier := none
    lineItems := ItemLines.initial }

/- An N1 segment of a ship notice. -/
def party856 (data : Fields856) (segment : Segment) :
    Fields856 :=
  let name := rawValue segment 2
  let locationId := rawValue segment 4
  if fromEntityCodes.contains (qualifierOf segment) then
    { data with
      shipFromName := Python.orSome data.shipFromName name
      shipFromGln := Python.orSome data.shipFromGln locationId }
  else if toEntityCodes.contains (qualifierOf segment) then
    { data with
      shipToName := Python.orSome data.shipToName name
      shipToGln := Python.orSome data.shipToGln locationId }
  else
    data

/- A REF segment of a ship notice. -/
def reference856 (data : Fields856) (segment : Segment) :
    Fields856 :=
  match rawValue segment 2 with
  | none => data
  | some value =>
      if qualifierOf segment = "LT" then
        { data with
          lineItems :=
            data.lineItems.addLot (orNone (Python.strip value)) }
      else if
          ["BM", "SI", "CN", "PO", "PK"].contains
            (qualifierOf segment) then
        { data with
          referenceDocumentNumber :=
            Python.orSome data.referenceDocumentNumber
              (some value) }
      else
        data

/- One round of the loop of `_extract_856_fields`. -/
def step856
    (rd : NumberReader)
    (data : Fields856)
    (segment : Segment) :
    Fields856 :=
  match segmentId segment with
  | none => data
  | some id =>
      if id = "N1" then
        party856 data segment
      else if id = "SN1" then
        { data with
          lineItems := data.lineItems.commit rd segment none }
      else if id = "PID" then
        { data with
          lineItems :=
            data.lineItems.addDescription
              (segmentValue segment 5) }
      else if id = "LIN" then
        { data with lineItems := data.lineItems.addLin segment }
      else if id = "SLN" then
        { data with lineItems := data.lineItems.addSln segment }
      else if id = "REF" then
        reference856 data segment
      else if id = "TD5" then
        { data with
          carrier :=
            Python.orSome data.carrier
              (((segmentValue segment 3).or
                (segmentValue segment 5)).map Subtype.val) }
      else
        data

/- `_extract_856_fields`. -/
def extract856Fields
    (rd : NumberReader)
    (segments : List Segment) :
    Fields856 :=
  let data := segments.foldl (step856 rd) (start856 segments)
  { data with
    referenceDocumentNumber :=
      Python.orSome data.referenceDocumentNumber
        data.asnNumber }

/- The fields of a receiving advice. -/
structure Fields861 where
  envelope : EnvelopeIds
  controlNumber : Option String
  receivingAdviceNumber : Option String
  receiveDateRaw : Option String
  poNumber : Option String
  shipFromName : Option String
  shipFromGln : Option String
  receivingLocationName : Option String
  receivingLocationGln : Option String
  referenceDocumentNumber : Option String
  lineItems : ItemLines

/- The fields before the loop over the segments. -/
def start861 (segments : List Segment) : Fields861 :=
  let bra := (firstSegment segments "BRA").getD []
  { envelope := extractEnvelopeIds segments
    controlNumber :=
      ((firstSegment segments "ST").getD [])[2]?
    receivingAdviceNumber := bra[1]?
    receiveDateRaw := bra[2]?
    poNumber := none
    shipFromName := none
    shipFromGln := none
    receivingLocationName := none
    receivingLocationGln := none
    referenceDocumentNumber := bra[1]?
    lineItems := ItemLines.initial }

/- An N1 segment of a receiving advice. -/
def party861 (data : Fields861) (segment : Segment) :
    Fields861 :=
  let name := rawValue segment 2
  let locationId := rawValue segment 4
  if fromEntityCodes.contains (qualifierOf segment) then
    { data with
      shipFromName := Python.orSome data.shipFromName name
      shipFromGln := Python.orSome data.shipFromGln locationId }
  else if toEntityCodes.contains (qualifierOf segment) then
    { data with
      receivingLocationName :=
        Python.orSome data.receivingLocationName name
      receivingLocationGln :=
        Python.orSome data.receivingLocationGln locationId }
  else
    data

/- A REF segment of a receiving advice. -/
def reference861 (data : Fields861) (segment : Segment) :
    Fields861 :=
  match rawValue segment 2 with
  | none => data
  | some value =>
      if qualifierOf segment = "LT" then
        { data with
          lineItems :=
            data.lineItems.addLot (orNone (Python.strip value)) }
      else if
          ["PO", "BM", "SI"].contains (qualifierOf segment) then
        { data with
          poNumber :=
            if qualifierOf segment = "PO" then
              Python.orSome data.poNumber (some value)
            else
              data.poNumber
          referenceDocumentNumber :=
            Python.orSome data.referenceDocumentNumber
              (some value) }
      else
        data

/- One round of the loop of `_extract_861_fields`. -/
def step861
    (rd : NumberReader)
    (data : Fields861)
    (segment : Segment) :
    Fields861 :=
  match segmentId segment with
  | none => data
  | some id =>
      if id = "N1" then
        party861 data segment
      else if id = "RCD" then
        { data with
          lineItems :=
            data.lineItems.commit rd segment (some 5) }
      else if id = "LIN" then
        { data with lineItems := data.lineItems.addLin segment }
      else if id = "SLN" then
        { data with lineItems := data.lineItems.addSln segment }
      else if id = "PID" then
        { data with
          lineItems :=
            data.lineItems.addDescription
              (segmentValue segment 5) }
      else if id = "REF" then
        reference861 data segment
      else
        data

/- `_extract_861_fields`. -/
def extract861Fields
    (rd : NumberReader)
    (segments : List Segment) :
    Fields861 :=
  segments.foldl (step861 rd) (start861 segments)

--------
-- The Items of Both
--------

/- A ship notice, or a receiving advice. -/
inductive ItemKind where
  | ship
  | receipt
  deriving DecidableEq

namespace ItemKind

/- The segment that commits a line. -/
def quantityId : ItemKind → String
| ship => "SN1"
| receipt => "RCD"

/- The element of that segment with a condition code. -/
def conditionIndex : ItemKind → Option Nat
| ship => none
| receipt => some 5

@[simp] theorem quantityId_ship :
    ItemKind.ship.quantityId = "SN1" :=
  rfl

@[simp] theorem quantityId_receipt :
    ItemKind.receipt.quantityId = "RCD" :=
  rfl

end ItemKind

/- The lot of a REF*LT segment. -/
def referenceLot (segment : Segment) : Option NonemptyText :=
  match rawValue segment 2 with
  | none => none
  | some value =>
      if qualifierOf segment = "LT" then
        orNone (Python.strip value)
      else
        none

def ItemLines.read
    (rd : NumberReader)
    (kind : ItemKind)
    (s : ItemLines)
    (segment : Segment) : ItemLines :=
  match segmentId segment with
  | none => s
  | some id =>
      if id = kind.quantityId then
        s.commit rd segment kind.conditionIndex
      else if id = "PID" then
        s.addDescription (segmentValue segment 5)
      else if id = "LIN" then
        s.addLin segment
      else if id = "SLN" then
        s.addSln segment
      else if id = "REF" then
        s.addLot (referenceLot segment)
      else
        s

/- A REF segment of a ship notice may give a lot. -/
theorem lineItems_reference856
    (data : Fields856)
    (segment : Segment) :
    (reference856 data segment).lineItems =
      data.lineItems.addLot (referenceLot segment) := by
  unfold reference856 referenceLot
  cases rawValue segment 2 with
  | none => rfl
  | some value =>
      dsimp only
      split
      · rfl
      · split <;> rfl

/- A REF segment of a receiving advice may give a lot. -/
theorem lineItems_reference861
    (data : Fields861)
    (segment : Segment) :
    (reference861 data segment).lineItems =
      data.lineItems.addLot (referenceLot segment) := by
  unfold reference861 referenceLot
  cases rawValue segment 2 with
  | none => rfl
  | some value =>
      dsimp only
      split
      · rfl
      · split <;> rfl

/- An N1 segment gives no item. -/
theorem lineItems_party856
    (data : Fields856)
    (segment : Segment) :
    (party856 data segment).lineItems = data.lineItems := by
  unfold party856
  dsimp only
  split
  · rfl
  · split <;> rfl

/- An N1 segment gives no item. -/
theorem lineItems_party861
    (data : Fields861)
    (segment : Segment) :
    (party861 data segment).lineItems = data.lineItems := by
  unfold party861
  dsimp only
  split
  · rfl
  · split <;> rfl

/- One segment of a ship notice, seen from its item lines. -/
theorem lineItems_step856
    (rd : NumberReader)
    (data : Fields856)
    (segment : Segment) :
    (step856 rd data segment).lineItems =
      data.lineItems.read rd .ship segment := by
  unfold step856 ItemLines.read
  cases segmentId segment with
  | none => rfl
  | some id =>
      by_cases hParty : id = "N1"
      · simp [hParty, lineItems_party856]
      · by_cases hCarrier : id = "TD5"
        · simp [hCarrier]
        · simp only [hParty, hCarrier, if_false,
            ItemKind.quantityId_ship,
            apply_ite Fields856.lineItems,
            lineItems_reference856]
          rfl

/- One segment of a receiving advice, likewise. -/
theorem lineItems_step861
    (rd : NumberReader)
    (data : Fields861)
    (segment : Segment) :
    (step861 rd data segment).lineItems =
      data.lineItems.read rd .receipt segment := by
  unfold step861 ItemLines.read
  cases segmentId segment with
  | none => rfl
  | some id =>
      by_cases hParty : id = "N1"
      · simp [hParty, lineItems_party861]
      · by_cases hPid : id = "PID"
        · simp [hPid]
        · simp only [hParty, hPid, if_false,
            ItemKind.quantityId_receipt,
            apply_ite Fields861.lineItems,
            lineItems_reference861]
          rfl

/- The item lines of a ship notice, segment by segment. -/
theorem lineItems_856
    (rd : NumberReader)
    (segments : List Segment) :
    (extract856Fields rd segments).lineItems =
      segments.foldl (ItemLines.read rd .ship)
        ItemLines.initial := by
  rw [extract856Fields]
  exact (List.foldl_hom Fields856.lineItems (fun data segment =>
    (lineItems_step856 rd data segment).symm)).symm

/- The item lines of a receiving advice. -/
theorem lineItems_861
    (rd : NumberReader)
    (segments : List Segment) :
    (extract861Fields rd segments).lineItems =
      segments.foldl (ItemLines.read rd .receipt)
        ItemLines.initial := by
  rw [extract861Fields]
  exact (List.foldl_hom Fields861.lineItems (fun data segment =>
    (lineItems_step861 rd data segment).symm)).symm

end EdiIngestion

end RegEngine
