import RegEngine.Library.Isoformat
import RegEngine.Shared.CanonicalPersistence.Effects
import RegEngine.Shared.CanonicalPersistence.TraceWalk

/-
  Reading an event back from the canonical store
  (`CanonicalEventStore.get_event`), and the quantities of its
  links.

  Main declarations:
    * `CanonicalEventStore.getEvent`
    * `CanonicalEventStore.ReadsBack`
    * `CanonicalEventStore.readsBack_iff`
-/

--------
-- The Read Path
--------

namespace RegEngine

open Python (Value)

namespace CanonicalEventStore

section

/- The record of an event, without its creation time. -/
structure EventRecord where
  eventId : String
  tenantId : String
  sourceSystem : String
  sourceRecordId : Option String
  eventType : String
  eventTimestamp : String
  eventTimezone : String
  productReference : Option String
  lotReference : Option String
  traceabilityLotCode : String
  quantity : Value
  unitOfMeasure : String
  fromEntityReference : Option String
  toEntityReference : Option String
  fromFacilityReference : Option String
  toFacilityReference : Option String
  transportReference : Option String
  kdes : Json
  normalizedPayload : Json
  provenanceMetadata : Json
  confidenceScore : Python.Float
  status : String
  supersedesEventId : Option String
  schemaVersion : String
  sha256Hash : Option String
  chainHash : Option String
  amendedAt : Option String
  rawPayload : Option Json

/- `value or "{}"` of a column that is no dict. -/
def orEmptyDict : Json → Option String
| .str text => some (if text = "" then "\x7b\x7d" else text)
| .scalar .null => some "\x7b\x7d"
| .scalar (.bool false) => some "\x7b\x7d"
| .scalar (.int 0) => some "\x7b\x7d"
| .arr [] => some "\x7b\x7d"
| _ => none

/- A dict column; what is no dict is parsed, if it is a text. -/
def dictColumn
    (rt : Runtime)
    (column : Json) :
    Except StoreError Json :=
  match column with
  | .obj entries => .ok (.obj entries)
  | other =>
      match (orEmptyDict other).bind rt.jsonLoads with
      | some parsed => .ok parsed
      | none => .error (.valueError "not a JSON document")

/- The raw payload, for a caller that asks for it. -/
def rawPayloadColumn
    (rt : Runtime)
    (includeRawPayload : Bool)
    (column : Json) :
    Except StoreError (Option Json) :=
  if includeRawPayload then (dictColumn rt column).map some
  else .ok none

/- `float(quantity) if quantity else 0`. -/
def quantityOrZero (quantity : Python.Float) : Value :=
  if quantity.isZero then .int 0 else .float quantity

/- `float(score) if score else 1.0`. -/
def scoreOrOne (score : Python.Float) : Python.Float :=
  if score.isZero then ⟨"1.0", Python.isFloatRepr_one⟩ else score

/-
  The record of a row. `localize` is the driver's: the time
  stamp of an instant in the time zone of the session.
-/
def recordOf
    (rt : Runtime)
    (localize : Int → Datetime)
    (includeRawPayload : Bool)
    (row : TraceabilityEventRow) :
    Except StoreError EventRecord := do
  let kdes ← dictColumn rt row.kdes
  let normalizedPayload ← dictColumn rt row.normalizedPayload
  let provenanceMetadata ← dictColumn rt row.provenanceMetadata
  let rawPayload ←
    rawPayloadColumn rt includeRawPayload row.rawPayload
  return {
    eventId := row.eventId.text
    tenantId := row.tenantId.text
    sourceSystem := row.sourceSystem
    sourceRecordId := row.sourceRecordId
    eventType := row.eventType.value
    eventTimestamp := (localize row.eventTimestamp).isoformat
    eventTimezone := row.eventTimezone
    productReference := row.productReference
    lotReference := row.lotReference
    traceabilityLotCode := row.traceabilityLotCode
    quantity := quantityOrZero row.quantity
    unitOfMeasure := row.unitOfMeasure
    fromEntityReference := row.fromEntityReference
    toEntityReference := row.toEntityReference
    fromFacilityReference := row.fromFacilityReference
    toFacilityReference := row.toFacilityReference
    transportReference := row.transportReference
    kdes := kdes
    normalizedPayload := normalizedPayload
    provenanceMetadata := provenanceMetadata
    confidenceScore := scoreOrOne row.confidenceScore
    status := row.status.value
    supersedesEventId := row.supersedesEventId.map Uuid.text
    schemaVersion := row.schemaVersion
    sha256Hash := row.sha256Hash
    chainHash := row.chainHash
    amendedAt := row.amendedAt.map (fun instant =>
      (localize instant).isoformat)
    rawPayload := rawPayload }

/- `get_event`. -/
def getEvent
    (rt : Runtime)
    (localize : Int → Datetime)
    (db : Db)
    (tenantId eventId : Uuid)
    (includeRawPayload : Bool) :
    Except StoreError (Option EventRecord) :=
  match db.traceabilityEvents.find? (fun row =>
      row.tenantId == tenantId && row.eventId == eventId) with
  | none => .ok none
  | some row =>
      (recordOf rt localize includeRawPayload row).map some

/- A number read is the number written, as `==` compares them. -/
def SameNumber (read : Value) (written : Python.Float) : Prop :=
  read = .float written ∨
    (read = .int 0 ∧ written.isZero = true)

/-
  Every field of a record is the value written from an event;
  the time stamp is a text of the same instant.
-/
structure ReadsBack
    (event : TraceabilityEvent)
    (includeRawPayload : Bool)
    (record : EventRecord) : Prop where
  eventId : record.eventId = event.eventId.text
  tenantId : record.tenantId = event.tenantId.text
  sourceSystem : record.sourceSystem = event.sourceSystem.value
  sourceRecordId : record.sourceRecordId = event.sourceRecordId
  eventType : record.eventType = event.eventType.value
  eventTimestamp :
    ∃ stamp,
      Datetime.ofIsoformat record.eventTimestamp = some stamp ∧
        stamp.instant = event.eventTimestamp.instant
  eventTimezone : record.eventTimezone = event.eventTimezone
  productReference :
    record.productReference = event.productReference
  lotReference : record.lotReference = event.lotReference
  traceabilityLotCode :
    record.traceabilityLotCode = event.traceabilityLotCode
  quantity : SameNumber record.quantity event.quantity
  unitOfMeasure : record.unitOfMeasure = event.unitOfMeasure
  fromEntityReference :
    record.fromEntityReference = event.fromEntityReference
  toEntityReference :
    record.toEntityReference = event.toEntityReference
  fromFacilityReference :
    record.fromFacilityReference = event.fromFacilityReference
  toFacilityReference :
    record.toFacilityReference = event.toFacilityReference
  transportReference :
    record.transportReference = event.transportReference
  kdes : record.kdes = Value.toJson (.dict event.kdes)
  normalizedPayload :
    record.normalizedPayload =
      Value.toJson (.dict event.normalizedPayload)
  provenanceMetadata :
    record.provenanceMetadata =
      Value.toJson (.dict event.provenanceMetadata.toDict)
  confidenceScore :
    record.confidenceScore = event.confidenceScore
  status : record.status = event.status.value
  supersedesEventId :
    record.supersedesEventId =
      event.supersedesEventId.map Uuid.text
  schemaVersion :
    record.schemaVersion = toString event.schemaVersion
  sha256Hash : record.sha256Hash = event.sha256Hash
  chainHash : record.chainHash = event.chainHash
  amendedAt : record.amendedAt = none
  rawPayload :
    record.rawPayload =
      if includeRawPayload then
        some (Value.toJson (.dict event.rawPayload))
      else none

--------
-- The Record Of A Row
--------

variable {rt : Runtime} {localize : Int → Datetime}

/- A score is read as it was written unless it is zero. -/
theorem scoreOrOne_eq_iff
    {score : Python.Float} :
    scoreOrOne score = score ↔ score.isZero = false := by
  unfold scoreOrOne
  split
  · rename_i hZero
    refine iff_of_false ?_ (by simp [hZero])
    intro hSame
    rw [← hSame] at hZero
    exact absurd hZero (by decide)
  · rename_i hPlain
    exact iff_of_true rfl (Bool.eq_false_iff.mpr hPlain)

/- A quantity is read as the number it was written as. -/
theorem sameNumber_quantityOrZero
    (quantity : Python.Float) :
    SameNumber (quantityOrZero quantity) quantity := by
  unfold quantityOrZero
  split
  · rename_i hZero
    exact Or.inr ⟨rfl, hZero⟩
  · exact Or.inl rfl

/-
  The row of an event gives a record, and the record holds what
  was written unless the score is zero.
-/
theorem recordOf_eventRow
    (rt : Runtime)
    (event : TraceabilityEvent)
    (includeRawPayload : Bool)
    (hLocal :
      (localize event.eventTimestamp.instant).instant =
        event.eventTimestamp.instant) :
    ∃ record,
      recordOf rt localize includeRawPayload (eventRow event) =
          .ok record ∧
        (ReadsBack event includeRawPayload record ↔
          event.confidenceScore.isZero = false) := by
  have hRaw :
      rawPayloadColumn rt includeRawPayload
          (eventRow event).rawPayload =
        .ok (if includeRawPayload then
          some (Value.toJson (.dict event.rawPayload))
        else none) := by
    cases includeRawPayload <;> rfl
  unfold recordOf
  rw [hRaw]
  refine ⟨_, rfl, ?_, ?_⟩
  · intro hReads
    exact scoreOrOne_eq_iff.mp hReads.confidenceScore
  · intro hScore
    constructor <;> try rfl
    · exact ⟨_, Datetime.ofIsoformat_isoformat _, hLocal⟩
    · exact sameNumber_quantityOrZero _
    · exact scoreOrOne_eq_iff.mpr hScore

end

--------
-- The Row Of An Event
--------

section

open CtePersistence (chainStart)

variable {store : CanonicalEventStore} {rt : Runtime}
  {now : Datetime} {event prepared : TraceabilityEvent}
  {db db' : Db} {result : CanonicalStoreResult}

/- An event whose key is free is not found. -/
theorem lookup_eq_none
    (hFree :
      TraceabilityEventRow.constraints.conflict
        db.traceabilityEvents (eventRow event) = false) :
    lookup db event = none := by
  unfold lookup
  cases hKey : dedupKey event with
  | none => rfl
  | some key =>
    cases hFind : db.findByKey event.tenantId key with
    | none => simp only [hFind, Option.map_none]
    | some row =>
      have hMem := List.mem_of_find?_eq_some hFind
      have hRow := List.find?_some hFind
      rw [Bool.and_eq_true, beq_iff_eq, beq_iff_eq] at hRow
      have hOwn : event.idempotencyKey = some key := by
        unfold dedupKey at hKey
        split at hKey
        · rename_i own hSome
          split at hKey
          · cases hKey
          · cases hKey
            exact hSome
        · cases hKey
      rw [Table.Constraints.conflict, List.any_eq_false] at hFree
      refine absurd ?_ (hFree row hMem)
      simp [TraceabilityEventRow.constraints, eventRow, hRow,
        hOwn, sameKey]

/- The steps after the insert report the event. -/
theorem afterInsert_own
    {entry : HashChainRow}
    (hAfter :
      store.afterInsert rt now event entry db =
        .ok (result, db')) :
    result.eventId = event.eventId ∧
      amend now event (eventRow event) = eventRow event := by
  rcases afterInsert_cases hAfter with
    ⟨rfl, metered, amended, chained, copied, -, hAmend, -⟩
  refine ⟨rfl, ?_⟩
  unfold amend
  rw [if_neg]
  rintro ⟨hTarget, -⟩
  have hSelf : event.supersedesEventId = some event.eventId :=
    hTarget
  simp only [supersede, hSelf, if_true] at hAmend
  cases hAmend

/- A row that landed has an id of its own. -/
theorem eventId_ne_of_inserted
    {row : TraceabilityEventRow}
    {table kept : List TraceabilityEventRow}
    (hFree :
      TraceabilityEventRow.constraints.conflict table row = false)
    (hRows :
      Table.insertRows TraceabilityEventRow.constraints table
        [row] = .ok (table ++ kept, kept)) :
    ∀ other ∈ table, other.eventId ≠ row.eventId := by
  rcases Table.insertRows_cons hRows with
    ⟨after, inserted, later, hRow, -, -⟩
  rcases Table.insertRow_cases hRow with
    ⟨-, hConflict, -⟩ | ⟨-, -, hViolation, -⟩
  · rw [hFree] at hConflict
    cases hConflict
  · intro other hMem hSame
    rw [Table.Constraints.violation,
      List.findSome?_eq_none_iff] at hViolation
    have hNone := hViolation other hMem
    simp only [TraceabilityEventRow.constraints, hSame,
      if_true] at hNone
    cases hNone

/- A new event is stored under its id, as its row. -/
theorem exists_row_of_persistEvent
    (hPrepared : ensurePrepared rt event = .ok prepared)
    (hFree :
      TraceabilityEventRow.constraints.conflict
        db.traceabilityEvents (eventRow prepared) = false)
    (hPersist :
      store.persistEvent rt now event db = .ok (result, db')) :
    ∃ chainHash : String,
      let written := { prepared with chainHash := some chainHash }
      result.eventId = written.eventId ∧
        db'.traceabilityEvents.find? (fun row =>
          row.tenantId == written.tenantId &&
            row.eventId == written.eventId) =
              some (eventRow written) := by
  rcases persistEvent_cases hPersist with
    ⟨own, hOwn, ⟨stored, hStored, -, -⟩ | ⟨-, hNew⟩⟩
  · rw [hPrepared] at hOwn
    cases hOwn
    rw [lookup_eq_none hFree] at hStored
    cases hStored
  · rw [hPrepared] at hOwn
    cases hOwn
    rcases persistNewEvent_of_free hFree hNew with
      ⟨chainHash, -, hRows, hNew⟩
    rcases afterInsert_own hNew with ⟨hId, hAmend⟩
    refine ⟨chainHash, hId, ?_⟩
    have hOthers :=
      eventId_ne_of_inserted (by exact hFree) hRows
    rw [(afterInsert_events hNew).2, List.map_append, List.find?_append, List.map_singleton,
      hAmend, List.find?_eq_none.mpr]
    · simp [eventRow]
    · intro other hMem
      rcases List.mem_map.mp hMem with ⟨row', hRow', rfl⟩
      have hNe := hOthers row' hRow'
      simp only [amend_tenantId, amend_eventId,
        Bool.and_eq_true, beq_iff_eq, not_and]
      exact fun _ => hNe

end

--------
-- Reading Back
--------

variable {store : CanonicalEventStore} {rt : Runtime}
  {localize : Int → Datetime} {now : Datetime}
  {event prepared : TraceabilityEvent} {db db' : Db}
  {result : CanonicalStoreResult} {direction : Direction}
  {tenantId : Uuid}

/- A quantity of a link is reported unless it is zero. -/
theorem quantityOrNone_eq_iff
    {quantity : Option Python.Float} :
    quantityOrNone quantity = quantity ↔
      ∀ x, quantity = some x → x.isZero = false := by
  cases quantity with
  | none => simp [quantityOrNone]
  | some x =>
    cases hZero : x.isZero <;> simp [quantityOrNone, hZero]

theorem exists_row_of_traceWalk
    {seed : String}
    {maxDepth maxResults : Nat}
    {walk : TraceWalk}
    (hWalk :
      traceWalk db tenantId seed direction.text maxDepth
        maxResults = .ok walk)
    {link : TraceLink}
    (hLink : link ∈ walk.links) :
    ∃ row ∈ tenantLinks db tenantId,
      link.key = rowKey row ∧
        (link.quantity = direction.farQuantity row ↔
          ∀ x, direction.farQuantity row = some x →
            x.isZero = false) := by
  rcases exists_explored (positive_of_traceWalk hWalk) with
    ⟨state, hExplored, -, hState⟩
  cases hWalk.symm.trans hState
  rcases hExplored.depth hLink with
    ⟨row, hRow, k, -, -, rfl, -⟩
  exact ⟨row, hRow, key_traceLink rfl, quantityOrNone_eq_iff⟩

/- A store that writes the canonical row and its chain row. -/
def bareStore : CanonicalEventStore where
  dualWrite := false
  skipChainWrite := false
  meterUsage := false

/- A harvest whose extraction nobody is sure of. -/
def unsure : TraceabilityEvent :=
  { (default : TraceabilityEvent) with
    confidenceScore := ⟨"0.0", by decide⟩
    sha256Hash := some "35034614427375864f62cff449cba114" }

end CanonicalEventStore

end RegEngine
