import RegEngine.Shared.CtePersistence.Core

/-
  The copy of a canonical event into the legacy tables
  (`shared/canonical_persistence/legacy_dual_write.py`). The
  graph messages that the module also publishes touch no
  table and are left out.

  Main declarations:
    * `LegacyDualWrite.mapValidationStatus`
    * `LegacyDualWrite.dualWriteLegacy`
-/

namespace RegEngine

namespace LegacyDualWrite

/- `_map_validation_status`. -/
def mapValidationStatus : EventStatus → ValidationStatus
| .active => .valid
| .superseded => .valid
| .rejected => .rejected
| .draft => .valid

/- `event.from_facility_reference or event.to_facility_reference`. -/
def location (event : TraceabilityEvent) : Option String :=
  match event.fromFacilityReference with
  | some text =>
      if text = "" then event.toFacilityReference
      else some text
  | none => event.toFacilityReference

/- The legacy row of a canonical event. -/
def legacyRow (event : TraceabilityEvent) : CteEventRow where
  id := event.eventId
  tenantId := event.tenantId
  eventType := event.eventType
  traceabilityLotCode := event.traceabilityLotCode
  productDescription := Python.orElse event.productReference ""
  quantity := event.quantity
  unitOfMeasure := event.unitOfMeasure
  locationGln := location event
  locationName := location event
  eventTimestamp := event.eventTimestamp.instant
  eventEntryTimestamp := none
  source := event.sourceSystem.value
  sourceEventId := event.sourceRecordId
  idempotencyKey := event.idempotencyKey
  sha256Hash := event.sha256Hash.getD ""
  chainHash := event.chainHash.getD ""
  epcisEventType := event.epcisEventType
  epcisAction := event.epcisAction
  epcisBizStep := event.epcisBizStep
  validationStatus := mapValidationStatus event.status

/- `dual_write_legacy`. -/
def dualWriteLegacy
    (db : Db)
    (event : TraceabilityEvent) :
    Except StoreError (Uuid × Db) := do
  let withEvent ← db.insertCteEvent (legacyRow event)
  let withKdes ←
    (CtePersistence.kdeRows event.tenantId event.eventId
      event.kdes).foldlM Db.insertCteKde withEvent.1
  return (event.eventId, withKdes)

end LegacyDualWrite

end RegEngine
