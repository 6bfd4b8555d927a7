import RegEngine.Shared.CanonicalEvent

/-
  The digests of the legacy store: event hashes, the links of
  the hash chain, and idempotency keys
  (`shared/cte_persistence/hashing.py`).

  Main declarations:
    * `CtePersistence.computeEventHash`
    * `CtePersistence.computeChainHash`
    * `CtePersistence.computeIdempotencyKey`
-/

--------
-- Normalization
--------

namespace RegEngine

open Python (Value Dict)

namespace CtePersistence

mutual

/-
  `json.dumps(_normalize_for_hashing(value))` before its text:
  values of a type that is pinned become text, and a value of
  another type makes `json.dumps` fail.
-/
def normalizeForHashing : Value → Option Json
| .none => some (.scalar .null)
| .bool value => some (.scalar (.bool value))
| .int value => some (.scalar (.int value))
| .float value => some (.scalar (.float value))
| .str value => some (.str value)
| .list items => (normalizeItems items).map Json.arr
| .dict entries => (normalizeEntries entries).map Json.obj
| .object value => value.pinned.map Json.str

def normalizeItems : List Value → Option (List Json)
| [] => some []
| item :: rest =>
    match normalizeForHashing item, normalizeItems rest with
    | some head, some tail => some (head :: tail)
    | _, _ => none

def normalizeEntries :
    List (String × Value) → Option (List (String × Json))
| [] => some []
| (key, value) :: rest =>
    match normalizeForHashing value, normalizeEntries rest with
    | some head, some tail => some ((key, head) :: tail)
    | _, _ => none

end

/- The failure of `json.dumps` on a value of another type. -/
def notSerializable : StoreError :=
  .typeError "Object is not JSON serializable"

--------
-- Digests
--------

/- The KDE keys that event hashes leave out. -/
def descriptionKeys : List String :=
  ["product_description", "description", "item_description"]

/-
  `compute_event_hash`, on the text of the quantity. The
  product description and the location name take no part.
-/
def computeEventHash
    (sha256Hex : String → String)
    (eventId : Uuid)
    (eventType : CTEType)
    (tlc : String)
    (quantity : String)
    (unitOfMeasure : String)
    (locationGln : Option String)
    (timestamp : String)
    (kdes : Dict) :
    Except StoreError String :=
  match normalizeForHashing (.dict (kdes.filter (fun entry =>
      !descriptionKeys.contains entry.1))) with
  | none => .error notSerializable
  | some stableKdes =>
      .ok (sha256Hex (Python.join "|"
        [eventId.text,
          eventType.value,
          tlc,
          quantity,
          unitOfMeasure,
          Python.orElse locationGln "",
          timestamp,
          Json.dumps stableKdes]))

/- `compute_canonical_event_hash`. -/
def computeCanonicalEventHash
    (sha256Hex : String → String)
    (eventId tenantId : Uuid)
    (event : TraceabilityEvent) :
    Except StoreError String :=
  if event.tenantId ≠ tenantId then
    .error (.valueError
      "canonical_event tenant does not match persistence tenant")
  else
    .ok ({ event with eventId := eventId }.computeSha256Hash
      sha256Hex)

/- `compute_chain_hash`. -/
def computeChainHash
    (sha256Hex : String → String)
    (eventHash : String)
    (previousChainHash : Option String) :
    String :=
  sha256Hex
    (Python.orElse previousChainHash "GENESIS" ++ "|" ++
      eventHash)

/- `compute_idempotency_key`. -/
def computeIdempotencyKey
    (sha256Hex : String → String)
    (eventType : CTEType)
    (tlc : String)
    (timestamp : String)
    (source : String)
    (kdes : Dict)
    (locationGln : Option String)
    (locationName : Option String) :
    Except StoreError String :=
  match normalizeForHashing (.dict
      [("event_type", .str eventType.value),
        ("tlc", .str tlc),
        ("timestamp", .str timestamp),
        ("source", .str source),
        ("location_gln", .str (Python.orElse locationGln "")),
        ("location_name", .str (Python.orElse locationName "")),
        ("kdes", .dict kdes)]) with
  | none => .error notSerializable
  | some document => .ok (sha256Hex document.dumpsCompact)

end CtePersistence

end RegEngine
