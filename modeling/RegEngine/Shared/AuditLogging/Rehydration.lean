import RegEngine.Shared.AuditLogging

/-
  Audit events read back from the dictionaries that they are
  stored as (`shared/audit_logging/storage.py`).

  A time is its `isoformat` text, which `fromisoformat` reads
  as a time of that text.

  Main declarations:
    * `AuditLogging.StoredEvent.toDict`
    * `AuditLogging.eventFromDict`
    * `AuditLogging.verifyRebuilt_signed_iff`
-/

--------
-- Dictionaries
--------

namespace RegEngine

namespace AuditLogging

/- Where an action comes from. -/
structure AuditContext where
  requestId : Option String
  correlationId : Option String
  environment : Option String
  serviceName : Option String
  serviceVersion : Option String
  endpoint : Option String
  httpMethod : Option String
  httpStatus : Option Int
  durationMs : Option Python.Float
  extra : List (String × Json)

/- An audit event with the parts that are not signed. -/
structure StoredEvent extends AuditEvent where
  severity : String
  context : Option AuditContext
  message : Option String
  tags : List String

/- The entry of a dictionary that is not empty. -/
def filledDictOf (key : String) (entries : List (String × Json)) :
    List (String × Json) :=
  if entries.isEmpty then [] else [(key, .obj entries)]

/- `AuditActor.to_dict`. -/
def AuditActor.toDict (actor : AuditActor) :
    List (String × Json) :=
  [("actor_id", .str actor.actorId),
      ("actor_type", .str actor.actorType)] ++
    entryOf "username" actor.username ++
    entryOf "email" actor.email ++
    entryOf "ip_address" actor.ipAddress ++
    entryOf "user_agent" actor.userAgent ++
    entryOf "session_id" actor.sessionId ++
    entryOf "tenant_id" actor.tenantId ++
    [("roles", .arr (actor.roles.map .str))]

/- `AuditResource.to_dict`. -/
def AuditResource.toDict (resource : AuditResource) :
    List (String × Json) :=
  [("resource_type", .str resource.resourceType),
      ("resource_id", .str resource.resourceId)] ++
    filledEntryOf "resource_name" resource.resourceName ++
    filledEntryOf "tenant_id" resource.tenantId ++
    filledDictOf "attributes" resource.attributes

/- `AuditContext.to_dict`. -/
def AuditContext.toDict (context : AuditContext) :
    List (String × Json) :=
  entryOf "request_id" context.requestId ++
    entryOf "correlation_id" context.correlationId ++
    entryOf "environment" context.environment ++
    entryOf "service_name" context.serviceName ++
    entryOf "service_version" context.serviceVersion ++
    entryOf "endpoint" context.endpoint ++
    entryOf "http_method" context.httpMethod ++
    context.httpStatus.toList.map (fun status =>
      ("http_status", .scalar (.int status))) ++
    context.durationMs.toList.map (fun duration =>
      ("duration_ms", .scalar (.float duration))) ++
    filledDictOf "extra" context.extra

/- A dictionary, or `null`. -/
def nullableDict : Option (List (String × Json)) → Json
| none => .scalar .null
| some entries => .obj entries

/- `AuditEvent.to_dict`. -/
def StoredEvent.toDict (event : StoredEvent) :
    List (String × Json) :=
  [("event_id", .str event.eventId),
    ("timestamp", .str event.timestamp),
    ("event_type", .str event.eventType),
    ("category", .str event.category),
    ("severity", .str event.severity),
    ("actor", .obj event.actor.toDict),
    ("action", .str event.action),
    ("outcome", .str event.outcome),
    ("resource",
      nullableDict (event.resource.map AuditResource.toDict)),
    ("context",
      nullableDict (event.context.map AuditContext.toDict)),
    ("message", nullable event.message),
    ("details", .obj event.details),
    ("tags", .arr (event.tags.map .str)),
    ("integrity_hash", nullable event.integrityHash),
    ("previous_hash", nullable event.previousHash)]

--------
-- Reading
--------

def text? : Json → Option String
| .str text => some text
| _ => none

@[simp] theorem text?_str (text : String) :
    text? (.str text) = some text :=
  rfl

/- The text under a key, where there is one. -/
def textAt (payload : List (String × Json)) (key : String) :
    Option String :=
  (payload.lookup key).bind text?

/- `payload.get(key) or {}`. -/
def dictAt (payload : List (String × Json)) (key : String) :
    List (String × Json) :=
  match payload.lookup key with
  | some (.obj entries) => entries
  | _ => []

/- `payload.get(key) or []`, where it is a list of texts. -/
def textsAt (payload : List (String × Json)) (key : String) :
    List String :=
  match payload.lookup key with
  | some (.arr items) => items.filterMap text?
  | _ => []

/- The actor of an event: three of its fields are not read. -/
def actorFromDict (entries : List (String × Json)) :
    AuditActor where
  actorId := (textAt entries "actor_id").getD ""
  actorType := (textAt entries "actor_type").getD "system"
  username := textAt entries "username"
  email := none
  ipAddress := textAt entries "ip_address"
  userAgent := textAt entries "user_agent"
  sessionId := none
  tenantId := textAt entries "tenant_id"
  roles := []

/- The resource of an event; a missing key is a `KeyError`. -/
def resourceFromDict (entries : List (String × Json)) :
    Option AuditResource := do
  let resourceType ← textAt entries "resource_type"
  let resourceId ← textAt entries "resource_id"
  return {
    resourceType := resourceType
    resourceId := resourceId
    resourceName := textAt entries "resource_name"
    tenantId := textAt entries "tenant_id"
    attributes := dictAt entries "attributes" }

/- The context of an event: half of its fields are not read. -/
def contextFromDict (entries : List (String × Json)) :
    AuditContext where
  requestId := textAt entries "request_id"
  correlationId := textAt entries "correlation_id"
  environment := textAt entries "environment"
  serviceName := textAt entries "service_name"
  serviceVersion := none
  endpoint := textAt entries "endpoint"
  httpMethod := none
  httpStatus := none
  durationMs := none
  extra := []

def resourceAt (payload : List (String × Json)) :
    Option (Option AuditResource) :=
  match dictAt payload "resource" with
  | [] => some none
  | entry :: rest =>
      (resourceFromDict (entry :: rest)).map some

def contextAt (payload : List (String × Json)) :
    Option AuditContext :=
  match dictAt payload "context" with
  | [] => none
  | entry :: rest => some (contextFromDict (entry :: rest))

/-
  `_event_from_dict`; `none` where a key is missing. Values
  that `to_dict` does not write are read as missing.
-/
def eventFromDict (payload : List (String × Json)) :
    Option StoredEvent := do
  let timestamp ← textAt payload "timestamp"
  let eventId ← textAt payload "event_id"
  let eventType ← textAt payload "event_type"
  let category ← textAt payload "category"
  let severity ← textAt payload "severity"
  let action ← textAt payload "action"
  let outcome ← textAt payload "outcome"
  let resource ← resourceAt payload
  return {
    eventId := eventId
    timestamp := timestamp
    eventType := eventType
    category := category
    severity := severity
    actor := actorFromDict (dictAt payload "actor")
    action := action
    outcome := outcome
    resource := resource
    context := contextAt payload
    message := textAt payload "message"
    details := dictAt payload "details"
    tags := textsAt payload "tags"
    integrityHash := textAt payload "integrity_hash"
    previousHash := textAt payload "previous_hash" }

/- `verify_event` on the event that is read back. -/
def verifyRebuilt
    (hmacHex : String → String)
    (event : StoredEvent) : Option Bool :=
  (eventFromDict event.toDict).map (fun rebuilt =>
    verifyEvent hmacHex rebuilt.toAuditEvent)

--------
-- Events That Are Read Back
--------

/- The actor without the fields that are not read. -/
def AuditActor.rebuilt (actor : AuditActor) : AuditActor :=
  { actor with
    email := none
    sessionId := none
    roles := [] }

/- The resource without the texts that are not written. -/
def AuditResource.rebuilt (resource : AuditResource) :
    AuditResource :=
  { resource with
    resourceName :=
      resource.resourceName.filter (fun text => text ≠ "")
    tenantId :=
      resource.tenantId.filter (fun text => text ≠ "") }

/- The signed part of the event that is read back. -/
def AuditEvent.rebuilt (event : AuditEvent) : AuditEvent :=
  { event with
    actor := event.actor.rebuilt
    resource := event.resource.map AuditResource.rebuilt }

/- A text is found in its entry. -/
theorem lookup_entryOf
    (key key' : String)
    (value : Option String)
    (rest : List (String × Json)) :
    (entryOf key' value ++ rest).lookup key =
      if key = key' then
        (value.map Json.str).or (rest.lookup key)
      else
        rest.lookup key := by
  cases value with
  | none => simp [entryOf]
  | some text =>
    by_cases hKey : key = key'
    · simp [entryOf, hKey]
    · have hNe : (key == key') = false := by
        simpa using hKey
      simp [entryOf, List.lookup_cons, hNe, hKey]

theorem lookup_entryOf_last
    (key key' : String)
    (value : Option String) :
    (entryOf key' value).lookup key =
      if key = key' then value.map Json.str else none := by
  simpa using lookup_entryOf key key' value []

/- A dictionary is found in its entry, unless it is empty. -/
theorem lookup_filledDictOf
    (key key' : String)
    (entries : List (String × Json)) :
    (filledDictOf key' entries).lookup key =
      if key = key' ∧ entries ≠ [] then some (.obj entries)
      else none := by
  cases entries with
  | nil => simp [filledDictOf]
  | cons entry rest =>
    by_cases hKey : key = key'
    · simp [filledDictOf, hKey]
    · have hNe : (key == key') = false := by
        simpa using hKey
      simp [filledDictOf, List.lookup_cons, hNe, hKey]

/- The text of an optional entry. -/
theorem bind_text?_map_str
    (value : Option String) :
    (value.map Json.str).bind text? = value := by
  cases value <;> rfl

/- The actor is read back but for three of its fields. -/
theorem actorFromDict_toDict
    (actor : AuditActor) :
    actorFromDict actor.toDict = actor.rebuilt := by
  simp [actorFromDict, AuditActor.toDict, AuditActor.rebuilt,
    textAt, List.lookup_cons, lookup_entryOf,
    bind_text?_map_str]

/- The resource is read back, empty texts as missing ones. -/
theorem resourceFromDict_toDict
    (resource : AuditResource) :
    resourceFromDict resource.toDict =
      some resource.rebuilt := by
  have hAttributes :
      dictAt resource.toDict "attributes" =
        resource.attributes := by
    cases hEntries : resource.attributes <;>
      simp [dictAt, AuditResource.toDict, filledEntryOf,
        List.lookup_cons, lookup_entryOf, lookup_filledDictOf,
        hEntries]
  rw [resourceFromDict, hAttributes]
  simp [AuditResource.toDict, AuditResource.rebuilt, textAt,
    filledEntryOf, List.lookup_cons, lookup_entryOf,
    lookup_filledDictOf, bind_text?_map_str]

/- The resource of an event is read back, if it has one. -/
theorem resourceAt_toDict
    (event : StoredEvent) :
    resourceAt event.toDict =
      some (event.resource.map AuditResource.rebuilt) := by
  have hDict :
      dictAt event.toDict "resource" =
        (event.resource.map AuditResource.toDict).getD [] := by
    cases hEq : event.resource <;>
      simp [dictAt, StoredEvent.toDict, List.lookup_cons,
        nullableDict, hEq]
  rw [resourceAt, hDict]
  cases event.resource with
  | none => rfl
  | some resource =>
    change (resourceFromDict resource.toDict).map some = _
    rw [resourceFromDict_toDict]
    rfl

/- A text that may be missing is read back. -/
theorem text?_nullable
    (value : Option String) :
    text? (nullable value) = value := by
  cases value <;> rfl

/- Texts in a list are read back. -/
theorem filterMap_text?_str
    (texts : List String) :
    (texts.map Json.str).filterMap text? = texts := by
  induction texts with
  | nil => rfl
  | cons first rest ih =>
    rw [List.map_cons,
      List.filterMap_cons_some (text?_str first), ih]

/- The event is read back, its signed part as said. -/
theorem eventFromDict_toDict
    (event : StoredEvent) :
    eventFromDict event.toDict =
      some
        { toAuditEvent := event.toAuditEvent.rebuilt
          severity := event.severity
          context := contextAt event.toDict
          message := event.message
          tags := event.tags } := by
  have hActor :
      dictAt event.toDict "actor" = event.actor.toDict := by
    simp [dictAt, StoredEvent.toDict, List.lookup_cons]
  have hDetails :
      dictAt event.toDict "details" = event.details := by
    simp [dictAt, StoredEvent.toDict, List.lookup_cons]
  have hTags : textsAt event.toDict "tags" = event.tags :=
    filterMap_text?_str event.tags
  unfold eventFromDict
  rw [resourceAt_toDict, hActor, hDetails, hTags,
    actorFromDict_toDict]
  simp [textAt, StoredEvent.toDict, List.lookup_cons,
    text?_nullable, AuditEvent.rebuilt]

--------
-- Signatures
--------

variable {hmacHex : String → String}

/- An actor with nothing in the fields that are not read. -/
def AuditActor.Kept (actor : AuditActor) : Prop :=
  actor.email = none ∧ actor.sessionId = none ∧
    actor.roles = []

/- The texts that are left out are not signed either. -/
theorem AuditResource.toJson_rebuilt
    (resource : AuditResource) :
    resource.rebuilt.toJson = resource.toJson := by
  have hFilter :
      ∀ (key : String) (value : Option String),
        filledEntryOf key
            (value.filter (fun text => text ≠ "")) =
          filledEntryOf key value := by
    intro key value
    cases value with
    | none => rfl
    | some text =>
      by_cases hText : text = "" <;>
        simp [filledEntryOf, hText]
  simp only [AuditResource.toJson, AuditResource.rebuilt,
    hFilter]
  rfl

/- What is hashed of the event that is read back. -/
theorem AuditEvent.canonical_rebuilt
    (event : AuditEvent) :
    event.rebuilt.canonical =
      { event with actor := event.actor.rebuilt }.canonical := by
  cases hResource : event.resource <;>
    simp [AuditEvent.canonical, AuditEvent.rebuilt, hResource,
      AuditResource.toJson_rebuilt]

/- What is hashed of an actor shows the fields not read. -/
theorem AuditActor.fields_toJson
    {actor : AuditActor}
    {entries : List (String × Json)}
    (hEq : actor.toJson = .obj entries) :
    textAt entries "email" = actor.email ∧
      textAt entries "session_id" = actor.sessionId ∧
      textsAt entries "roles" = actor.roles := by
  rw [← Json.obj.inj hEq]
  refine ⟨?_, ?_, ?_⟩
  · simp [textAt, List.lookup_cons, lookup_entryOf,
      lookup_entryOf_last, bind_text?_map_str]
  · simp [textAt, List.lookup_cons, lookup_entryOf,
      lookup_entryOf_last, bind_text?_map_str]
  · refine Eq.trans ?_ (filterMap_text?_str actor.roles)
    simp [textsAt, List.lookup_cons, lookup_entryOf]

/- What is hashed of an actor stays if nothing is dropped. -/
theorem AuditActor.toJson_rebuilt_iff
    (actor : AuditActor) :
    actor.rebuilt.toJson = actor.toJson ↔ actor.Kept := by
  constructor
  · intro hEq
    rcases @fields_toJson actor _ rfl with
      ⟨hEmail, hSession, hRoles⟩
    rcases fields_toJson hEq with ⟨hNone, hNone', hNil⟩
    exact ⟨hEmail.symm.trans hNone,
      hSession.symm.trans hNone', hRoles.symm.trans hNil⟩
  · rintro ⟨hEmail, hSession, hRoles⟩
    have hSame : actor.rebuilt = actor := by
      cases actor
      simp_all [AuditActor.rebuilt]
    rw [hSame]

/- The hash stays if nothing of the actor is dropped. -/
theorem computeHash_rebuilt_iff
    (hInjective : Function.Injective hmacHex)
    (event : AuditEvent) :
    computeHash hmacHex event.rebuilt =
        computeHash hmacHex event ↔
      event.actor.Kept := by
  rw [← AuditActor.toJson_rebuilt_iff]
  constructor
  · intro hEq
    have hFind :=
      congrArg (fun entries => List.lookup "actor" entries)
        (canonical_eq_of_computeHash_eq hInjective hEq)
    exact Option.some.inj hFind
  · intro hActor
    rw [computeHash, computeHash, AuditEvent.canonical_rebuilt]
    simp only [AuditEvent.canonical, hActor]

/- What the verifier answers on the event that is read back. -/
theorem verifyRebuilt_eq
    (event : StoredEvent) :
    verifyRebuilt hmacHex event =
      some (verifyEvent hmacHex
        event.toAuditEvent.rebuilt) := by
  rw [verifyRebuilt, eventFromDict_toDict]
  rfl

/- The verifier accepts an event just under its own hash. -/
theorem computeHash_eq_of_verifyEvent
    {event : AuditEvent}
    {hash : String}
    (hHash : event.integrityHash = some hash)
    (hVerify : verifyEvent hmacHex event = true) :
    computeHash hmacHex event = hash := by
  rw [verifyEvent, hHash] at hVerify
  exact (beq_iff_eq.mp (Bool.and_eq_true_iff.mp hVerify).2).symm

/- An event as `sign_event` leaves it. -/
def StoredEvent.signed
    (hmacHex : String → String)
    (lastHash : Option String)
    (event : StoredEvent) : StoredEvent :=
  { event with
    toAuditEvent := signEvent hmacHex lastHash
      event.toAuditEvent }

/- An event of an actor that is read back keeps its answer. -/
theorem verifyRebuilt_of_kept
    (hInjective : Function.Injective hmacHex)
    {event : StoredEvent}
    (hKept : event.actor.Kept) :
    verifyRebuilt hmacHex event =
      some (verifyEvent hmacHex event.toAuditEvent) := by
  have hHash :=
    (computeHash_rebuilt_iff hInjective
      event.toAuditEvent).mpr hKept
  rw [verifyRebuilt_eq, verifyEvent, verifyEvent, hHash]
  rfl

/- A signed event that keeps its answer keeps its actor. -/
theorem kept_of_verifyRebuilt
    (hInjective : Function.Injective hmacHex)
    (hDigest : ∀ text, hmacHex text ≠ "")
    {lastHash : Option String}
    {event : StoredEvent}
    (hSame :
      verifyRebuilt hmacHex (event.signed hmacHex lastHash) =
        some (verifyEvent hmacHex
          (event.signed hmacHex lastHash).toAuditEvent)) :
    event.actor.Kept := by
  have hVerify :=
    ((@continues_signEvent hmacHex hDigest lastHash lastHash
      event.toAuditEvent).mpr rfl).2
  change _ = some (verifyEvent hmacHex (signEvent hmacHex
    lastHash event.toAuditEvent)) at hSame
  rw [verifyRebuilt_eq, hVerify, Option.some.injEq] at hSame
  exact (computeHash_rebuilt_iff hInjective
    (event.signed hmacHex lastHash).toAuditEvent).mp
      (computeHash_eq_of_verifyEvent rfl hSame)

/-
  A signed event that is read back from its dictionary gets
  the answer of the event itself just when its actor has
  nothing in the fields that are not read; any event of such
  an actor does, whatever hash it carries.
-/
theorem verifyRebuilt_signed_iff
    (hmacHex : String → String)
    (hInjective : Function.Injective hmacHex)
    (hDigest : ∀ text, hmacHex text ≠ "")
    (lastHash : Option String)
    (event : StoredEvent) :
    (verifyRebuilt hmacHex (event.signed hmacHex lastHash) =
        some (verifyEvent hmacHex
          (event.signed hmacHex lastHash).toAuditEvent) ↔
      event.actor.Kept) ∧
      (event.actor.Kept →
        verifyRebuilt hmacHex event =
          some (verifyEvent hmacHex event.toAuditEvent)) := by
  refine ⟨⟨?_, ?_⟩, ?_⟩
  · exact kept_of_verifyRebuilt hInjective hDigest
  · intro hKept
    exact @verifyRebuilt_of_kept hmacHex hInjective
      (event.signed hmacHex lastHash) hKept
  · exact verifyRebuilt_of_kept hInjective

/- The erasure, by an actor with or without an address. -/
def storedErasure (email : Option String) : StoredEvent where
  toAuditEvent :=
    { erasure "1" with
      actor := { (erasure "1").actor with email := email } }
  severity := "warning"
  context := none
  message := none
  tags := []

/- Without an address the signature survives. -/
theorem verifyRebuilt_signed_erasure :
    verifyRebuilt taggedHmac
        ((storedErasure none).signed taggedHmac none) =
      some (verifyEvent taggedHmac
        ((storedErasure none).signed taggedHmac
          none).toAuditEvent) :=
  (verifyRebuilt_signed_iff taggedHmac taggedHmac_injective
    taggedHmac_ne_empty none (storedErasure none)).1.mpr
      ⟨rfl, rfl, rfl⟩

/- With an address it is lost. -/
theorem not_verifyRebuilt_signed :
    ¬ ∀ (hmacHex : String → String)
        (lastHash : Option String)
        (event : StoredEvent),
      Function.Injective hmacHex →
        (∀ text, hmacHex text ≠ "") →
          verifyRebuilt hmacHex
              (event.signed hmacHex lastHash) =
            some (verifyEvent hmacHex
              (event.signed hmacHex lastHash).toAuditEvent) :=
    by
  intro hAll
  have hSame :=
    hAll taggedHmac none (storedErasure (some "dpo@farm.test"))
      taggedHmac_injective taggedHmac_ne_empty
  have hKept :=
    kept_of_verifyRebuilt taggedHmac_injective
      taggedHmac_ne_empty hSame
  cases hKept.1

end AuditLogging

end RegEngine
