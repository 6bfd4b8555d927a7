import RegEngine.Library.Json

/-
  The shared audit logger (`shared/audit_logging`): the
  signature of an event, the calls of `log` with what the
  store answers, and the verifier of the stored events.

  Main declarations:
    * `AuditLogging.computeHash`
    * `AuditLogging.signEvent`
    * `AuditLogging.Unbroken`
    * `AuditLogging.verifyAuditChain_run_iff`
-/

--------
-- Events
--------

namespace RegEngine

namespace AuditLogging

/- Who performs the action. -/
structure AuditActor where
  actorId : String
  actorType : String
  username : Option String
  email : Option String
  ipAddress : Option String
  userAgent : Option String
  sessionId : Option String
  tenantId : Option String
  roles : List String

/- What is acted upon. -/
structure AuditResource where
  resourceType : String
  resourceId : String
  resourceName : Option String
  tenantId : Option String
  attributes : List (String × Json)

/- An audit event, with its time as `isoformat` writes it. -/
structure AuditEvent where
  eventId : String
  timestamp : String
  eventType : String
  category : String
  actor : AuditActor
  action : String
  outcome : String
  resource : Option AuditResource
  details : List (String × Json)
  integrityHash : Option String
  previousHash : Option String

def entryOf (key : String) (value : Option String) :
    List (String × Json) :=
  value.toList.map (fun text => (key, .str text))

/- The entry of a text that is there and not empty. -/
def filledEntryOf (key : String) (value : Option String) :
    List (String × Json) :=
  entryOf key (value.filter (fun text => text ≠ ""))

/- A text, or `null`. -/
def nullable : Option String → Json
| none => .scalar .null
| some text => .str text

/- `AuditActor.to_dict`, in the order of `sort_keys`. -/
def AuditActor.toJson (actor : AuditActor) : Json :=
  .obj
    ([("actor_id", .str actor.actorId),
        ("actor_type", .str actor.actorType)] ++
      entryOf "email" actor.email ++
      entryOf "ip_address" actor.ipAddress ++
      [("roles", .arr (actor.roles.map .str))] ++
      entryOf "session_id" actor.sessionId ++
      entryOf "tenant_id" actor.tenantId ++
      entryOf "user_agent" actor.userAgent ++
      entryOf "username" actor.username)

/- `AuditResource.to_dict`, in the order of `sort_keys`. -/
def AuditResource.toJson (resource : AuditResource) : Json :=
  .obj
    ((if resource.attributes.isEmpty then []
      else
        [("attributes",
          (Json.obj resource.attributes).sortKeys)]) ++
      [("resource_id", .str resource.resourceId)] ++
      filledEntryOf "resource_name" resource.resourceName ++
      [("resource_type", .str resource.resourceType)] ++
      filledEntryOf "tenant_id" resource.tenantId)

/- What is hashed, in the order of `sort_keys`. -/
def AuditEvent.canonical (event : AuditEvent) :
    List (String × Json) :=
  [("action", .str event.action),
      ("actor", event.actor.toJson),
      ("category", .str event.category)] ++
    (if event.details.isEmpty then []
      else
        [("details", (Json.obj event.details).sortKeys)]) ++
    [("event_id", .str event.eventId),
      ("event_type", .str event.eventType),
      ("outcome", .str event.outcome),
      ("previous_hash", nullable event.previousHash)] ++
    event.resource.toList.map (fun resource =>
      ("resource", resource.toJson)) ++
    [("timestamp", .str event.timestamp)]

/- `compute_hash`, under the key of the checker. -/
def computeHash (hmacHex : String → String)
    (event : AuditEvent) : String :=
  hmacHex (Json.dumpsUnsorted (.obj event.canonical))

/- `verify_event`. -/
def verifyEvent (hmacHex : String → String)
    (event : AuditEvent) : Bool :=
  match event.integrityHash with
  | none => false
  | some hash => hash ≠ "" && hash == computeHash hmacHex event

--------
-- The Logger
--------

/-
  The last hash of a process that signs events, and the events
  of the store.
-/
structure AuditState where
  lastHash : Option String
  stored : List AuditEvent

/- A store and a process that has signed nothing. -/
def AuditState.initial : AuditState :=
  ⟨none, []⟩

/- An event of a call, before it is signed. -/
def AuditEvent.linked
    (event : AuditEvent)
    (lastHash : Option String) : AuditEvent :=
  { event with previousHash := lastHash }

/- `sign_event`; the hash is the new last one. -/
def signEvent
    (hmacHex : String → String)
    (lastHash : Option String)
    (event : AuditEvent) : AuditEvent :=
  { event.linked lastHash with
    integrityHash :=
      some (computeHash hmacHex (event.linked lastHash)) }

/-
  `log`: the event is signed, then handed to the store, and
  the call raises when the store does not take it.
-/
def log
    (hmacHex : String → String)
    (persists : Bool)
    (event : AuditEvent)
    (state : AuditState) :
    Except String AuditEvent × AuditState :=
  let signed := signEvent hmacHex state.lastHash event
  if persists then
    (.ok signed,
      { lastHash := signed.integrityHash
        stored := state.stored ++ [signed] })
  else
    (.error ("audit event " ++ signed.eventId ++
        " was not persisted (storage backend returned False)"),
      { state with lastHash := signed.integrityHash })

/- A call, with what the store does, or a new process. -/
inductive LogAction where
  | log (event : AuditEvent) (persists : Bool)
  | restart

def act (hmacHex : String → String) (state : AuditState) :
    LogAction → AuditState
| .log event persists => (log hmacHex persists event state).2
| .restart => { state with lastHash := none }

def run
    (hmacHex : String → String)
    (state : AuditState)
    (actions : List LogAction) : AuditState :=
  actions.foldl (act hmacHex) state

--------
-- The Verifier
--------

/- What is wrong with an entry. -/
inductive ChainIssue where
  | missingIntegrityHash
  | chainLinkBroken (expected actual : Option String)
  | hashMismatch
  deriving DecidableEq

/- An item of `tampered_entries`. -/
structure TamperedEntry where
  eventId : String
  index : Nat
  issue : ChainIssue
  deriving DecidableEq

/- What `verify_audit_chain` returns. -/
structure ChainReport where
  totalEntries : Nat
  isValid : Bool
  tamperedEntries : List TamperedEntry
  deriving DecidableEq

def linkIssues
    (previousHash : Option String)
    (event : AuditEvent) : List ChainIssue :=
  if event.previousHash = previousHash then []
  else [.chainLinkBroken previousHash event.previousHash]

def hashIssues
    (hmacHex : String → String)
    (event : AuditEvent) : List ChainIssue :=
  if verifyEvent hmacHex event then [] else [.hashMismatch]

/- The loop of `verify_audit_chain`. -/
def tamperedFrom (hmacHex : String → String) :
    Option String → Nat → List AuditEvent → List TamperedEntry
| _, _, [] => []
| previousHash, index, event :: rest =>
    if event.integrityHash.getD "" = "" then
      ⟨event.eventId, index, .missingIntegrityHash⟩ ::
        tamperedFrom hmacHex none (index + 1) rest
    else
      (linkIssues previousHash event ++
          hashIssues hmacHex event).map
          (fun issue => ⟨event.eventId, index, issue⟩) ++
        tamperedFrom hmacHex event.integrityHash (index + 1)
          rest

/- `verify_audit_chain`. -/
def verifyAuditChain
    (hmacHex : String → String)
    (events : List AuditEvent) : ChainReport :=
  let tampered := tamperedFrom hmacHex none 0 events
  { totalEntries := events.length
    isValid := tampered.isEmpty
    tamperedEntries := tampered }

--------
-- Accepted Chains
--------

variable {hmacHex : String → String}

/- An event that goes on a chain. -/
def Continues
    (hmacHex : String → String)
    (previousHash : Option String)
    (event : AuditEvent) : Prop :=
  event.previousHash = previousHash ∧
    verifyEvent hmacHex event = true

/- Events that go on a chain one after another. -/
def Accepted (hmacHex : String → String) :
    Option String → List AuditEvent → Prop
| _, [] => True
| previousHash, event :: rest =>
    Continues hmacHex previousHash event ∧
      Accepted hmacHex event.integrityHash rest

theorem integrityHash_ne_of_verifyEvent
    {event : AuditEvent}
    (hVerify : verifyEvent hmacHex event = true) :
    event.integrityHash.getD "" ≠ "" := by
  unfold verifyEvent at hVerify
  cases hHash : event.integrityHash with
  | none =>
    rw [hHash] at hVerify
    cases hVerify
  | some hash =>
    rw [hHash] at hVerify
    simp only [Bool.and_eq_true, decide_eq_true_eq] at hVerify
    exact hVerify.1

variable {previousHash : Option String}
variable {inLine anyStored : Bool} {state : AuditState}

/- The loop reports nothing just on accepted events. -/
theorem tamperedFrom_eq_nil_iff
    {index : Nat}
    {events : List AuditEvent} :
    tamperedFrom hmacHex previousHash index events = [] ↔
      Accepted hmacHex previousHash events := by
  induction events generalizing previousHash index with
  | nil => simp [tamperedFrom, Accepted]
  | cons event rest ih =>
    unfold tamperedFrom Accepted Continues
    by_cases hHash : event.integrityHash.getD "" = ""
    · rw [if_pos hHash]
      constructor
      · intro hNil
        cases hNil
      · rintro ⟨⟨-, hVerify⟩, -⟩
        exact absurd hHash
          (integrityHash_ne_of_verifyEvent hVerify)
    · rw [if_neg hHash, List.append_eq_nil_iff, ih,
        List.map_eq_nil_iff, List.append_eq_nil_iff]
      simp [linkIssues, hashIssues]

/- The verifier accepts just accepted events. -/
theorem verifyAuditChain_isValid_iff
    {events : List AuditEvent} :
    (verifyAuditChain hmacHex events).isValid = true ↔
      Accepted hmacHex none events := by
  simp only [verifyAuditChain, List.isEmpty_iff]
  exact tamperedFrom_eq_nil_iff

/- The hash that the next event has to name. -/
def endHash
    (previousHash : Option String)
    (events : List AuditEvent) : Option String :=
  match events.getLast? with
  | none => previousHash
  | some last => last.integrityHash

/- One more event is accepted when it goes on the chain. -/
theorem accepted_concat_iff
    {events : List AuditEvent}
    {event : AuditEvent} :
    Accepted hmacHex previousHash (events ++ [event]) ↔
      Accepted hmacHex previousHash events ∧
        Continues hmacHex (endHash previousHash events)
          event := by
  induction events generalizing previousHash with
  | nil => simp [Accepted, endHash]
  | cons first rest ih =>
    rw [List.cons_append, Accepted, ih, Accepted, and_assoc]
    cases rest with
    | nil => rfl
    | cons second later =>
      simp only [endHash, List.getLast?_cons_cons]
      rw [List.getLast?_eq_some_getLast (by simp)]

/- A front of accepted events is accepted. -/
theorem Accepted.of_append
    {events more : List AuditEvent}
    (hAccepted :
      Accepted hmacHex previousHash (events ++ more)) :
    Accepted hmacHex previousHash events := by
  induction events generalizing previousHash with
  | nil => trivial
  | cons first rest ih =>
    exact ⟨hAccepted.1, ih hAccepted.2⟩

--------
-- Runs
--------

/-
  Every call that is stored finds the process in line with the
  store: since the call stored before it, or since the last
  start while nothing is stored, no call has failed, and no
  process has started behind a stored call.
-/
def Unbroken : Bool → Bool → List LogAction → Prop
| _, _, [] => True
| inLine, _, .log _ true :: rest =>
    inLine = true ∧ Unbroken true true rest
| _, anyStored, .log _ false :: rest =>
    Unbroken false anyStored rest
| _, anyStored, .restart :: rest =>
    Unbroken (!anyStored) anyStored rest

/- The ids that the calls of a run give to their events. -/
def eventIds (actions : List LogAction) : List String :=
  actions.filterMap (fun action =>
    match action with
    | .log event _ => some event.eventId
    | .restart => none)

/- The store and the process in the middle of a run. -/
structure Standing
    (hmacHex : String → String)
    (inLine anyStored : Bool)
    (state : AuditState) : Prop where
  anyStored : anyStored = !state.stored.isEmpty
  inLine :
    inLine = true ↔
      state.lastHash = endHash none state.stored
  signed :
    ∀ event ∈ state.stored,
      event.integrityHash = some (computeHash hmacHex event)

/- A signed event names the last hash and has its own. -/
theorem continues_signEvent
    (hDigest : ∀ text, hmacHex text ≠ "")
    {previousHash lastHash : Option String}
    {event : AuditEvent} :
    Continues hmacHex previousHash
        (signEvent hmacHex lastHash event) ↔
      lastHash = previousHash := by
  have hVerify :
      verifyEvent hmacHex (signEvent hmacHex lastHash event) =
        true := by
    have hSame :
        computeHash hmacHex
            (signEvent hmacHex lastHash event) =
          computeHash hmacHex (event.linked lastHash) := rfl
    have hNe :
        computeHash hmacHex (event.linked lastHash) ≠ "" :=
      hDigest _
    have hHash :
        (signEvent hmacHex lastHash event).integrityHash =
          some (computeHash hmacHex
            (event.linked lastHash)) := rfl
    simp only [verifyEvent, hHash, hSame, ne_eq, hNe,
      not_false_eq_true, decide_true, beq_self_eq_true,
      Bool.and_self]
  exact ⟨fun hContinues => hContinues.1,
    fun hEq => ⟨hEq, hVerify⟩⟩

variable {event event' : AuditEvent}

/- The hash of an event tells what is hashed. -/
theorem canonical_eq_of_computeHash_eq
    (hInjective : Function.Injective hmacHex)
    (hEq :
      computeHash hmacHex event = computeHash hmacHex event') :
    event.canonical = event'.canonical := by
  have hText := congrArg String.toList (hInjective hEq)
  simp only [Json.dumpsUnsorted, String.toList_ofList] at hText
  exact Json.obj.inj (Json.dump_inj Json.spaced_valid hText)

theorem eventId_eq_of_computeHash_eq
    (hInjective : Function.Injective hmacHex)
    (hEq :
      computeHash hmacHex event = computeHash hmacHex event') :
    event.eventId = event'.eventId := by
  have hFind :=
    congrArg (fun entries => List.lookup "event_id" entries)
      (canonical_eq_of_computeHash_eq hInjective hEq)
  have hLookup :
      ∀ event : AuditEvent,
        List.lookup "event_id" event.canonical =
          some (.str event.eventId) := by
    intro event
    unfold AuditEvent.canonical
    cases event.details with
    | nil => rfl
    | cons first rest => rfl
  simp only [hLookup, Option.some.injEq] at hFind
  exact Json.str.inj hFind

/- A stored call leaves the process in line. -/
theorem Standing.log_stored
    (hStanding : Standing hmacHex inLine anyStored state)
    (event : AuditEvent) :
    Standing hmacHex true true
      (log hmacHex true event state).2 := by
  refine ⟨?_, ?_, ?_⟩
  · simp [log]
  · simp [log, endHash]
  · intro stored hMem
    rcases List.mem_append.mp hMem with hOld | hNew
    · exact hStanding.signed stored hOld
    · rw [List.mem_singleton] at hNew
      rw [hNew]
      rfl

/- A failed call leaves the process out of line. -/
theorem Standing.log_failed
    (hInjective : Function.Injective hmacHex)
    (hStanding : Standing hmacHex inLine anyStored state)
    {event : AuditEvent}
    (hNew :
      ∀ stored ∈ state.stored,
        stored.eventId ≠ event.eventId) :
    Standing hmacHex false anyStored
      (log hmacHex false event state).2 := by
  refine ⟨hStanding.anyStored, ?_, hStanding.signed⟩
  constructor
  · intro hFalse
    cases hFalse
  · intro hLast
    change some (computeHash hmacHex
      (event.linked state.lastHash)) =
        endHash none state.stored at hLast
    unfold endHash at hLast
    cases hEnd : state.stored.getLast? with
    | none =>
      rw [hEnd] at hLast
      cases hLast
    | some last =>
      have hMem := List.mem_of_getLast? hEnd
      rw [hEnd] at hLast
      simp only [hStanding.signed last hMem,
        Option.some.injEq] at hLast
      exact absurd
        (eventId_eq_of_computeHash_eq hInjective hLast).symm
        (hNew last hMem)

/- A new process is in line with an empty store only. -/
theorem Standing.restart
    (hStanding : Standing hmacHex inLine anyStored state) :
    Standing hmacHex (!anyStored) anyStored
      (act hmacHex state .restart) := by
  refine ⟨hStanding.anyStored, ?_, hStanding.signed⟩
  rw [hStanding.anyStored, Bool.not_not, List.isEmpty_iff]
  change state.stored = [] ↔
    none = endHash none state.stored
  unfold endHash
  cases hEnd : state.stored.getLast? with
  | none =>
    rw [List.getLast?_eq_none_iff] at hEnd
    simp [hEnd]
  | some last =>
    have hMem := List.mem_of_getLast? hEnd
    simp only [hStanding.signed last hMem]
    constructor
    · intro hEmpty
      rw [hEmpty] at hMem
      exact absurd hMem List.not_mem_nil
    · intro hNone
      cases hNone

/- A run takes nothing from the store. -/
theorem stored_prefix_run
    (state : AuditState)
    (actions : List LogAction) :
    state.stored <+: (run hmacHex state actions).stored := by
  induction actions generalizing state with
  | nil => exact List.prefix_rfl
  | cons action rest ih =>
    refine List.IsPrefix.trans ?_ (ih (act hmacHex state action))
    cases action with
    | log event persists =>
      cases persists with
      | true => exact List.prefix_append _ _
      | false => exact List.prefix_rfl
    | restart => exact List.prefix_rfl

/- What the rest of a run does to an accepted store. -/
theorem accepted_run_iff
    (hInjective : Function.Injective hmacHex)
    (hDigest : ∀ text, hmacHex text ≠ "")
    {actions : List LogAction}
    (hStanding : Standing hmacHex inLine anyStored state)
    (hIds : (eventIds actions).Nodup)
    (hFresh :
      ∀ stored ∈ state.stored,
        stored.eventId ∉ eventIds actions)
    (hAccepted : Accepted hmacHex none state.stored) :
    Accepted hmacHex none (run hmacHex state actions).stored ↔
      Unbroken inLine anyStored actions := by
  induction actions generalizing inLine anyStored state with
  | nil => exact iff_of_true hAccepted trivial
  | cons action rest ih =>
    cases action with
    | restart =>
      exact ih hStanding.restart hIds hFresh hAccepted
    | log event persists =>
      have hParts : event.eventId ∉ eventIds rest ∧
          (eventIds rest).Nodup := List.nodup_cons.mp hIds
      have hOld :
          ∀ stored ∈ state.stored,
            stored.eventId ≠ event.eventId ∧
              stored.eventId ∉ eventIds rest := by
        intro stored hMem
        have hNot : stored.eventId ∉
            event.eventId :: eventIds rest :=
          hFresh stored hMem
        rw [List.mem_cons, not_or] at hNot
        exact hNot
      cases persists with
      | false =>
        exact ih
          (hStanding.log_failed hInjective
            (fun stored hMem => (hOld stored hMem).1))
          hParts.2 (fun stored hMem => (hOld stored hMem).2)
          hAccepted
      | true =>
        have hNext :
            Accepted hmacHex none
                (log hmacHex true event state).2.stored ↔
              inLine = true := by
          change Accepted hmacHex none
            (state.stored ++
              [signEvent hmacHex state.lastHash event]) ↔ _
          rw [accepted_concat_iff,
            continues_signEvent hDigest, ← hStanding.inLine]
          exact and_iff_right hAccepted
        have hFresh' :
            ∀ stored ∈
                (log hmacHex true event state).2.stored,
              stored.eventId ∉ eventIds rest := by
          intro stored hMem
          rcases List.mem_append.mp hMem with hIn | hNew
          · exact (hOld stored hIn).2
          · rw [List.mem_singleton] at hNew
            rw [hNew]
            exact hParts.1
        constructor
        · intro hRun
          have hPrefix :
              (log hmacHex true event state).2.stored <+:
                (run hmacHex (log hmacHex true event state).2
                  rest).stored := stored_prefix_run _ _
          rcases hPrefix with ⟨more, hMore⟩
          have hFront : Accepted hmacHex none
              (log hmacHex true event state).2.stored := by
            have hAll : Accepted hmacHex none
                ((log hmacHex true event state).2.stored ++
                  more) := by
              rw [hMore]
              exact hRun
            exact hAll.of_append
          exact ⟨hNext.mp hFront,
            (ih (hStanding.log_stored event) hParts.2 hFresh'
              hFront).mp hRun⟩
        · rintro ⟨hLine, hRest⟩
          exact (ih (hStanding.log_stored event) hParts.2
            hFresh' (hNext.mpr hLine)).mpr hRest

/-
  The stored events of a run are accepted exactly when every
  stored call found the process in line with the store.
-/
theorem verifyAuditChain_run_iff
    (hInjective : Function.Injective hmacHex)
    (hDigest : ∀ text, hmacHex text ≠ "")
    {actions : List LogAction}
    (hIds : (eventIds actions).Nodup) :
    (verifyAuditChain hmacHex
        (run hmacHex .initial actions).stored).isValid = true ↔
      Unbroken true false actions := by
  rw [verifyAuditChain_isValid_iff]
  apply accepted_run_iff hInjective hDigest ?_ hIds
  · intro stored hMem
    exact absurd hMem List.not_mem_nil
  · trivial
  · refine ⟨rfl, ?_, ?_⟩
    · exact iff_of_true rfl rfl
    · intro stored hMem
      exact absurd hMem List.not_mem_nil

/- A digest that keeps the text it is of. -/
def taggedHmac (text : String) : String :=
  "#" ++ text

/- An erasure of a person's data. -/
def erasure (eventId : String) : AuditEvent where
  eventId := eventId
  timestamp := "2026-01-02T00:00:00+00:00"
  eventType := "data_delete"
  category := "data_modification"
  actor :=
    { actorId := "dpo"
      actorType := "user"
      username := none
      email := none
      ipAddress := none
      userAgent := none
      sessionId := none
      tenantId := some "tenant"
      roles := [] }
  action := "erase"
  outcome := "success"
  resource := none
  details := []
  integrityHash := none
  previousHash := none

/- Different texts have different tagged digests. -/
theorem taggedHmac_injective :
    Function.Injective taggedHmac := by
  intro text text' hEq
  have hChars := congrArg String.toList hEq
  simp only [taggedHmac, String.toList_append] at hChars
  exact String.toList_inj.mp (List.append_cancel_left hChars)

theorem taggedHmac_ne_empty
    (text : String) :
    taggedHmac text ≠ "" := by
  intro hEq
  have hChars := congrArg String.toList hEq
  simp only [taggedHmac, String.toList_append] at hChars
  cases hChars

/- Two calls that are stored, before a third one fails. -/
theorem verifyAuditChain_run_erasures :
    (verifyAuditChain taggedHmac
        (run taggedHmac .initial
          [.log (erasure "1") true, .log (erasure "2") true,
            .log (erasure "3") false]).stored).isValid = true ↔
      Unbroken true false
        [.log (erasure "1") true, .log (erasure "2") true,
          .log (erasure "3") false] :=
  verifyAuditChain_run_iff taggedHmac_injective
    taggedHmac_ne_empty (by decide)

/-
  A call that the store does not take, and one that it takes:
  the stored event names the hash of the one that is lost.
-/
theorem not_verifyAuditChain_run :
    ¬ ∀ (hmacHex : String → String)
        (actions : List LogAction),
      Function.Injective hmacHex →
        (∀ text, hmacHex text ≠ "") →
          (eventIds actions).Nodup →
            (verifyAuditChain hmacHex
              (run hmacHex .initial actions).stored).isValid =
                true := by
  intro hAll
  have hValid :=
    hAll taggedHmac
      [.log (erasure "1") false, .log (erasure "2") true]
      taggedHmac_injective taggedHmac_ne_empty (by decide)
  rw [verifyAuditChain_isValid_iff] at hValid
  cases hValid.1.1

end AuditLogging

end RegEngine
