import Mathlib.Logic.Function.Basic
import RegEngine.Library.Json
import RegEngine.Library.Machine

/-
  The idempotency middleware (`shared/idempotency.py`) in closed
  mode: any requests of any tenants, each a sequence of calls to
  Redis and to its handler, and the calls of one between those
  of the others.

  Main declarations:
    * `IdempotencyMiddleware.requestFingerprint`
    * `IdempotencyMiddleware.Cache.Safe`
    * `IdempotencyMiddleware.safe_of_retention`
-/

--------
-- Requests
--------

namespace RegEngine

namespace IdempotencyMiddleware

section

/- `IDEMPOTENCY_TTL_SECONDS`. -/
def idempotencyTtlSeconds : Nat :=
  86400

/-
  A request as the middleware reads it: header names in lower
  case, the tenant that the authenticated context gives, and
  the signing secret that is configured when it comes.
-/
structure Request where
  method : String
  url : String
  path : String
  headers : List (String × String)
  tenantId : Option String
  authorizationFingerprint : Option String
  webhookSecret : Option String
  body : List UInt8
  deriving DecidableEq

/- `request.headers.get(name)`. -/
def Request.header (request : Request) (name : String) :
    Option String :=
  (request.headers.find? (fun entry => entry.1 = name)).map
    Prod.snd

/- `request.url.path` is that of `/auth` or under it. -/
def Request.isAuth (request : Request) : Bool :=
  request.path == "/auth" ||
    "/auth/".isPrefixOf request.path ||
    request.path == "/v1/auth" ||
    "/v1/auth/".isPrefixOf request.path

/- The requests that `dispatch` passes on untouched. -/
def Request.bypasses (request : Request) : Bool :=
  Python.upper request.method ≠ "POST" ||
    (request.header "cookie").isSome ||
    (request.header "authorization").isSome ||
    request.isAuth

/- `_get_cache_key`, where the request is to be cached. -/
def Request.cacheKey (request : Request) : Option String :=
  if request.bypasses then
    none
  else
    match request.header "idempotency-key", request.tenantId with
    | some key, some tenant =>
        if key = "" ∨ 255 < key.length ∨ tenant = "" then
          none
        else
          some ("idempotency:" ++ tenant ++ ":" ++ key)
    | _, _ => none

/- `text.encode()`. -/
def encoded (text : String) : List UInt8 :=
  text.toUTF8.data.toList

/- `request.url.path.rstrip("/")`. -/
def Request.barePath (request : Request) : String :=
  String.ofList
    (request.path.toList.reverse.dropWhile (· = '/')).reverse

/- The texts of `_request_fingerprint` before the body. -/
def Request.fingerprintParts
    (sha256 : List UInt8 → String)
    (request : Request) : List String :=
  [Python.upper request.method,
    request.url,
    (request.header "content-type").getD "",
    (request.header "authorization").getD "",
    (request.header "x-regengine-api-key").getD "",
    (request.header "x-regengine-internal-secret").getD "",
    (request.header "cookie").getD "",
    request.authorizationFingerprint.getD ""] ++
  if request.barePath = "/api/v1/webhooks/ingest" then
    [(request.header "x-webhook-signature").getD "",
      sha256 (encoded
        (Python.strip (request.webhookSecret.getD "")))]
  else
    []

/- `_request_fingerprint`. -/
def requestFingerprint
    (sha256 : List UInt8 → String)
    (request : Request) : String :=
  sha256
    (encoded (Json.dumpsUnsorted
      (.arr ((request.fingerprintParts sha256).map .str))) ++
        request.body)

--------
-- Responses And Their Cached Form
--------

/- A response with its header lines. -/
structure Response where
  status : Nat
  body : List UInt8
  headers : List (String × String)
  deriving DecidableEq

def Response.isSuccess (response : Response) : Bool :=
  200 ≤ response.status && response.status < 300

/- `dict(response.headers)`: the first line of each name. -/
def dictOf (headers : List (String × String)) :
    List (String × String) :=
  headers.foldl
    (fun dict line =>
      if dict.any (fun entry => entry.1 == line.1) then dict
      else dict ++ [line])
    []

/- The response that is given for the one of the handler. -/
def Response.rebuilt (response : Response) : Response :=
  { response with headers := dictOf response.headers }

/- `body.decode("latin1")`. -/
def decodeLatin1 (body : List UInt8) : String :=
  String.ofList (body.map (fun byte => Char.ofNat byte.toNat))

/- `text.encode("latin1")`, when all characters fit. -/
def encodeLatin1 (text : String) : Option (List UInt8) :=
  text.toList.mapM (fun c =>
    if c.toNat < 256 then some (UInt8.ofNat c.toNat) else none)

/-
  The documents under a key; a document and its JSON text
  determine one another.
-/
inductive Cached where
  | reservation (fingerprint : String) (owner : String)
  | response
      (fingerprint : String)
      (status : Nat)
      (body : String)
      (headers : List (String × String))
  deriving DecidableEq

def Response.payload
    (response : Response)
    (fingerprint : String) : Cached :=
  .response fingerprint response.status
    (decodeLatin1 response.body) (dictOf response.headers)

/- How a request ends. -/
inductive Answer where
  | error (status : Nat) (code : String)
  | raised
  | responded (response : Response)
  | replayed (response : Response)
  deriving DecidableEq

/- `idempotency_backend_unavailable`. -/
def unavailable : Answer :=
  .error 503 "idempotency_backend_unavailable"

/-
  What a request is told by a document under its key; a body
  that does not encode is an exception like those of Redis.
-/
def readCached (fingerprint : String) : Cached → Answer
| .reservation other _ =>
    if other ≠ fingerprint then
      .error 409 "idempotency_key_conflict"
    else
      .error 409 "idempotency_request_in_progress"
| .response other status body headers =>
    if other ≠ fingerprint then
      .error 409 "idempotency_key_conflict"
    else
      match encodeLatin1 body with
      | some bytes => .replayed ⟨status, bytes, headers⟩
      | none => unavailable

/- Every byte comes back from its character. -/
theorem encodeLatin1_decodeLatin1
    (body : List UInt8) :
    encodeLatin1 (decodeLatin1 body) = some body := by
  unfold encodeLatin1 decodeLatin1
  rw [String.toList_ofList]
  induction body with
  | nil => rfl
  | cons byte rest ih =>
    have hLt : byte.toNat < 256 := byte.toNat_lt
    have hValid : byte.toNat.isValidChar := Or.inl (by omega)
    have hChar : (Char.ofNat byte.toNat).toNat = byte.toNat := by
      rw [Char.ofNat, dif_pos hValid]
      rfl
    rw [List.map_cons, List.mapM_cons, hChar, if_pos hLt, ih]
    simp

/- A payload is read back as the response it was made for. -/
theorem readCached_payload
    (fingerprint other : String)
    (response : Response) :
    readCached fingerprint (response.payload other) =
      if other ≠ fingerprint then
        .error 409 "idempotency_key_conflict"
      else
        .replayed response.rebuilt := by
  simp only [Response.payload, readCached,
    encodeLatin1_decodeLatin1]
  rfl

--------
-- Requests Under Way
--------

/-
  The requests, the token `uuid4().hex` that each puts into
  its reservation, and the hash.
-/
structure Setting (ω : Type) where
  sha256 : List UInt8 → String
  requests : ω → Request
  token : ω → String

/- The cache key of a request. -/
def Setting.key {ω : Type} (S : Setting ω) (r : ω) :
    Option String :=
  (S.requests r).cacheKey

def Setting.fingerprint {ω : Type} (S : Setting ω) (r : ω) :
    String :=
  requestFingerprint S.sha256 (S.requests r)

def Setting.reservation {ω : Type} (S : Setting ω) (r : ω) :
    Cached :=
  .reservation (S.fingerprint r) (S.token r)

/-
  A key in Redis. Whose document it is is recorded by the
  token, and no step asks for it.
-/
structure Entry where
  cached : Cached
  owner : String
  expiresAt : Nat
  deriving DecidableEq

/- The writes to Redis. -/
inductive Command (ω : Type) where
  | reserve (request : ω)
  | release (request : ω)
  | publish (request : ω) (response : Response)
  deriving DecidableEq

def Command.request {ω : Type} : Command ω → ω
| .reserve r => r
| .release r => r
| .publish r _ => r

/- How far a request has come. -/
inductive Phase where
  | arrived
  | reserving
  | rereading
  | passing
  | handling
  | releasing (response : Response)
  | publishing (response : Response)
  | answered (answer : Answer)
  | died
  deriving DecidableEq

/-
  The clock in seconds, the keys, the writes whose callers
  have no reply and which may take effect at any time, how far
  the requests have come, and what their handlers ended in.
-/
structure Cache (ω : Type) where
  clock : Nat
  entries : String → Option Entry
  adrift : List (Command ω)
  phase : ω → Phase
  handled : ω → Option Response

/-
  What happens. A request that comes to nothing before the
  cache is refused; a call to Redis whose reply is lost is
  adrift, its caller gives it up or dies; a write that is
  adrift lands.
-/
inductive Action (ω : Type) where
  | pass (seconds : Nat)
  | refuse (request : ω) (status : Nat) (code : String)
  | bypass (request : ω)
  | get (request : ω)
  | set (request : ω)
  | getAgain (request : ω)
  | respond (request : ω) (response : Response)
  | raises (request : ω)
  | release (request : ω)
  | publish (request : ω)
  | drift (request : ω)
  | giveUp (request : ω)
  | die (request : ω)
  | land (command : Command ω)
  deriving DecidableEq

variable {ω : Type}

/- A key, unless it has expired. -/
def Cache.live (s : Cache ω) (key : String) : Option Entry :=
  (s.entries key).filter (fun entry =>
    s.clock < entry.expiresAt)

/- A document is put under a key for the retention period. -/
def Cache.put
    (s : Cache ω)
    (key : String)
    (cached : Cached)
    (owner : String) : Cache ω :=
  { s with
    entries := Function.update s.entries key
      (some ⟨cached, owner, s.clock + idempotencyTtlSeconds⟩) }

/- A key is deleted. -/
def Cache.delete (s : Cache ω) (key : String) : Cache ω :=
  { s with entries := Function.update s.entries key none }

/- What is under a key is the reservation of a request. -/
def Cache.holds
    (S : Setting ω)
    (s : Cache ω)
    (key : String)
    (r : ω) : Bool :=
  (s.live key).map Entry.cached == some (S.reservation r)

/-
  A write takes effect: `SET NX EX`, and the two scripts that
  compare with the own reservation first.
-/
def Cache.exec
    (S : Setting ω)
    (s : Cache ω) : Command ω → Cache ω
| .reserve r =>
    match S.key r with
    | none => s
    | some key =>
        if (s.live key).isNone then
          s.put key (S.reservation r) (S.token r)
        else
          s
| .release r =>
    match S.key r with
    | none => s
    | some key => if s.holds S key r then s.delete key else s
| .publish r response =>
    match S.key r with
    | none => s
    | some key =>
        if s.holds S key r then
          s.put key (response.payload (S.fingerprint r))
            (S.token r)
        else
          s

/- The write a request waits for, if it waits for one. -/
def Phase.command (r : ω) : Phase → Option (Command ω)
| .reserving => some (.reserve r)
| .releasing _ => some (.release r)
| .publishing response => some (.publish r response)
| _ => none

variable [DecidableEq ω]

/- A request comes to another phase. -/
def Cache.move (s : Cache ω) (r : ω) (phase : Phase) :
    Cache ω :=
  { s with phase := Function.update s.phase r phase }

/- What a request does with the reply to a read. -/
def Cache.afterRead
    (S : Setting ω)
    (s : Cache ω)
    (r : ω)
    (absent : Phase) : Cache ω :=
  match S.key r with
  | none => s
  | some key =>
      match s.live key with
      | none => s.move r absent
      | some entry =>
          s.move r
            (.answered
              (readCached (S.fingerprint r) entry.cached))

/- The handler of a request has ended with a response. -/
def Cache.respond
    (s : Cache ω)
    (r : ω)
    (response : Response)
    (phase : Phase) : Cache ω :=
  { s.move r phase with
    handled := Function.update s.handled r (some response) }

/- One step of `dispatch` of some request. -/
def Cache.step
    (S : Setting ω)
    (s : Cache ω) : Action ω → Cache ω
| .pass seconds => { s with clock := s.clock + seconds }
| .refuse r status code =>
    match s.phase r with
    | .arrived => s.move r (.answered (.error status code))
    | _ => s
| .bypass r =>
    match s.phase r, S.key r with
    | .arrived, none => s.move r .passing
    | _, _ => s
| .get r =>
    match s.phase r with
    | .arrived => s.afterRead S r .reserving
    | _ => s
| .set r =>
    match s.phase r, S.key r with
    | .reserving, some key =>
        if (s.live key).isNone then
          (s.exec S (.reserve r)).move r .handling
        else
          s.move r .rereading
    | _, _ => s
| .getAgain r =>
    match s.phase r with
    | .rereading => s.afterRead S r (.answered unavailable)
    | _ => s
| .respond r response =>
    match s.phase r with
    | .passing =>
        s.respond r response (.answered (.responded response))
    | .handling =>
        s.respond r response
          (if response.isSuccess then .publishing response
            else .releasing response)
    | _ => s
| .raises r =>
    match s.phase r with
    | .passing => s.move r (.answered .raised)
    | .handling => s.move r (.answered .raised)
    | _ => s
| .release r =>
    match s.phase r with
    | .releasing response =>
        (s.exec S (.release r)).move r
          (.answered (.responded response))
    | _ => s
| .publish r =>
    match s.phase r with
    | .publishing response =>
        (s.exec S (.publish r response)).move r
          (.answered (.responded response.rebuilt))
    | _ => s
| .drift r =>
    { s with
      adrift := s.adrift ++ ((s.phase r).command r).toList }
| .giveUp r =>
    match s.phase r with
    | .arrived => s.move r (.answered unavailable)
    | .reserving => s.move r (.answered unavailable)
    | .rereading => s.move r (.answered unavailable)
    | .releasing response =>
        s.move r (.answered (.responded response))
    | .publishing response =>
        s.move r (.answered (.responded response.rebuilt))
    | _ => s
| .die r =>
    match s.phase r with
    | .answered _ => s
    | _ => s.move r .died
| .land command =>
    if command ∈ s.adrift then s.exec S command else s

def Cache.run
    (S : Setting ω)
    (s : Cache ω)
    (actions : List (Action ω)) : Cache ω :=
  actions.foldl (Cache.step S) s

/- No request has come to the cache yet. -/
def Cache.start : Cache ω where
  clock := 0
  entries := fun _ => none
  adrift := []
  phase := fun _ => .arrived
  handled := fun _ => none

/- The request that takes a step. -/
def Action.actor : Action ω → Option ω
| .pass _ => none
| .refuse r _ _ => some r
| .bypass r => some r
| .get r => some r
| .set r => some r
| .getAgain r => some r
| .respond r _ => some r
| .raises r => some r
| .release r => some r
| .publish r => some r
| .drift r => some r
| .giveUp r => some r
| .die r => some r
| .land command => some command.request

/-
  Of the requests with one key, at most one handler ends in a
  success; a cached response goes to a request with the same
  fingerprint as the one whose handler gave it, and is what
  that one is answered; and no request changes a document of
  another one.
-/
structure Cache.Safe (S : Setting ω) (s : Cache ω) : Prop where
  once :
    ∀ r r' key response response',
      S.key r = some key → S.key r' = some key →
        s.handled r = some response →
          response.isSuccess = true →
            s.handled r' = some response' →
              response'.isSuccess = true → r = r'
  replayed :
    ∀ r response,
      s.phase r = .answered (.replayed response) →
        ∃ r' original, S.key r' = S.key r ∧
          s.handled r' = some original ∧
            original.isSuccess = true ∧
              S.fingerprint r' = S.fingerprint r ∧
                response = original.rebuilt
  responded :
    ∀ r key response original, S.key r = some key →
      s.phase r = .answered (.responded response) →
        s.handled r = some original →
          original.isSuccess = true →
            response = original.rebuilt
  kept :
    ∀ a key entry, s.live key = some entry →
      (∀ r ∈ a.actor, S.token r ≠ entry.owner) →
        (s.step S a).entries key = some entry

end

--------
-- What Every State Keeps
--------

section

variable {ω : Type}

/- The handler of a request has ended in a success. -/
def Cache.Succeeded
    (s : Cache ω)
    (r : ω)
    (response : Response) : Prop :=
  s.handled r = some response ∧ response.isSuccess = true

/-
  A document under a key outlasts the period, and is the
  reservation of a request or the success of its handler.
-/
structure Cache.EntryOk
    (S : Setting ω)
    (s : Cache ω)
    (key : String)
    (entry : Entry) : Prop where
  lasting : idempotencyTtlSeconds ≤ entry.expiresAt
  written :
    ∃ r, S.key r = some key ∧ entry.owner = S.token r ∧
      (entry.cached = S.reservation r ∨
        ∃ response, s.Succeeded r response ∧
          entry.cached =
            response.payload (S.fingerprint r))

/- A write that is told apart from that of a live handler. -/
def Cache.CommandOk (s : Cache ω) : Command ω → Prop
| .reserve _ => True
| .release r =>
    ∃ response, s.handled r = some response ∧
      response.isSuccess = false
| .publish r response => s.Succeeded r response

/- What is known of a request by how far it has come. -/
def Cache.PhaseOk
    (S : Setting ω)
    (s : Cache ω)
    (r : ω) : Phase → Prop
| .arrived => s.handled r = none
| .reserving => s.handled r = none
| .rereading => s.handled r = none
| .passing => s.handled r = none ∧ S.key r = none
| .handling =>
    s.handled r = none ∧
      ∃ key entry, S.key r = some key ∧
        s.entries key = some entry ∧
          entry.owner = S.token r ∧
            entry.cached = S.reservation r
| .releasing response =>
    s.handled r = some response ∧ response.isSuccess = false
| .publishing response => s.Succeeded r response
| .answered (.replayed response) =>
    ∃ r' original, S.key r' = S.key r ∧
      s.Succeeded r' original ∧
        S.fingerprint r' = S.fingerprint r ∧
          response = original.rebuilt
| .answered (.responded response) =>
    ∃ original, s.handled r = some original ∧
      (S.key r ≠ none → original.isSuccess = true →
        response = original.rebuilt)
| .answered _ => True
| .died => True

structure Cache.Inv (S : Setting ω) (s : Cache ω) : Prop where
  entries :
    ∀ key entry, s.entries key = some entry →
      s.EntryOk S key entry
  succeeded :
    ∀ r key response, S.key r = some key →
      s.Succeeded r response →
        ∃ entry, s.entries key = some entry ∧
          entry.owner = S.token r
  adrift : ∀ command ∈ s.adrift, s.CommandOk command
  phases : ∀ r, s.PhaseOk S r (s.phase r)

variable {S : Setting ω} {s : Cache ω} {key : String} {r : ω}

/- In the period every key is live. -/
theorem Cache.Inv.live_eq
    (hInv : s.Inv S)
    (hPeriod : s.clock < idempotencyTtlSeconds)
    (key : String) :
    s.live key = s.entries key := by
  rw [Cache.live]
  cases hEntry : s.entries key with
  | none => rfl
  | some entry =>
    have hLasting := (hInv.entries key entry hEntry).lasting
    rw [Option.filter_some_pos]
    simpa using Nat.lt_of_lt_of_le hPeriod hLasting

variable {entry : Entry}

/- The document that a request holds under a key is its own. -/
theorem Cache.Inv.owner_of_holds
    (hInv : s.Inv S)
    (hPeriod : s.clock < idempotencyTtlSeconds)
    (hHolds : s.holds S key r = true)
    (hEntry : s.entries key = some entry) :
    entry.owner = S.token r := by
  rw [Cache.holds, hInv.live_eq hPeriod, beq_iff_eq, hEntry,
    Option.map_some, Option.some.injEq] at hHolds
  rcases (hInv.entries key entry hEntry).written with
    ⟨r', -, hOwner, hReservation | ⟨response, -, hPayload⟩⟩
  · rw [hHolds, Setting.reservation, Setting.reservation,
      Cached.reservation.injEq] at hReservation
    rw [hOwner, hReservation.2]
  · rw [hHolds] at hPayload
    cases hPayload

/- A document that is ok stays so when handlers end. -/
theorem Cache.EntryOk.later
    {s t : Cache ω}
    (hHandled : ∀ r response,
      s.handled r = some response →
        t.handled r = some response)
    (hEntry : s.EntryOk S key entry) :
    t.EntryOk S key entry := by
  refine ⟨hEntry.lasting, ?_⟩
  rcases hEntry.written with
    ⟨r, hKey, hOwner, hReservation | ⟨response, hEnded, hPayload⟩⟩
  · exact ⟨r, hKey, hOwner, Or.inl hReservation⟩
  · exact ⟨r, hKey, hOwner, Or.inr
      ⟨response, ⟨hHandled r response hEnded.1, hEnded.2⟩,
        hPayload⟩⟩

/-
  What is known of a request stays known when handlers of
  others end and the documents of others are written.
-/
theorem Cache.PhaseOk.later
    {s t : Cache ω}
    (hOwn : t.handled r = s.handled r)
    (hHandled : ∀ r' response,
      s.handled r' = some response →
        t.handled r' = some response)
    {phase : Phase}
    (hEntries : phase = .handling →
      ∀ key entry, s.entries key = some entry →
        entry.owner = S.token r → t.entries key = some entry)
    (hPhase : s.PhaseOk S r phase) :
    t.PhaseOk S r phase := by
  cases phase with
  | arrived => exact hOwn.trans hPhase
  | reserving => exact hOwn.trans hPhase
  | rereading => exact hOwn.trans hPhase
  | passing => exact ⟨hOwn.trans hPhase.1, hPhase.2⟩
  | handling =>
    rcases hPhase with
      ⟨hNone, key, entry, hKey, hEntry, hOwner, hCached⟩
    exact ⟨hOwn.trans hNone, key, entry, hKey,
      hEntries rfl key entry hEntry hOwner, hOwner, hCached⟩
  | releasing response => exact ⟨hOwn.trans hPhase.1, hPhase.2⟩
  | publishing response => exact ⟨hOwn.trans hPhase.1, hPhase.2⟩
  | answered answer =>
    cases answer with
    | replayed response =>
      rcases hPhase with
        ⟨r', original, hKey, hEnded, hSame⟩
      exact ⟨r', original, hKey,
        ⟨hHandled r' original hEnded.1, hEnded.2⟩, hSame⟩
    | responded response =>
      rcases hPhase with ⟨original, hEnded, hSame⟩
      exact ⟨original, hOwn.trans hEnded, hSame⟩
    | error status code => trivial
    | raised => trivial
  | died => trivial

/- Steps that write no document and end no handler. -/
theorem Cache.Inv.frame
    {s t : Cache ω}
    (hInv : s.Inv S)
    (hEntries : t.entries = s.entries)
    (hHandled : t.handled = s.handled)
    (hAdrift : ∀ command ∈ t.adrift, s.CommandOk command)
    (hPhases : ∀ r, s.PhaseOk S r (t.phase r)) :
    t.Inv S := by
  have hLater : ∀ r response,
      s.handled r = some response →
        t.handled r = some response := by
    intro r response hEnded
    rw [hHandled]
    exact hEnded
  refine ⟨?_, ?_, ?_, ?_⟩
  · intro key entry hEntry
    rw [hEntries] at hEntry
    exact (hInv.entries key entry hEntry).later hLater
  · intro r key response hKey hEnded
    rw [Cache.Succeeded, hHandled] at hEnded
    rw [hEntries]
    exact hInv.succeeded r key response hKey hEnded
  · intro command hMem
    have hCommand := hAdrift command hMem
    cases command with
    | reserve r => trivial
    | release r =>
      rcases hCommand with ⟨response, hEnded, hFailed⟩
      exact ⟨response, hLater r response hEnded, hFailed⟩
    | publish r response =>
      exact ⟨hLater r response hCommand.1, hCommand.2⟩
  · intro r
    refine (hPhases r).later (by rw [hHandled]) hLater ?_
    intro _ key entry hEntry _
    rw [hEntries]
    exact hEntry

/-
  A request that is not with its handler writes under a key
  that holds its own document or none.
-/
theorem Cache.Inv.write
    (hFresh : Function.Injective S.token)
    {s : Cache ω}
    (hInv : s.Inv S)
    (hOwn : ∀ entry, s.entries key = some entry →
      entry.owner = S.token r)
    (hIdle : s.phase r ≠ .handling)
    (new : Option Entry)
    (hNew : ∀ entry, new = some entry → s.EntryOk S key entry)
    (hSucceeded : ∀ response, s.Succeeded r response →
      ∃ entry, new = some entry ∧ entry.owner = S.token r) :
    Cache.Inv S
      { s with entries := Function.update s.entries key new } := by
  refine ⟨?_, ?_, hInv.adrift, ?_⟩
  · intro other entry hEntry
    by_cases hSame : other = key
    · subst hSame
      change Function.update _ _ _ _ = _ at hEntry
      rw [Function.update_self] at hEntry
      refine Cache.EntryOk.later ?_ (hNew entry hEntry)
      exact fun _ _ hEnded => hEnded
    · change Function.update _ _ _ _ = _ at hEntry
      rw [Function.update_of_ne hSame] at hEntry
      refine Cache.EntryOk.later ?_
        (hInv.entries other entry hEntry)
      exact fun _ _ hEnded => hEnded
  · intro r' other response hOther hEnded
    rcases hInv.succeeded r' other response hOther hEnded
      with ⟨entry, hEntry, hOwner⟩
    by_cases hSame : other = key
    · subst hSame
      have hWriter : r' = r :=
        hFresh (hOwner.symm.trans (hOwn entry hEntry))
      subst hWriter
      rcases hSucceeded response hEnded with
        ⟨written, hWritten, hIts⟩
      refine ⟨written, ?_, hIts⟩
      change Function.update _ _ _ _ = _
      rw [Function.update_self]
      exact hWritten
    · refine ⟨entry, ?_, hOwner⟩
      change Function.update _ _ _ _ = _
      rw [Function.update_of_ne hSame]
      exact hEntry
  · intro r'
    have hBefore : s.PhaseOk S r' (s.phase r') :=
      hInv.phases r'
    refine Cache.PhaseOk.later ?_ ?_ ?_ hBefore
    · rfl
    · exact fun _ _ hEnded => hEnded
    intro hHandling other entry hEntry hOwner
    change Function.update _ _ _ _ = _
    rw [Function.update_of_ne]
    · exact hEntry
    -- only the one who writes holds this key
    · intro hSame
      rw [hSame] at hEntry
      have hWriter : r' = r :=
        hFresh (hOwner.symm.trans (hOwn entry hEntry))
      rw [hWriter] at hHandling
      exact hIdle hHandling

/- A write to Redis ends no handler. -/
theorem Cache.handled_exec
    (S : Setting ω)
    (s : Cache ω)
    (command : Command ω) :
    (s.exec S command).handled = s.handled := by
  cases command <;> unfold Cache.exec <;> dsimp only <;>
    split <;> try split
  all_goals rfl

/- The write a request waits for is one it may make. -/
theorem Cache.Inv.commandOk
    (hInv : s.Inv S)
    {command : Command ω}
    (hCommand : (s.phase r).command r = some command) :
    s.CommandOk command := by
  have hPhase := hInv.phases r
  cases hHere : s.phase r with
  | reserving =>
    rw [hHere] at hCommand
    rw [← Option.some.inj hCommand]
    trivial
  | releasing response =>
    rw [hHere] at hCommand hPhase
    rw [← Option.some.inj hCommand]
    exact ⟨response, hPhase⟩
  | publishing response =>
    rw [hHere] at hCommand hPhase
    rw [← Option.some.inj hCommand]
    exact hPhase
  | arrived => rw [hHere] at hCommand; cases hCommand
  | rereading => rw [hHere] at hCommand; cases hCommand
  | passing => rw [hHere] at hCommand; cases hCommand
  | handling => rw [hHere] at hCommand; cases hCommand
  | answered answer => rw [hHere] at hCommand; cases hCommand
  | died => rw [hHere] at hCommand; cases hCommand

/- A request whose handler has ended is not with it. -/
theorem Cache.Inv.idle
    (hInv : s.Inv S)
    {response : Response}
    (hEnded : s.handled r = some response) :
    s.phase r ≠ .handling := by
  intro hHandling
  have hPhase := hInv.phases r
  rw [hHandling] at hPhase
  rw [hPhase.1] at hEnded
  cases hEnded

/- A write that lands keeps the invariant. -/
theorem Cache.Inv.exec
    (hFresh : Function.Injective S.token)
    (hInv : s.Inv S)
    (hPeriod : s.clock < idempotencyTtlSeconds)
    {command : Command ω}
    (hCommand : s.CommandOk command) :
    (s.exec S command).Inv S := by
  unfold Cache.exec
  cases command with
  | reserve r =>
    dsimp only
    split
    · exact hInv
    · rename_i key hKey
      split
      · rename_i hFree
        rw [hInv.live_eq hPeriod, Option.isNone_iff_eq_none]
          at hFree
        refine hInv.write hFresh (r := r) ?_ ?_
          (some ⟨S.reservation r, S.token r, _⟩) ?_ ?_
        · intro entry hEntry
          rw [hFree] at hEntry
          cases hEntry
        · intro hHandling
          have hPhase := hInv.phases r
          rw [hHandling] at hPhase
          rcases hPhase with ⟨-, key', entry, hKey', hEntry, -⟩
          rw [hKey, Option.some.injEq] at hKey'
          rw [← hKey', hFree] at hEntry
          cases hEntry
        · intro entry hEntry
          rw [← Option.some.inj hEntry]
          exact ⟨Nat.le_add_left _ _, r, hKey, rfl, Or.inl rfl⟩
        · intro response _
          exact ⟨_, rfl, rfl⟩
      · exact hInv
  | release r =>
    rcases hCommand with ⟨response, hEnded, hFailed⟩
    dsimp only
    split
    · exact hInv
    · rename_i key hKey
      split
      · rename_i hHolds
        refine hInv.write hFresh ?_ (hInv.idle hEnded) none ?_
          ?_
        · intro entry hEntry
          exact hInv.owner_of_holds hPeriod hHolds hEntry
        · intro entry hEntry
          cases hEntry
        · intro response' hSucceeded
          rw [Cache.Succeeded, hEnded, Option.some.injEq]
            at hSucceeded
          rw [hSucceeded.1, hSucceeded.2] at hFailed
          cases hFailed
      · exact hInv
  | publish r response =>
    dsimp only
    split
    · exact hInv
    · rename_i key hKey
      split
      · rename_i hHolds
        refine hInv.write hFresh ?_ (hInv.idle hCommand.1)
          (some ⟨_, S.token r, _⟩) ?_ ?_
        · intro entry hEntry
          exact hInv.owner_of_holds hPeriod hHolds hEntry
        · intro entry hEntry
          rw [← Option.some.inj hEntry]
          exact ⟨Nat.le_add_left _ _, r, hKey, rfl,
            Or.inr ⟨response, hCommand, rfl⟩⟩
        · intro response' _
          exact ⟨_, rfl, rfl⟩
      · exact hInv

end

--------
-- What A Step Keeps
--------

section

variable {ω : Type} [DecidableEq ω]
variable {S : Setting ω} {r : ω} {s : Cache ω} {key : String}
variable {phase : Phase} {entry : Entry}

/- A request comes to a phase that fits. -/
theorem Cache.Inv.move
    (hInv : s.Inv S)
    (hPhase : s.PhaseOk S r phase) :
    (s.move r phase).Inv S := by
  refine hInv.frame rfl rfl hInv.adrift ?_
  intro other
  by_cases hSame : other = r
  · subst hSame
    rw [show (s.move other phase).phase other = phase from
      Function.update_self _ _ _]
    exact hPhase
  · rw [show (s.move r phase).phase other = s.phase other from
      Function.update_of_ne hSame _ _]
    exact hInv.phases other

/- What a document tells a request that reads it. -/
omit [DecidableEq ω] in
theorem Cache.EntryOk.phaseOk
    (hKey : S.key r = some key)
    (hEntry : s.EntryOk S key entry) :
    s.PhaseOk S r
      (.answered (readCached (S.fingerprint r) entry.cached)) := by
  rcases hEntry.written with
    ⟨r', hKey', -, hReservation | ⟨original, hEnded, hPayload⟩⟩
  · rw [hReservation]
    simp only [Setting.reservation, readCached]
    split
    · trivial
    · trivial
  · rw [hPayload, readCached_payload]
    split
    · trivial
    · rename_i hSame
      exact ⟨r', original, hKey'.trans hKey.symm, hEnded,
        not_not.mp hSame, rfl⟩

/- A request reads what is under its key. -/
theorem Cache.Inv.afterRead
    (hInv : s.Inv S)
    (hPeriod : s.clock < idempotencyTtlSeconds)
    {absent : Phase}
    (hAbsent : s.PhaseOk S r absent) :
    (s.afterRead S r absent).Inv S := by
  unfold Cache.afterRead
  split
  · exact hInv
  · rename_i key hKey
    split
    · exact hInv.move hAbsent
    · rename_i entry hLive
      rw [hInv.live_eq hPeriod] at hLive
      exact hInv.move
        ((hInv.entries key entry hLive).phaseOk hKey)

/- A handler ends with a response. -/
theorem Cache.Inv.respond
    (hInv : s.Inv S)
    (hNone : s.handled r = none)
    {response : Response}
    (hPhase :
      Cache.PhaseOk S (s.respond r response phase) r phase)
    (hHeld : ∀ key, S.key r = some key → ∃ entry,
      s.entries key = some entry ∧ entry.owner = S.token r) :
    (s.respond r response phase).Inv S := by
  have hHandled : ∀ other ended,
      s.handled other = some ended →
        (s.respond r response phase).handled other =
          some ended := by
    intro other ended hEnded
    change Function.update _ _ _ _ = _
    rw [Function.update_of_ne]
    · exact hEnded
    · intro hSame
      rw [hSame, hNone] at hEnded
      cases hEnded
  refine ⟨?_, ?_, ?_, ?_⟩
  · intro key entry hEntry
    exact (hInv.entries key entry hEntry).later hHandled
  · intro other key ended hKey hEnded
    by_cases hSame : other = r
    · subst hSame
      exact hHeld key hKey
    · have hBefore : s.Succeeded other ended := by
        refine ⟨?_, hEnded.2⟩
        have hHere := hEnded.1
        change Function.update _ _ _ _ = _ at hHere
        rw [Function.update_of_ne hSame] at hHere
        exact hHere
      exact hInv.succeeded other key ended hKey hBefore
  · intro command hMem
    have hCommand := hInv.adrift command hMem
    cases command with
    | reserve other => trivial
    | release other =>
      rcases hCommand with ⟨ended, hEnded, hFailed⟩
      exact ⟨ended, hHandled other ended hEnded, hFailed⟩
    | publish other ended =>
      exact ⟨hHandled other ended hCommand.1, hCommand.2⟩
  · intro other
    by_cases hSame : other = r
    · subst hSame
      rw [show (s.respond other response phase).phase other =
        phase from Function.update_self _ _ _]
      exact hPhase
    · rw [show (s.respond r response phase).phase other =
        s.phase other from Function.update_of_ne hSame _ _]
      have hBefore : s.PhaseOk S other (s.phase other) :=
        hInv.phases other
      refine Cache.PhaseOk.later ?_ hHandled ?_ hBefore
      · exact Function.update_of_ne hSame _ _
      · exact fun _ _ _ hEntry _ => hEntry

/- The reservation stands when `SET NX` has been answered. -/
theorem Cache.Inv.acquire
    (hFresh : Function.Injective S.token)
    (hInv : s.Inv S)
    (hPeriod : s.clock < idempotencyTtlSeconds)
    (hKey : S.key r = some key)
    (hFree : (s.live key).isNone = true)
    (hNone : s.handled r = none) :
    ((s.exec S (.reserve r)).move r .handling).Inv S := by
  have hExec :
      s.exec S (.reserve r) =
        s.put key (S.reservation r) (S.token r) := by
    unfold Cache.exec
    dsimp only
    rw [hKey]
    exact if_pos hFree
  have hReserve : s.CommandOk (.reserve r) := trivial
  have hInv' := hInv.exec hFresh hPeriod hReserve
  refine hInv'.move ?_
  rw [hExec]
  exact ⟨hNone, key, _, hKey, Function.update_self _ _ _, rfl,
    rfl⟩

/- A handler that holds the reservation ends. -/
theorem Cache.Inv.respondHandling
    (hInv : s.Inv S)
    (hHandling : s.phase r = .handling)
    (response : Response) :
    (s.respond r response
      (if response.isSuccess then .publishing response
        else .releasing response)).Inv S := by
  have hPhase := hInv.phases r
  rw [hHandling] at hPhase
  rcases hPhase with
    ⟨hNone, key, entry, hKey, hEntry, hOwner, -⟩
  refine hInv.respond hNone ?_ ?_
  · cases hSuccess : response.isSuccess with
    | true => exact ⟨Function.update_self _ _ _, hSuccess⟩
    | false => exact ⟨Function.update_self _ _ _, hSuccess⟩
  · intro key' hKey'
    rw [hKey, Option.some.injEq] at hKey'
    rw [← hKey']
    exact ⟨entry, hEntry, hOwner⟩

/- Every step within the period keeps the invariant. -/
theorem Cache.Inv.step
    (hFresh : Function.Injective S.token)
    (hInv : s.Inv S)
    (hPeriod : s.clock < idempotencyTtlSeconds)
    (a : Action ω) :
    (s.step S a).Inv S := by
  unfold Cache.step
  cases a with
  | pass seconds =>
    exact hInv.frame rfl rfl hInv.adrift hInv.phases
  | refuse r status code =>
    dsimp only
    split
    · exact hInv.move trivial
    · exact hInv
  | bypass r =>
    dsimp only
    split
    · rename_i hArrived hKey
      have hPhase := hInv.phases r
      rw [hArrived] at hPhase
      exact hInv.move ⟨hPhase, hKey⟩
    · exact hInv
  | get r =>
    dsimp only
    split
    · rename_i hArrived
      have hPhase := hInv.phases r
      rw [hArrived] at hPhase
      exact hInv.afterRead hPeriod hPhase
    · exact hInv
  | set r =>
    dsimp only
    split
    · rename_i key hReserving hKey
      have hPhase := hInv.phases r
      rw [hReserving] at hPhase
      split
      · rename_i hFree
        exact hInv.acquire hFresh hPeriod hKey hFree hPhase
      · exact hInv.move hPhase
    · exact hInv
  | getAgain r =>
    dsimp only
    split
    · exact hInv.afterRead hPeriod trivial
    · exact hInv
  | respond r response =>
    dsimp only
    split
    · rename_i hPassing
      have hPhase := hInv.phases r
      rw [hPassing] at hPhase
      refine hInv.respond hPhase.1 ?_ ?_
      · exact ⟨response, Function.update_self _ _ _,
          fun hKeyed => absurd hPhase.2 hKeyed⟩
      · intro key hKey
        rw [hPhase.2] at hKey
        cases hKey
    · rename_i hHandling
      exact hInv.respondHandling hHandling response
    · exact hInv
  | raises r =>
    dsimp only
    split
    · exact hInv.move trivial
    · exact hInv.move trivial
    · exact hInv
  | release r =>
    dsimp only
    split
    · rename_i response hReleasing
      have hPhase := hInv.phases r
      rw [hReleasing] at hPhase
      have hRelease : s.CommandOk (.release r) :=
        ⟨response, hPhase⟩
      refine (hInv.exec hFresh hPeriod hRelease).move ?_
      refine ⟨response, ?_, ?_⟩
      · rw [Cache.handled_exec]
        exact hPhase.1
      · intro _ hSuccess
        rw [hPhase.2] at hSuccess
        cases hSuccess
    · exact hInv
  | publish r =>
    dsimp only
    split
    · rename_i response hPublishing
      have hPhase := hInv.phases r
      rw [hPublishing] at hPhase
      have hPublish : s.CommandOk (.publish r response) := hPhase
      refine (hInv.exec hFresh hPeriod hPublish).move ?_
      refine ⟨response, ?_, fun _ _ => rfl⟩
      rw [Cache.handled_exec]
      exact hPhase.1
    · exact hInv
  | drift r =>
    refine hInv.frame rfl rfl ?_ hInv.phases
    intro command hMem
    rcases List.mem_append.mp hMem with hOld | hNew
    · exact hInv.adrift command hOld
    · exact hInv.commandOk (Option.mem_toList.mp hNew)
  | giveUp r =>
    have hPhase := hInv.phases r
    dsimp only
    split
    · exact hInv.move trivial
    · exact hInv.move trivial
    · exact hInv.move trivial
    · rename_i response hReleasing
      rw [hReleasing] at hPhase
      refine hInv.move ⟨response, hPhase.1, ?_⟩
      intro _ hSuccess
      rw [hPhase.2] at hSuccess
      cases hSuccess
    · rename_i response hPublishing
      rw [hPublishing] at hPhase
      exact hInv.move ⟨response, hPhase.1, fun _ _ => rfl⟩
    · exact hInv
  | die r =>
    dsimp only
    split
    · exact hInv
    · exact hInv.move trivial
  | land command =>
    dsimp only
    split
    · rename_i hMem
      exact hInv.exec hFresh hPeriod (hInv.adrift command hMem)
    · exact hInv

--------
-- Documents Of Others
--------

/- A write leaves the documents of others. -/
omit [DecidableEq ω] in
theorem Cache.Inv.kept_exec
    (hInv : s.Inv S)
    (hPeriod : s.clock < idempotencyTtlSeconds)
    (hEntry : s.entries key = some entry)
    {command : Command ω}
    (hOther : S.token command.request ≠ entry.owner) :
    (s.exec S command).entries key = some entry := by
  have hKept : ∀ key' new,
      (s.entries key' = none ∨
        s.holds S key' command.request = true) →
        Function.update s.entries key' new key = some entry := by
    intro key' new hWritable
    rw [Function.update_of_ne]
    · exact hEntry
    · intro hSame
      subst hSame
      rcases hWritable with hFree | hHolds
      · rw [hFree] at hEntry
        cases hEntry
      · exact hOther
          (hInv.owner_of_holds hPeriod hHolds hEntry).symm
  unfold Cache.exec
  cases command with
  | reserve r =>
    dsimp only
    split
    · exact hEntry
    · rename_i key' hKey
      split
      · rename_i hFree
        rw [hInv.live_eq hPeriod, Option.isNone_iff_eq_none]
          at hFree
        exact hKept key' _ (Or.inl hFree)
      · exact hEntry
  | release r =>
    dsimp only
    split
    · exact hEntry
    · rename_i key' hKey
      split
      · rename_i hHolds
        exact hKept key' _ (Or.inr hHolds)
      · exact hEntry
  | publish r response =>
    dsimp only
    split
    · exact hEntry
    · rename_i key' hKey
      split
      · rename_i hHolds
        exact hKept key' _ (Or.inr hHolds)
      · exact hEntry

/-
  A step takes the clock not back, and writes no document or
  makes a write of its actor.
-/
theorem Cache.step_effect
    (S : Setting ω)
    (s : Cache ω)
    (a : Action ω) :
    s.clock ≤ (s.step S a).clock ∧
      ((s.step S a).entries = s.entries ∨
        ∃ command,
          (s.step S a).entries = (s.exec S command).entries ∧
            a.actor = some command.request) := by
  have hExec : ∀ command,
      s.clock ≤ (s.exec S command).clock := by
    intro command
    cases command <;> unfold Cache.exec <;> dsimp only <;>
      split <;> try split
    all_goals exact Nat.le_refl _
  have hRead : ∀ r absent,
      s.clock ≤ (s.afterRead S r absent).clock ∧
        (s.afterRead S r absent).entries = s.entries := by
    intro r absent
    unfold Cache.afterRead
    split
    · exact ⟨Nat.le_refl _, rfl⟩
    · split <;> exact ⟨Nat.le_refl _, rfl⟩
  unfold Cache.step
  cases a with
  | pass seconds => exact ⟨Nat.le_add_right _ _, Or.inl rfl⟩
  | drift r => exact ⟨Nat.le_refl _, Or.inl rfl⟩
  | get r =>
    dsimp only
    split
    · exact ⟨(hRead r _).1, Or.inl (hRead r _).2⟩
    · exact ⟨Nat.le_refl _, Or.inl rfl⟩
  | getAgain r =>
    dsimp only
    split
    · exact ⟨(hRead r _).1, Or.inl (hRead r _).2⟩
    · exact ⟨Nat.le_refl _, Or.inl rfl⟩
  | set r =>
    dsimp only
    split
    · split
      · exact ⟨hExec _, Or.inr ⟨.reserve r, rfl, rfl⟩⟩
      · exact ⟨Nat.le_refl _, Or.inl rfl⟩
    · exact ⟨Nat.le_refl _, Or.inl rfl⟩
  | release r =>
    dsimp only
    split
    · exact ⟨hExec _, Or.inr ⟨.release r, rfl, rfl⟩⟩
    · exact ⟨Nat.le_refl _, Or.inl rfl⟩
  | publish r =>
    dsimp only
    split
    · rename_i response hPublishing
      exact ⟨hExec _, Or.inr ⟨.publish r response, rfl, rfl⟩⟩
    · exact ⟨Nat.le_refl _, Or.inl rfl⟩
  | land command =>
    dsimp only
    split
    · exact ⟨hExec _, Or.inr ⟨command, rfl, rfl⟩⟩
    · exact ⟨Nat.le_refl _, Or.inl rfl⟩
  | _ =>
    -- every other step leaves the cache alone
    dsimp only
    split <;> exact ⟨Nat.le_refl _, Or.inl rfl⟩

/- The invariant says that the cache is safe. -/
theorem Cache.Inv.safe
    (hFresh : Function.Injective S.token)
    (hInv : s.Inv S)
    (hPeriod : s.clock < idempotencyTtlSeconds) :
    s.Safe S := by
  refine ⟨?_, ?_, ?_, ?_⟩
  · intro r r' key response response' hKey hKey' hEnded hSuccess
      hEnded' hSuccess'
    rcases hInv.succeeded r key response hKey
      ⟨hEnded, hSuccess⟩ with ⟨entry, hEntry, hOwner⟩
    rcases hInv.succeeded r' key response' hKey'
      ⟨hEnded', hSuccess'⟩ with ⟨entry', hEntry', hOwner'⟩
    rw [hEntry, Option.some.injEq] at hEntry'
    rw [← hEntry', hOwner] at hOwner'
    exact hFresh hOwner'
  · intro r response hReplayed
    have hPhase := hInv.phases r
    rw [hReplayed] at hPhase
    rcases hPhase with ⟨r', original, hKey, hEnded, hSame⟩
    exact ⟨r', original, hKey, hEnded.1, hEnded.2, hSame⟩
  · intro r key response original hKey hResponded hEnded
    have hPhase := hInv.phases r
    rw [hResponded] at hPhase
    rcases hPhase with ⟨original', hEnded', hSame⟩
    rw [hEnded, Option.some.injEq] at hEnded'
    subst hEnded'
    exact hSame (by simp [hKey])
  · intro a key entry hLive hOther
    rw [hInv.live_eq hPeriod] at hLive
    rcases (Cache.step_effect S s a).2 with
      hSame | ⟨command, hExec, hActor⟩
    · rw [hSame]
      exact hLive
    · rw [hExec]
      exact hInv.kept_exec hPeriod hLive
        (hOther command.request hActor)

/- Before the first request. -/
omit [DecidableEq ω] in
theorem Cache.inv_start
    (S : Setting ω) :
    (Cache.start : Cache ω).Inv S := by
  refine ⟨?_, ?_, ?_, fun _ => rfl⟩
  · intro key entry hEntry
    cases hEntry
  · intro r key response _ hEnded
    cases hEnded.1
  · intro command hMem
    cases hMem

end

--------
-- Runs
--------

/-
  As long as the retention period lasts, the cache is safe for
  any requests with distinct tokens and in any order of their
  steps.
-/
theorem safe_of_retention
    {ω : Type}
    [DecidableEq ω]
    {S : Setting ω}
    (hFresh : Function.Injective S.token)
    {actions : List (Action ω)}
    (hPeriod :
      (Cache.start.run S actions).clock <
        idempotencyTtlSeconds) :
    (Cache.start.run S actions).Safe S := by
  have hKeeps : ∀ (s : Cache ω) (a : Action ω),
      (s.clock < idempotencyTtlSeconds → s.Inv S) →
        (s.step S a).clock < idempotencyTtlSeconds →
          (s.step S a).Inv S := by
    intro s a hInv hLater
    have hHere : s.clock < idempotencyTtlSeconds :=
      Nat.lt_of_le_of_lt (Cache.step_effect S s a).1 hLater
    exact (hInv hHere).step hFresh hHere a
  have hInv : (Cache.start.run S actions).Inv S :=
    Machine.foldl_keeps hKeeps actions
      (fun _ => Cache.inv_start S) hPeriod
  exact hInv.safe hFresh hPeriod

/- Two attempts at one operation. -/
def retriedSetting : Setting Bool where
  sha256 := fun bytes => toString bytes.length
  requests := fun _ =>
    { method := "POST"
      url := "https://api.example.com/api/v1/records"
      path := "/api/v1/records"
      headers := [("idempotency-key", "daily-batch-2026-04-17")]
      tenantId := some "tenant"
      authorizationFingerprint := none
      webhookSecret := none
      body := [] }
  token := fun r => if r then "b1" else "a0"

/- The second attempt is answered what the first one was. -/
theorem safe_retried :
    (Cache.start.run retriedSetting
      [.get false, .set false,
        .respond false ⟨201, [123, 125], []⟩, .publish false,
        .get true]).Safe retriedSetting := by
  refine safe_of_retention ?_ ?_
  · intro r r' hSame
    revert r r'
    decide
  · decide +kernel

end IdempotencyMiddleware

end RegEngine
