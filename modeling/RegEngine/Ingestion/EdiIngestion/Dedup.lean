import Mathlib.Data.List.Nodup
import Mathlib.Logic.Function.Basic
import Mathlib.Tactic.MkIffOfInductiveProp
import RegEngine.Library.Machine
import RegEngine.Library.Python
import RegEngine.Library.Text

/-
  Claims of EDI interchanges against retransmissions
  (`services/ingestion/app/edi_ingestion/dedup.py`), and the
  requests of `edi_ingestion/routes.py` that take a claim
  before they ingest and free it when nothing was stored.

  Main declarations:
    * `EdiIngestion.dedupKey`
    * `EdiIngestion.Claims.step`
    * `EdiIngestion.Claims.run_protected`
-/

--------
-- Claim Keys
--------

namespace RegEngine

open Python

namespace EdiIngestion

/- The ids a claim is taken under. -/
structure InterchangeIds where
  tenantId : String
  senderId : Option String
  receiverId : Option String
  isa13 : Option String
  deriving DecidableEq, Repr

/- `_DEDUP_KEY_PREFIX`. -/
def dedupKeyPrefix : String :=
  "edi:interchange:"

/- `_dedup_key`. -/
def dedupKey (ids : InterchangeIds) : String :=
  let t := strip ids.tenantId
  let s := strip (ids.senderId.getD "")
  let r := strip (ids.receiverId.getD "")
  let i := strip (ids.isa13.getD "")
  dedupKeyPrefix ++ t ++ ":" ++ s ++ ":" ++ r ++ ":" ++ i

/- An id as the extractor gives it: not empty, no padding. -/
def Unpadded (id : Option String) : Prop :=
  ∀ text, id = some text → text ≠ "" ∧ strip text = text

/- No colon stands in an id. -/
def NoColon (id : Option String) : Prop :=
  ∀ text, id = some text → ':' ∉ text.toList

instance (id : Option String) : Decidable (Unpadded id) := by
  unfold Unpadded
  infer_instance

instance (id : Option String) : Decidable (NoColon id) := by
  unfold NoColon
  infer_instance

/-
  Ids whose key can be read back: without padding, and with
  no colon in the tenant, the sender and the receiver.
-/
@[mk_iff]
structure Plain (ids : InterchangeIds) : Prop where
  tenant_strip : strip ids.tenantId = ids.tenantId
  tenant_colon : ':' ∉ ids.tenantId.toList
  sender_unpadded : Unpadded ids.senderId
  sender_colon : NoColon ids.senderId
  receiver_unpadded : Unpadded ids.receiverId
  receiver_colon : NoColon ids.receiverId
  isa13_unpadded : Unpadded ids.isa13

/- Whether ids are plain can be decided. -/
instance (ids : InterchangeIds) : Decidable (Plain ids) :=
  decidable_of_iff _ (plain_iff ids).symm

/- The empty text has no padding. -/
theorem strip_empty : strip "" = "" := by
  decide

variable {id : Option String}

/- An unpadded id stands in the key as it is. -/
theorem Unpadded.strip_getD
    (hId : Unpadded id) :
    strip (id.getD "") = id.getD "" := by
  cases id with
  | none => exact strip_empty
  | some text => exact (hId text rfl).2

/- An unpadded id is known from its text in the key. -/
theorem Unpadded.getD_inj
    {id id' : Option String}
    (hId : Unpadded id)
    (hId' : Unpadded id')
    (hEq : id.getD "" = id'.getD "") :
    id = id' := by
  cases id with
  | none =>
      cases id' with
      | none => rfl
      | some text => exact absurd hEq.symm (hId' text rfl).1
  | some text =>
      cases id' with
      | none => exact absurd hEq (hId text rfl).1
      | some text' => exact congrArg some hEq

/- An id without a colon puts none into the key. -/
theorem NoColon.getD
    (hId : NoColon id) :
    ':' ∉ (id.getD "").toList := by
  cases id with
  | none => simp
  | some text => exact hId text rfl

/- The characters of the key of plain ids. -/
theorem Plain.toList_dedupKey
    {ids : InterchangeIds}
    (hPlain : Plain ids) :
    (dedupKey ids).toList =
      dedupKeyPrefix.toList ++
        (ids.tenantId.toList ++ ':' ::
          ((ids.senderId.getD "").toList ++ ':' ::
            ((ids.receiverId.getD "").toList ++ ':' ::
              (ids.isa13.getD "").toList))) := by
  simp only [dedupKey, hPlain.tenant_strip,
    hPlain.sender_unpadded.strip_getD,
    hPlain.receiver_unpadded.strip_getD,
    hPlain.isa13_unpadded.strip_getD, String.toList_append,
    List.append_assoc]
  rfl

/- Plain ids that share a claim key are the same. -/
theorem dedupKey_inj
    {ids ids' : InterchangeIds}
    (hPlain : Plain ids)
    (hPlain' : Plain ids')
    (hKey : dedupKey ids = dedupKey ids') :
    ids = ids' := by
  have hChars := congrArg String.toList hKey
  rw [hPlain.toList_dedupKey, hPlain'.toList_dedupKey]
    at hChars
  rcases Text.append_delim_inj hPlain.tenant_colon
      hPlain'.tenant_colon (List.append_cancel_left hChars)
    with ⟨hTenant, hRest⟩
  rcases Text.append_delim_inj hPlain.sender_colon.getD
      hPlain'.sender_colon.getD hRest with ⟨hSender, hRest⟩
  rcases Text.append_delim_inj hPlain.receiver_colon.getD
      hPlain'.receiver_colon.getD hRest with
    ⟨hReceiver, hIsa13⟩
  have hSame :
      ∀ id id' : Option String, Unpadded id → Unpadded id' →
        (id.getD "").toList = (id'.getD "").toList →
          id = id' := by
    intro id id' hId hId' hEq
    exact hId.getD_inj hId' (String.toList_injective hEq)
  cases ids
  cases ids'
  rw [InterchangeIds.mk.injEq]
  exact
    ⟨String.toList_injective hTenant,
      hSame _ _ hPlain.sender_unpadded
        hPlain'.sender_unpadded hSender,
      hSame _ _ hPlain.receiver_unpadded
        hPlain'.receiver_unpadded hReceiver,
      hSame _ _ hPlain.isa13_unpadded
        hPlain'.isa13_unpadded hIsa13⟩

--------
-- Claim And Release
--------

/- The keys Redis holds, with the token of each. -/
abbrev Redis := String → Option String

/-
  How a call to Redis goes: there is no client, the call is
  answered, or it raises before or after it took effect.
-/
inductive Contact where
  | noClient
  | answered
  | raised (landed : Bool)
  deriving DecidableEq, Repr

/- Whether a call takes effect. -/
def Contact.lands : Contact → Bool
| .noClient => false
| .answered => true
| .raised landed => landed

/- `not isa13 or not sender_id`. -/
def missingIds (ids : InterchangeIds) : Bool :=
  ids.isa13.getD "" = "" || ids.senderId.getD "" = ""

/- `SET key token NX`. -/
def setNx (redis : Redis) (key token : String) : Redis :=
  if redis key = none then
    Function.update redis key (some token)
  else
    redis

/-
  `check_and_record_interchange`: whether the interchange is
  a duplicate, and the keys after it. The caller does not use
  the value it reads back.
-/
def checkAndRecordInterchange
    (contact : Contact)
    (redis : Redis)
    (ids : InterchangeIds)
    (claimToken : String) : Bool × Redis :=
  if missingIds ids then
    (false, redis)
  else
    let key := dedupKey ids
    let after :=
      if contact.lands then setNx redis key claimToken
      else redis
    (contact = .answered && (redis key).isSome, after)

/- `_RELEASE_IF_OWNER_LUA`. -/
def releaseIfOwner
    (redis : Redis)
    (key token : String) : Redis :=
  if redis key = some token then
    Function.update redis key none
  else
    redis

/- `release_interchange`. -/
def releaseInterchange
    (contact : Contact)
    (redis : Redis)
    (ids : InterchangeIds)
    (claimToken : String) : Redis :=
  if missingIds ids then redis
  else if contact.lands then
    releaseIfOwner redis (dedupKey ids) claimToken
  else redis

/- A claim sets its own key where it was free, or nothing. -/
theorem checkAndRecordInterchange_cases
    (contact : Contact)
    (redis : Redis)
    (ids : InterchangeIds)
    (claimToken : String) :
    (checkAndRecordInterchange contact redis ids
        claimToken).2 = redis ∨
      redis (dedupKey ids) = none ∧
        (checkAndRecordInterchange contact redis ids
            claimToken).2 =
          Function.update redis (dedupKey ids)
            (some claimToken) := by
  unfold checkAndRecordInterchange
  split
  · exact Or.inl rfl
  · dsimp only
    split
    · unfold setNx
      split
      · rename_i hFree
        exact Or.inr ⟨hFree, rfl⟩
      · exact Or.inl rfl
    · exact Or.inl rfl

/- A release frees its own key with its token, or nothing. -/
theorem releaseInterchange_cases
    (contact : Contact)
    (redis : Redis)
    (ids : InterchangeIds)
    (claimToken : String) :
    releaseInterchange contact redis ids claimToken = redis ∨
      redis (dedupKey ids) = some claimToken ∧
        releaseInterchange contact redis ids claimToken =
          Function.update redis (dedupKey ids) none := by
  unfold releaseInterchange
  split
  · exact Or.inl rfl
  · split
    · unfold releaseIfOwner
      split
      · rename_i hOwn
        exact Or.inr ⟨hOwn, rfl⟩
      · exact Or.inl rfl
    · exact Or.inl rfl

--------
-- Requests
--------

/- A request: the ids it read, and its `uuid4` token. -/
structure ClaimRequest where
  ids : InterchangeIds
  claimToken : String
  deriving DecidableEq, Repr

/- What the requests and Redis do, one at a time. -/
inductive ClaimAction where
  | claim (request : ClaimRequest) (contact : Contact)
  | finish
      (request : ClaimRequest)
      (stored : Bool)
      (contact : Contact)
  | expire (key : String)
  deriving DecidableEq, Repr

/-
  Redis, the requests that asked for a claim, and those of
  them that have passed the check and not ended.
-/
structure Claims where
  redis : Redis
  asked : List ClaimRequest
  live : List ClaimRequest

namespace Claims

/- No key and no request. -/
def empty : Claims :=
  { redis := fun _ => none, asked := [], live := [] }

/-
  One step. A request comes with a token of its own. It is
  refused as a duplicate, or goes on until it ends: with its
  events stored, or with its claim released. The time to live
  of a key may end at any moment.
-/
def step (s : Claims) : ClaimAction → Option Claims
| .claim request contact =>
    if request.claimToken ∈ s.asked.map (·.claimToken) then
      none
    else
      let out :=
        checkAndRecordInterchange contact s.redis request.ids
          request.claimToken
      some
        { redis := out.2
          asked := request :: s.asked
          live :=
            if out.1 then s.live else request :: s.live }
| .finish request stored contact =>
    if request ∈ s.live then
      some
        { redis :=
            if stored then s.redis
            else
              releaseInterchange contact s.redis request.ids
                request.claimToken
          asked := s.asked
          live := s.live.erase request }
    else
      none
| .expire key =>
    some { s with redis := Function.update s.redis key none }

/- A request holds the claim of its interchange. -/
def Holds (s : Claims) (request : ClaimRequest) : Prop :=
  s.redis (dedupKey request.ids) = some request.claimToken

instance (s : Claims) (request : ClaimRequest) :
    Decidable (s.Holds request) := by
  unfold Holds
  infer_instance

/-
  Tokens are never shared, and the requests that go on have
  asked.
-/
structure Booked (s : Claims) : Prop where
  tokens : (s.asked.map (·.claimToken)).Nodup
  live_asked : ∀ request ∈ s.live, request ∈ s.asked

variable {s : Claims}

theorem Booked.eq_of_claimToken
    (hBooked : Booked s)
    {request other : ClaimRequest}
    (hRequest : request ∈ s.asked)
    (hOther : other ∈ s.asked)
    (hToken : request.claimToken = other.claimToken) :
    request = other :=
  List.inj_on_of_nodup_map hBooked.tokens hRequest hOther
    hToken

/- Every step keeps the requests booked. -/
theorem step_booked
    (s : Claims)
    (action : ClaimAction)
    (next : Claims)
    (hBooked : Booked s)
    (hStep : step s action = some next) :
    Booked next := by
  cases action with
  | claim request contact =>
      simp only [step] at hStep
      split at hStep
      · cases hStep
      · rename_i hFresh
        rw [Option.some.injEq] at hStep
        rw [← hStep]
        refine ⟨?_, ?_⟩
        · rw [List.map_cons, List.nodup_cons]
          exact ⟨hFresh, hBooked.tokens⟩
        · intro other hOther
          rw [List.mem_cons]
          dsimp only at hOther
          split at hOther
          · exact Or.inr (hBooked.live_asked other hOther)
          · rcases List.mem_cons.mp hOther with hEq | hLive
            · exact Or.inl hEq
            · exact Or.inr (hBooked.live_asked other hLive)
  | finish request stored contact =>
      simp only [step] at hStep
      split at hStep
      · rw [Option.some.injEq] at hStep
        rw [← hStep]
        exact
          ⟨hBooked.tokens, fun other hOther =>
            hBooked.live_asked other
              (List.mem_of_mem_erase hOther)⟩
      · cases hStep
  | expire key =>
      simp only [step, Option.some.injEq] at hStep
      rw [← hStep]
      exact ⟨hBooked.tokens, hBooked.live_asked⟩

/-
  A claim that is held is held after any step, unless its key
  expires or its own request ends without events stored.
-/
theorem holds_step
    {s next : Claims}
    {action : ClaimAction}
    {holder : ClaimRequest}
    (hBooked : Booked s)
    (hAsked : holder ∈ s.asked)
    (hHolds : s.Holds holder)
    (hStep : step s action = some next) :
    next.Holds holder ∨
      action = .expire (dedupKey holder.ids) ∨
      ∃ contact, action = .finish holder false contact := by
  cases action with
  | claim request contact =>
      simp only [step] at hStep
      split at hStep
      · cases hStep
      · rw [Option.some.injEq] at hStep
        rw [← hStep]
        left
        rcases checkAndRecordInterchange_cases contact s.redis
            request.ids request.claimToken with
          hSame | ⟨hFree, hSet⟩
        · rw [Holds, hSame]
          exact hHolds
        · have hKey :
              dedupKey holder.ids ≠ dedupKey request.ids := by
            intro hKey
            rw [Holds, hKey, hFree] at hHolds
            cases hHolds
          simp only [Holds, hSet]
          rw [Function.update_of_ne hKey]
          exact hHolds
  | finish request stored contact =>
      simp only [step] at hStep
      split at hStep
      · rename_i hLive
        rw [Option.some.injEq] at hStep
        rw [← hStep]
        cases stored with
        | true => exact Or.inl hHolds
        | false =>
            rcases releaseInterchange_cases contact s.redis
                request.ids request.claimToken with
              hSame | ⟨hOwn, hFreed⟩
            · left
              simp only [Holds, hSame, Bool.false_eq_true,
                if_false]
              exact hHolds
            · by_cases hKey :
                dedupKey holder.ids = dedupKey request.ids
              · have hToken :
                    holder.claimToken = request.claimToken := by
                  rw [Holds, hKey, hOwn] at hHolds
                  exact (Option.some.inj hHolds).symm
                have hEq :=
                  hBooked.eq_of_claimToken hAsked
                    (hBooked.live_asked request hLive) hToken
                rw [hEq]
                exact Or.inr (Or.inr ⟨contact, rfl⟩)
              · left
                simp only [Holds, hFreed, Bool.false_eq_true,
                  if_false]
                rw [Function.update_of_ne hKey]
                exact hHolds
      · cases hStep
  | expire key =>
      simp only [step, Option.some.injEq] at hStep
      rw [← hStep]
      by_cases hKey : dedupKey holder.ids = key
      · rw [hKey]
        exact Or.inr (Or.inl rfl)
      · left
        simp only [Holds]
        rw [Function.update_of_ne hKey]
        exact hHolds

/- The ids a request asks under are plain. -/
def AsksPlain (_ : Claims) (action : ClaimAction) : Prop :=
  ∀ request contact, action = .claim request contact →
    Plain request.ids

instance
    (s : Claims)
    (action : ClaimAction) :
    Decidable (AsksPlain s action) :=
  match action with
  | .claim request contact =>
      decidable_of_iff (Plain request.ids)
        ⟨fun hPlain other contact' hEq => by
            cases hEq
            exact hPlain,
          fun hPlain => hPlain request contact rfl⟩
  | .finish _ _ _ => isTrue (fun _ _ hEq => by cases hEq)
  | .expire _ => isTrue (fun _ _ hEq => by cases hEq)

/- All requests so far have asked under plain ids. -/
def AllPlain (s : Claims) : Prop :=
  ∀ request ∈ s.asked, Plain request.ids

/- All ids are plain after a step that asks under plain ids. -/
theorem step_allPlain
    (s : Claims)
    (action : ClaimAction)
    (next : Claims)
    (hAll : AllPlain s)
    (hPlain : AsksPlain s action)
    (hStep : step s action = some next) :
    AllPlain next := by
  cases action with
  | claim request contact =>
      simp only [step] at hStep
      split at hStep
      · cases hStep
      · rw [Option.some.injEq] at hStep
        rw [← hStep]
        intro other hOther
        rcases List.mem_cons.mp hOther with rfl | hOther
        · exact hPlain other contact rfl
        · exact hAll other hOther
  | finish request stored contact =>
      simp only [step] at hStep
      split at hStep
      · rw [Option.some.injEq] at hStep
        rw [← hStep]
        exact hAll
      · cases hStep
  | expire key =>
      simp only [step, Option.some.injEq] at hStep
      rw [← hStep]
      exact hAll

/-
  What the claims protect in a state: a held claim is only
  freed by its expiry or by the end of its own request, two
  requests never hold the claim of one interchange, and two
  interchanges never share a key.
-/
structure Protected (s : Claims) : Prop where
  kept :
    ∀ holder ∈ s.asked, s.Holds holder →
      ∀ action next, step s action = some next →
        next.Holds holder ∨
          action = .expire (dedupKey holder.ids) ∨
          ∃ contact, action = .finish holder false contact
  one_holder :
    ∀ request ∈ s.live, ∀ other ∈ s.live,
      request.ids = other.ids → s.Holds request →
        s.Holds other → request = other
  keys :
    ∀ request ∈ s.asked, ∀ other ∈ s.asked,
      request.ids ≠ other.ids →
        dedupKey request.ids ≠ dedupKey other.ids

/- Booked requests with plain ids are protected. -/
theorem Booked.to_protected
    (hBooked : Booked s)
    (hPlain : AllPlain s) :
    Protected s := by
  refine ⟨?_, ?_, ?_⟩
  · intro holder hAsked hHolds action next hStep
    exact holds_step hBooked hAsked hHolds hStep
  · intro request hRequest other hOther hIds hHolds hHolds'
    apply hBooked.eq_of_claimToken
      (hBooked.live_asked request hRequest)
      (hBooked.live_asked other hOther)
    rw [Holds, hIds] at hHolds
    rw [Holds, hHolds] at hHolds'
    exact Option.some.inj hHolds'
  · intro request hRequest other hOther hIds hKey
    exact hIds
      (dedupKey_inj (hPlain request hRequest)
        (hPlain other hOther) hKey)

/-
  In every run in which the requests ask under plain ids, the
  claims are protected.
-/
theorem run_protected
    (actions : List ClaimAction)
    (s : Claims)
    (hPlain : Machine.Meets step AsksPlain empty actions)
    (hRun : Machine.run step empty actions = some s) :
    Protected s := by
  have hEmpty : Booked empty := by
    refine ⟨List.nodup_nil, ?_⟩
    intro request hRequest
    cases hRequest
  have hBooked : Booked s :=
    Machine.run_keeps step_booked hEmpty hRun
  have hNone : AllPlain empty := by
    intro request hRequest
    cases hRequest
  have hAll : AllPlain s :=
    Machine.run_invariant step_allPlain hNone hPlain hRun
  exact hBooked.to_protected hAll

/- An interchange of one partner, and a resend of it. -/
def firstSend : ClaimRequest :=
  ⟨⟨"tenant-a", some "ACME", some "REGENG",
    some "000000001"⟩, "token-1"⟩

def resend : ClaimRequest :=
  { firstSend with claimToken := "token-2" }

/-
  The first request loses its claim to the time to live, the
  resend takes it, and then the first request fails.
-/
def staleRun : List ClaimAction :=
  [.claim firstSend .answered,
    .expire (dedupKey firstSend.ids),
    .claim resend .answered,
    .finish firstSend false .answered]

/- The stale request does not free the claim of the resend. -/
theorem run_protected_staleRun :
    ∃ s,
      Machine.run step empty staleRun = some s ∧
        s.Holds resend ∧ Protected s := by
  have hMeets :
      Machine.Meets step AsksPlain empty staleRun := by
    decide +kernel
  have hHeld :
      (Machine.run step empty staleRun).map (fun s =>
          decide (s.Holds resend)) =
        some true := by
    decide
  rcases Option.map_eq_some_iff.mp hHeld with
    ⟨s, hRun, hHolds⟩
  exact
    ⟨s, hRun, of_decide_eq_true hHolds,
      run_protected staleRun s hMeets hRun⟩

/- Two interchanges whose joined ids read the same. -/
def senderWithColon : ClaimRequest :=
  ⟨⟨"tenant-a", some "ACME:EU", some "REGENG",
    some "000000001"⟩, "token-1"⟩

def receiverWithColon : ClaimRequest :=
  ⟨⟨"tenant-a", some "ACME", some "EU:REGENG",
    some "000000001"⟩, "token-2"⟩

/-
  While the first is ingested the second is refused as its
  duplicate.
-/
theorem not_protected_shared_key :
    ∃ s,
      Machine.run step empty
          [.claim senderWithColon .answered,
            .claim receiverWithColon .answered] = some s ∧
        senderWithColon.ids ≠ receiverWithColon.ids ∧
        receiverWithColon ∉ s.live ∧ ¬ Protected s := by
  have hLive :
      (Machine.run step empty
          [.claim senderWithColon .answered,
            .claim receiverWithColon .answered]).map
          (fun s => (s.asked, s.live)) =
        some
          ([receiverWithColon, senderWithColon],
            [senderWithColon]) := by
    decide +kernel
  rcases Option.map_eq_some_iff.mp hLive with
    ⟨s, hRun, hPair⟩
  rw [Prod.mk.injEq] at hPair
  have hIds :
      senderWithColon.ids ≠ receiverWithColon.ids := by
    decide
  refine ⟨s, hRun, hIds, ?_, ?_⟩
  · rw [hPair.2]
    decide
  · intro hProtected
    refine hProtected.keys senderWithColon ?_
      receiverWithColon ?_ hIds (by decide +kernel)
    · simp [hPair.1]
    · simp [hPair.1]

end Claims

end EdiIngestion

end RegEngine
