import RegEngine.Ingestion.StripeBilling.CustomerDeletion
import RegEngine.Library.Machine
import RegEngine.Library.Newest

/-
  The status that a tenant comes to, whatever the order in
  which the events of its subscription are delivered.

  Main declarations:
    * `StripeBilling.Feed`
    * `StripeBilling.converges_of_ordered`
    * `StripeBilling.not_converges`
-/

--------
-- Events Of One Subscription
--------

namespace RegEngine

namespace StripeBilling

section

/- A tenant with its customer and its subscription. -/
structure Account where
  tenantId : String
  subscription : String
  customer : String
  tenantId_ne : tenantId ≠ ""
  subscription_ne : subscription ≠ ""
  customer_ne : customer ≠ ""

/- A checkout of the subscription that no check refuses. -/
structure Account.Checks
    (account : Account)
    (session : CheckoutSession) : Prop where
  subscription :
    session.subscription = some account.subscription
  customer : session.customer = some account.customer
  claimed :
    (truthy session.metadata.tenantId).any
      (fun claimed => claimed != account.tenantId) = false
  period :
    (normalizeBillingPeriod
      (session.metadata.billingPeriod.getD
        "monthly")).toBool = true

/- An invoice of the subscription, or a one-off invoice. -/
structure Account.Bills
    (account : Account)
    (invoice : Invoice) : Prop where
  subscription :
    invoice.subscription = some account.subscription ∨
      truthy invoice.subscription = none
  customer : invoice.customer = some account.customer

/- The events of the customer and of the subscription. -/
def Account.About (account : Account) : EventObject → Prop
| .checkoutCompleted session => account.Checks session
| .asyncPaymentSucceeded session => account.Checks session
| .asyncPaymentFailed session =>
    session.subscription = some account.subscription ∧
      session.customer = some account.customer
| .invoicePaymentFailed invoice => account.Bills invoice
| .invoicePaid invoice => account.Bills invoice
| .subscriptionUpdated subscription =>
    subscription.id = some account.subscription ∧
      subscription.customer = some account.customer
| .subscriptionDeleted subscription =>
    subscription.id = some account.subscription ∧
      subscription.customer = some account.customer
| .trialWillEnd subscription =>
    subscription.id = some account.subscription ∧
      subscription.customer = some account.customer
| .disputeCreated _ => False
| .customerDeleted _ => False
| .ignored _ => False

/-
  The status that an event carries, if any; that of a checkout
  is what Stripe says of the subscription.
-/
def carriedStatus
    (out : Outside)
    (retrieved : Subscription) :
    EventObject → Option String
| .checkoutCompleted session =>
    some (checkoutStatus out session (some retrieved))
| .asyncPaymentSucceeded session =>
    some (checkoutStatus out session (some retrieved))
| .asyncPaymentFailed _ => some "incomplete"
| .invoicePaymentFailed invoice =>
    (truthy invoice.subscription).map (fun _ => "past_due")
| .invoicePaid invoice =>
    (truthy invoice.subscription).map (fun _ => "active")
| .subscriptionUpdated subscription =>
    some ((truthy subscription.status).getD "active")
| .subscriptionDeleted _ => some "canceled"
| .trialWillEnd subscription => truthy subscription.status
| .disputeCreated _ => none
| .customerDeleted _ => none
| .ignored _ => none

/-
  Finitely many events about one subscription, with distinct
  times; what Stripe says of it; and a world in which a tenant
  that is made is the tenant of the account.
-/
structure Feed where
  account : Account
  out : Outside
  retrieved : Subscription
  events : List StripeEvent
  retrieve :
    out.retrieve account.subscription = some retrieved
  created :
    ∀ name,
      out.createTenantViaAdmin name = .ok account.tenantId
  about : ∀ event ∈ events, account.About event.object
  timed : ∀ event ∈ events, event.created ≠ 0
  distinct :
    ∀ event ∈ events, ∀ other ∈ events,
      event.created = other.created → event = other
  status :
    ∀ event ∈ events,
      carriedStatus out retrieved event.object ≠
        some "customer_deleted"

/- The status that an event of the feed carries. -/
def Feed.carried (feed : Feed) (event : StripeEvent) :
    Option String :=
  carriedStatus feed.out feed.retrieved event.object

/- An event of the feed that bears a status. -/
def Feed.Bears (feed : Feed) (event : StripeEvent) : Prop :=
  (feed.carried event).isSome = true

/-
  An event of the feed is delivered, for the first time or once
  more, or the buffered update runs out of time.
-/
inductive FeedAction (feed : Feed) where
  | deliver (event : StripeEvent) (mem : event ∈ feed.events)
  | expire

/- The state, and the events that were delivered. -/
structure Progress where
  state : BillingState
  delivered : List StripeEvent

/- `_PENDING_SUB_UPDATE_TTL_SECONDS` have passed. -/
def BillingState.expirePending
    (s : BillingState)
    (subscription : String) : BillingState :=
  { s with
    pending := Function.update s.pending subscription none }

def Progress.step
    {feed : Feed}
    (p : Progress) : FeedAction feed → Progress
| .deliver event _ =>
    { state := (handleStripeEvent feed.out p.state event).1
      delivered := event :: p.delivered }
| .expire =>
    { p with
      state := p.state.expirePending feed.account.subscription }

/- Nothing was delivered. -/
def BillingState.begin (s : BillingState) : Progress :=
  ⟨s, []⟩

/- The tenant that the subscription or its customer leads to. -/
def Feed.found (feed : Feed) (s : BillingState) :
    Option String :=
  s.findTenantId (some feed.account.subscription)
    (some feed.account.customer)

def Feed.hash (feed : Feed) (s : BillingState) : Fields :=
  s.tenants feed.account.tenantId

def Feed.watermark (feed : Feed) (s : BillingState) :
    Option Nat :=
  BillingState.lastEventCreated (feed.hash s)

/-
  The stored status of the tenant, once it has a mapping, is
  the one of the newest event that was delivered.
-/
def Feed.Converged (feed : Feed) (p : Progress) : Prop :=
  feed.found p.state = some feed.account.tenantId →
    Newest.Holds StripeEvent.created feed.Bears p.delivered
      (fun event =>
        feed.carried event =
          some ((feed.hash p.state).get "status"))

/- The watermark is not turned back. -/
def Feed.Advances (feed : Feed) (s next : BillingState) :
    Prop :=
  ∀ created ∈ feed.watermark s,
    ∃ created' ∈ feed.watermark next, created ≤ created'

/- Its identifiers lead to the tenant, or nowhere. -/
structure Feed.Owns (feed : Feed) (s : BillingState) :
    Prop where
  subscription :
    ∀ tenantId ∈
      lookUp s.subscriptions (some feed.account.subscription),
      tenantId = feed.account.tenantId
  customer :
    ∀ tenantId ∈
      lookUp s.customers (some feed.account.customer),
      tenantId = feed.account.tenantId
  session :
    ∀ event ∈ feed.events,
      ∀ tenantId ∈ lookUp s.sessions event.object.sessionId,
        tenantId = feed.account.tenantId

/-
  Before the first delivery no update waits, and the watermark
  of the tenant can be read.
-/
structure Feed.Start (feed : Feed) (s : BillingState) :
    Prop where
  owns : feed.Owns s
  watermark : (feed.watermark s).isSome = true
  pending : s.pending feed.account.subscription = none

--------
-- Deliveries In Order
--------

variable {feed : Feed}

/- An event that is newer was delivered before. -/
def Overtaken
    (feed : Feed)
    (p : Progress)
    (event : StripeEvent) : Prop :=
  ∃ other ∈ p.delivered,
    feed.Bears other ∧ event.created < other.created

instance decidableBears (feed : Feed) (event : StripeEvent) :
    Decidable (feed.Bears event) :=
  inferInstanceAs (Decidable (_ = true))

instance decidableOvertaken
    (feed : Feed)
    (p : Progress)
    (event : StripeEvent) :
    Decidable (Overtaken feed p event) :=
  inferInstanceAs
    (Decidable (∃ other ∈ p.delivered,
      feed.Bears other ∧ event.created < other.created))

/-
  A checkout is not behind the watermark, nor overtaken once
  there is a mapping.
-/
def OrderedCheckout
    (feed : Feed)
    (p : Progress)
    (event : StripeEvent) : Prop :=
  (∀ created ∈ feed.watermark p.state,
    created ≤ event.created) ∧
  ((feed.found p.state).isSome = true →
    ¬ Overtaken feed p event)

/-
  A trial notice that finds the mapping is not overtaken, if it
  bears a status, and else there is a status to keep; one that
  bears a status and finds no mapping is overtaken.
-/
def OrderedTrial
    (feed : Feed)
    (p : Progress)
    (event : StripeEvent) : Prop :=
  if (feed.found p.state).isSome = true then
    if (feed.carried event).isSome = true then
      ¬ Overtaken feed p event
    else
      (feed.hash p.state).get "status" ≠ ""
  else
    (feed.carried event).isSome = true →
      Overtaken feed p event

/-
  Any other event that bears a status and finds the mapping is
  behind the watermark just when it is overtaken.
-/
def OrderedUpdate
    (feed : Feed)
    (p : Progress)
    (event : StripeEvent) : Prop :=
  (feed.found p.state).isSome = true →
  (feed.carried event).isSome = true →
    ∀ created ∈ feed.watermark p.state,
      (event.created < created ↔ Overtaken feed p event)

/- The condition on a delivery. -/
def OrderedEvent
    (feed : Feed)
    (p : Progress)
    (event : StripeEvent) : Prop :=
  match event.object with
  | .checkoutCompleted _ => OrderedCheckout feed p event
  | .asyncPaymentSucceeded _ => OrderedCheckout feed p event
  | .trialWillEnd _ => OrderedTrial feed p event
  | _ => OrderedUpdate feed p event

/- No buffered update is lost before a checkout drains it. -/
def Ordered (p : Progress) : FeedAction feed → Prop
| .deliver event _ => OrderedEvent feed p event
| .expire =>
    p.state.pending feed.account.subscription = none

end

--------
-- What A Mapping Of The Tenant Changes
--------

section

namespace Fields

/- A field as it was last set. -/
theorem set_apply
    (fields : Fields)
    (name value other : String) :
    fields.set name value other =
      if other = name then some value else fields other := by
  unfold Fields.set
  rw [Function.update_apply]

/- A field that may have been set. -/
theorem setIfGiven_apply
    (fields : Fields)
    (name other : String)
    (value : Option String) :
    fields.setIfGiven name value other =
      if other = name then value.or (fields other)
      else fields other := by
  cases value with
  | none => simp [setIfGiven]
  | some given =>
    simp only [setIfGiven, set_apply, Option.some_or]

end Fields

variable {key : Option String}

/- Keys that lead to a tenant, or nowhere, still do. -/
theorem eq_of_mem_lookUp_bindKey
    {keys : String → Option String}
    {name tenantId : String}
    (hKeys : ∀ found ∈ lookUp keys key, found = tenantId) :
    ∀ found ∈ lookUp (bindKey keys name tenantId) key,
      found = tenantId := by
  intro found hFound
  rcases lookUp_eq_some_iff.mp hFound with
    ⟨given, hGiven, hName, hKey, hTenant⟩
  rcases bindKey_eq_some hKey with hSame | hBefore
  · exact hSame
  · exact hKeys found (lookUp_eq_some_iff.mpr
      ⟨given, hGiven, hName, hBefore, hTenant⟩)

/- A key that leads to a tenant still does. -/
theorem lookUp_bindKey_of_eq_some
    {keys : String → Option String}
    {tenantId : String}
    (name : String)
    (hFound : lookUp keys key = some tenantId) :
    lookUp (bindKey keys name tenantId) key = some tenantId := by
  rcases lookUp_eq_some_iff.mp hFound with
    ⟨given, hGiven, hName, hKey, hTenant⟩
  refine lookUp_eq_some_iff.mpr
    ⟨given, hGiven, hName, ?_, hTenant⟩
  unfold bindKey
  split
  · exact hKey
  · rw [Function.update_apply]
    split
    · rfl
    · exact hKey

variable {feed : Feed} {s : BillingState} {now : String}
variable {payload : Fields}

/- The tenant is found by one of the two keys. -/
theorem Feed.Owns.found_iff
    (hOwns : feed.Owns s) :
    feed.found s = some feed.account.tenantId ↔
      lookUp s.subscriptions (some feed.account.subscription) =
          some feed.account.tenantId ∨
        lookUp s.customers (some feed.account.customer) =
          some feed.account.tenantId := by
  constructor
  · exact findTenantId_eq_some
  · intro hKeys
    rw [Feed.found, BillingState.findTenantId]
    cases hSub : lookUp s.subscriptions
        (some feed.account.subscription) with
    | some found =>
      rw [Option.some_or, hOwns.subscription found hSub]
    | none =>
      rw [hSub] at hKeys
      rw [Option.none_or]
      exact hKeys.resolve_left (by simp)

theorem Feed.Owns.found_eq
    (hOwns : feed.Owns s)
    (hFound : (feed.found s).isSome = true) :
    feed.found s = some feed.account.tenantId := by
  rcases Option.isSome_iff_exists.mp hFound with
    ⟨found, hHere⟩
  rcases findTenantId_eq_some hHere with hSub | hCustomer
  · rw [hHere, hOwns.subscription found hSub]
  · rw [hHere, hOwns.customer found hCustomer]

/- A mapping of the tenant keeps what the keys lead to. -/
theorem Feed.Owns.store
    (hOwns : feed.Owns s)
    (now : String)
    (payload : Fields) :
    feed.Owns (s.storeSubscriptionMapping now
      feed.account.tenantId payload) := by
  unfold BillingState.storeSubscriptionMapping
  dsimp only
  split
  · exact ⟨hOwns.subscription, hOwns.customer, hOwns.session⟩
  · constructor
    · exact eq_of_mem_lookUp_bindKey hOwns.subscription
    · exact eq_of_mem_lookUp_bindKey hOwns.customer
    · intro event hMem
      exact eq_of_mem_lookUp_bindKey (hOwns.session event hMem)

/- A tenant that was found still is. -/
theorem Feed.Owns.found_store
    (hOwns : feed.Owns s)
    (hFound : feed.found s = some feed.account.tenantId)
    (now : String)
    (payload : Fields) :
    feed.found (s.storeSubscriptionMapping now
        feed.account.tenantId payload) =
      some feed.account.tenantId := by
  apply (hOwns.store now payload).found_iff.mpr
  have hKeys := hOwns.found_iff.mp hFound
  unfold BillingState.storeSubscriptionMapping
  dsimp only
  split
  · exact hKeys
  · rcases hKeys with hSub | hCustomer
    · exact Or.inl (lookUp_bindKey_of_eq_some _ hSub)
    · exact Or.inr (lookUp_bindKey_of_eq_some _ hCustomer)

/- A mapping with the subscription makes it found. -/
theorem Feed.Owns.found_store_of_subscription
    (hOwns : feed.Owns s)
    (hStatus : payload.get "status" ∉ terminalStatuses)
    (hSub :
      payload.get "subscription_id" =
        feed.account.subscription) :
    feed.found (s.storeSubscriptionMapping now
        feed.account.tenantId payload) =
      some feed.account.tenantId := by
  apply (hOwns.store now payload).found_iff.mpr
  left
  unfold BillingState.storeSubscriptionMapping
  dsimp only
  have hKept :
      (payload.set "updated_at" now).get "status" ∉
        terminalStatuses := by
    rw [Fields.get_set,
      if_neg (show "status" ≠ "updated_at" by decide)]
    exact hStatus
  rw [if_neg hKept]
  dsimp only
  rw [Fields.get_set,
    if_neg (show "subscription_id" ≠ "updated_at" by decide),
    hSub]
  exact lookUp_bindKey feed.account.subscription_ne
    feed.account.tenantId_ne

/- The fields of the hash after a mapping was stored. -/
theorem get_hash_store
    (s : BillingState)
    (now : String)
    (payload : Fields)
    {name : String}
    (hName : name ≠ "updated_at") :
    (feed.hash (s.storeSubscriptionMapping now
        feed.account.tenantId payload)).get name =
      (payload name).getD ((feed.hash s).get name) := by
  rw [Feed.hash, tenants_storeSubscriptionMapping, get_overlay,
    Fields.set_apply, if_neg hName]
  rfl

/- The buffer is left alone. -/
@[simp]
theorem pending_storeSubscriptionMapping
    (s : BillingState)
    (now tenantId : String)
    (payload : Fields) :
    (s.storeSubscriptionMapping now tenantId payload).pending =
      s.pending := by
  unfold BillingState.storeSubscriptionMapping
  dsimp only
  split
  · rfl
  · rfl

/- The watermark is read from one field. -/
theorem lastEventCreated_congr
    {fields other : Fields}
    (hSame :
      fields.get "last_event_created" =
        other.get "last_event_created") :
    BillingState.lastEventCreated fields =
      BillingState.lastEventCreated other := by
  unfold BillingState.lastEventCreated
  rw [hSame]

/- A watermark that was written is read back. -/
theorem lastEventCreated_of_toString
    {fields : Fields}
    {created : Nat}
    (hGet :
      fields.get "last_event_created" = toString created) :
    BillingState.lastEventCreated fields = some created := by
  have hText : toString created ≠ "" := by
    intro hEmpty
    have hDigits := Chars.intOfDigits_toString created
    rw [hEmpty] at hDigits
    cases hDigits
    exact absurd hEmpty (by decide)
  unfold BillingState.lastEventCreated
  rw [hGet, if_neg hText]
  exact Chars.intOfDigits_toString created

end

--------
-- The Invariant
--------

section

/-
  Without a mapping the newest event that bears a status waits
  in the buffer.
-/
def Feed.Waiting (feed : Feed) (p : Progress) : Prop :=
  match p.state.pending feed.account.subscription with
  | none => ∀ event ∈ p.delivered, ¬ feed.Bears event
  | some update =>
      update.status ≠ "" ∧
        ∃ event,
          Newest.IsNewest StripeEvent.created feed.Bears
            p.delivered event ∧
          feed.carried event = some update.status ∧
          event.created = update.eventCreated

/- With one, nothing waits, and the status is the newest. -/
structure Feed.Bound (feed : Feed) (p : Progress) : Prop where
  found : feed.found p.state = some feed.account.tenantId
  pending : p.state.pending feed.account.subscription = none
  newest :
    Newest.Holds StripeEvent.created feed.Bears p.delivered
      (fun event =>
        feed.carried event =
          some ((feed.hash p.state).get "status"))

/- What every delivery in order keeps. -/
structure Feed.Inv (feed : Feed) (p : Progress) : Prop where
  owns : feed.Owns p.state
  watermark : (feed.watermark p.state).isSome = true
  delivered : ∀ event ∈ p.delivered, event ∈ feed.events
  phase :
    (feed.found p.state = none ∧ feed.Waiting p) ∨
      feed.Bound p

variable {feed : Feed} {s : BillingState}
variable {seen : List StripeEvent}

theorem Feed.Start.inv
    (hStart : feed.Start s) :
    feed.Inv s.begin := by
  refine ⟨hStart.owns, hStart.watermark, ?_, ?_⟩
  · rintro event ⟨⟩
  · cases hFound : feed.found s with
    | none =>
      refine Or.inl ⟨hFound, ?_⟩
      unfold Feed.Waiting BillingState.begin
      dsimp only
      rw [hStart.pending]
      rintro event ⟨⟩
    | some found =>
      refine Or.inr ⟨?_, hStart.pending, Newest.holds_nil⟩
      exact hStart.owns.found_eq (by rw [hFound]; rfl)

/- The watermark as it was is not turned back. -/
theorem Feed.Advances.refl
    (feed : Feed)
    (s : BillingState) :
    feed.Advances s s := by
  intro created hMem
  exact ⟨created, hMem, Nat.le_refl _⟩

variable {next : BillingState}

/- Nor is one that is the same again. -/
theorem Feed.Advances.of_eq
    (hSame : feed.watermark next = feed.watermark s) :
    feed.Advances s next := by
  intro created hMem
  exact ⟨created, by rw [hSame]; exact hMem, Nat.le_refl _⟩

theorem Feed.Advances.trans
    {next final : BillingState}
    (hFirst : feed.Advances s next)
    (hSecond : feed.Advances next final) :
    feed.Advances s final := by
  intro created hMem
  rcases hFirst created hMem with ⟨between, hBetween, hLe⟩
  rcases hSecond between hBetween with ⟨last, hLast, hLe'⟩
  exact ⟨last, hLast, Nat.le_trans hLe hLe'⟩

/- What the invariant reads of the state. -/
structure Feed.Same (feed : Feed) (s next : BillingState) :
    Prop where
  owns : feed.Owns next
  found : feed.found next = feed.found s
  pending :
    next.pending feed.account.subscription =
      s.pending feed.account.subscription
  status :
    (feed.hash next).get "status" =
      (feed.hash s).get "status"
  watermark : feed.watermark next = feed.watermark s

/- A state that reads the same satisfies it, too. -/
theorem Feed.Inv.of_same
    (hInv : feed.Inv ⟨s, seen⟩)
    (hSame : feed.Same s next) :
    feed.Inv ⟨next, seen⟩ := by
  refine ⟨hSame.owns, ?_, hInv.delivered, ?_⟩
  · change (feed.watermark next).isSome = true
    rw [hSame.watermark]
    exact hInv.watermark
  · rcases hInv.phase with ⟨hNone, hWaiting⟩ | hBound
    · refine Or.inl ⟨hSame.found.trans hNone, ?_⟩
      unfold Feed.Waiting at hWaiting ⊢
      dsimp only at hWaiting ⊢
      rw [hSame.pending]
      exact hWaiting
    · refine Or.inr ⟨hSame.found.trans hBound.found,
        hSame.pending.trans hBound.pending, ?_⟩
      dsimp only
      rw [hSame.status]
      exact hBound.newest

variable {event : StripeEvent}

/- Events of the feed that were not overtaken are the newest. -/
theorem newest_of_not_overtaken
    (hFirst : ¬ Overtaken feed ⟨s, seen⟩ event) :
    ∀ other ∈ seen, feed.Bears other →
      other.created ≤ event.created := by
  intro other hMem hBears
  by_contra hNewer
  exact hFirst ⟨other, hMem, hBears, Nat.lt_of_not_le hNewer⟩

/- No other event of the feed has the same time. -/
theorem Feed.Inv.distinct
    (hInv : feed.Inv ⟨s, seen⟩)
    (hMem : event ∈ feed.events) :
    ∀ other ∈ seen,
      other.created = event.created → other = event := by
  intro other hOther hSame
  exact feed.distinct other (hInv.delivered other hOther) event
    hMem hSame

/- An event that bears no status, and changes none. -/
theorem Feed.Inv.silent
    (hInv : feed.Inv ⟨s, seen⟩)
    (hMem : event ∈ feed.events)
    (hSilent : ¬ feed.Bears event) :
    feed.Inv ⟨s, event :: seen⟩ := by
  refine ⟨hInv.owns, hInv.watermark, ?_, ?_⟩
  · intro other hOther
    rcases List.mem_cons.mp hOther with rfl | hSeen
    · exact hMem
    · exact hInv.delivered other hSeen
  · rcases hInv.phase with ⟨hNone, hWaiting⟩ | hBound
    · refine Or.inl ⟨hNone, ?_⟩
      unfold Feed.Waiting at hWaiting ⊢
      dsimp only at hWaiting ⊢
      split
      · rename_i hPending
        rw [hPending] at hWaiting
        intro other hOther
        rcases List.mem_cons.mp hOther with rfl | hSeen
        · exact hSilent
        · exact hWaiting other hSeen
      · rename_i update hPending
        rw [hPending] at hWaiting
        rcases hWaiting with ⟨hText, newest, hNewest, hRest⟩
        exact ⟨hText, newest,
          (Newest.isNewest_cons_of_silent hSilent).mpr hNewest,
          hRest⟩
    · exact Or.inr ⟨hBound.found, hBound.pending,
        Newest.holds_cons_of_silent hBound.newest hSilent⟩

/- An event that was overtaken, and changes nothing. -/
theorem Feed.Inv.overtaken
    (hInv : feed.Inv ⟨s, seen⟩)
    (hMem : event ∈ feed.events)
    (hOvertaken : Overtaken feed ⟨s, seen⟩ event) :
    feed.Inv ⟨s, event :: seen⟩ := by
  rcases hOvertaken with ⟨other, hOther, hBears, hOlder⟩
  refine ⟨hInv.owns, hInv.watermark, ?_, ?_⟩
  · intro event' hEvent
    rcases List.mem_cons.mp hEvent with rfl | hSeen
    · exact hMem
    · exact hInv.delivered event' hSeen
  · rcases hInv.phase with ⟨hNone, hWaiting⟩ | hBound
    · refine Or.inl ⟨hNone, ?_⟩
      unfold Feed.Waiting at hWaiting ⊢
      dsimp only at hWaiting ⊢ hOther
      split
      · rename_i hPending
        rw [hPending] at hWaiting
        exact absurd hBears (hWaiting other hOther)
      · rename_i update hPending
        rw [hPending] at hWaiting
        rcases hWaiting with ⟨hText, newest, hNewest, hRest⟩
        exact ⟨hText, newest,
          (Newest.isNewest_cons_of_older hOther hBears
            hOlder).mpr hNewest,
          hRest⟩
    · exact Or.inr ⟨hBound.found, hBound.pending,
        Newest.holds_cons_of_older hBound.newest hOther hBears
          hOlder⟩

end

--------
-- Updates
--------

section

/- The update of an event that bears a status. -/
structure Feed.Updates
    (feed : Feed)
    (event : StripeEvent)
    (u : StatusUpdate) : Prop where
  subscription :
    u.subscriptionId = some feed.account.subscription
  customer : u.customerId = some feed.account.customer
  created : u.eventCreated = some event.created
  preserves : u.preserveStatus = false
  carried : feed.carried event = some u.status
  nonempty : u.status ≠ ""

/- The update of an invoice without a subscription. -/
structure Feed.Invoices
    (feed : Feed)
    (event : StripeEvent)
    (u : StatusUpdate) : Prop where
  subscription : truthy u.subscriptionId = none
  customer : u.customerId = some feed.account.customer
  created : u.eventCreated = some event.created
  preserves : u.preserveStatus = true
  carried : feed.carried event = none

variable {feed : Feed} {s : BillingState}
variable {seen : List StripeEvent} {event : StripeEvent}
variable {u : StatusUpdate}

/- The guard compares with the watermark. -/
theorem stale_iff
    {fields : Fields}
    {created lastSeen : Nat}
    (hCreated : u.eventCreated = some created)
    (hLast :
      BillingState.lastEventCreated fields = some lastSeen) :
    u.stale fields = decide (created < lastSeen) := by
  unfold StatusUpdate.stale
  rw [hCreated]
  dsimp only
  rw [hLast]

theorem mapping_status
    (u : StatusUpdate)
    (existing : Fields) :
    u.mapping existing "status" =
      if u.preserveStatus = true then existing "status"
      else some u.status := by
  unfold StatusUpdate.mapping
  cases u.preserveStatus with
  | true => simp [Fields.setIfGiven_apply, Fields.set_apply]
  | false => simp [Fields.setIfGiven_apply, Fields.set_apply]

/- The time stamp in it. -/
theorem mapping_lastEventCreated
    (u : StatusUpdate)
    (existing : Fields) :
    u.mapping existing "last_event_created" =
      (u.eventCreated.map toString).or
        (existing "last_event_created") := by
  unfold StatusUpdate.mapping
  cases u.preserveStatus with
  | true => simp [Fields.setIfGiven_apply, Fields.set_apply]
  | false => simp [Fields.setIfGiven_apply, Fields.set_apply]

/- An update that is written moves the watermark to it. -/
theorem watermark_update
    {created : Nat}
    (hCreated : u.eventCreated = some created)
    (now : String) :
    feed.watermark (s.storeSubscriptionMapping now
        feed.account.tenantId (u.mapping (feed.hash s))) =
      some created := by
  apply lastEventCreated_of_toString
  rw [get_hash_store _ _ _ (by decide),
    mapping_lastEventCreated, hCreated]
  rfl

/- The status of the tenant after an update is written. -/
theorem status_update
    (u : StatusUpdate)
    (now : String) :
    (feed.hash (s.storeSubscriptionMapping now
        feed.account.tenantId
        (u.mapping (feed.hash s)))).get "status" =
      if u.preserveStatus = true then
        (feed.hash s).get "status"
      else u.status := by
  rw [get_hash_store _ _ _ (by decide), mapping_status]
  split
  · unfold Fields.get
    cases feed.hash s "status" with
    | none => rfl
    | some status => rfl
  · rfl

/- An update that waits is the newest one, or is overtaken. -/
theorem Feed.Inv.buffer
    (hInv : feed.Inv ⟨s, seen⟩)
    (hNone : feed.found s = none)
    (hMem : event ∈ feed.events)
    (hUpdates : feed.Updates event u) :
    feed.Inv
      ⟨s.bufferPendingSubscriptionUpdate
        feed.account.subscription u.pending,
        event :: seen⟩ := by
  have hWaiting : feed.Waiting ⟨s, seen⟩ := by
    rcases hInv.phase with ⟨-, hWaiting⟩ | hBound
    · exact hWaiting
    · have hFound : feed.found s = _ := hBound.found
      rw [hNone] at hFound
      cases hFound
  have hBears : feed.Bears event := by
    rw [Feed.Bears, hUpdates.carried]
    rfl
  have hPending : u.pending.eventCreated = event.created := by
    change u.eventCreated.getD 0 = _
    rw [hUpdates.created]
    rfl
  have hWritten : ∀ hNewest : ∀ other ∈ seen,
        feed.Bears other → other.created ≤ event.created,
      feed.Inv
        ⟨{ s with
          pending := Function.update s.pending
            feed.account.subscription (some u.pending) },
          event :: seen⟩ := by
    intro hNewest
    refine ⟨⟨hInv.owns.subscription, hInv.owns.customer,
      hInv.owns.session⟩, hInv.watermark, ?_, Or.inl ⟨hNone, ?_⟩⟩
    · intro other hOther
      rcases List.mem_cons.mp hOther with rfl | hSeen
      · exact hMem
      · exact hInv.delivered other hSeen
    · unfold Feed.Waiting
      dsimp only
      rw [Function.update_self]
      exact ⟨hUpdates.nonempty, event,
        Newest.isNewest_cons_self hBears hNewest,
        hUpdates.carried, hPending.symm⟩
  unfold BillingState.bufferPendingSubscriptionUpdate
  unfold Feed.Waiting at hWaiting
  dsimp only at hWaiting
  split
  · rename_i buffered hBuffered
    rw [hBuffered] at hWaiting
    rcases hWaiting with ⟨-, newest, hNewest, -, hCreated⟩
    split
    · rename_i hOlder
      refine hInv.overtaken hMem
        ⟨newest, hNewest.mem, hNewest.counts, ?_⟩
      rw [hCreated, ← hPending]
      exact hOlder
    · rename_i hNewer
      apply hWritten
      intro other hOther hCounts
      have hLe := hNewest.le other hOther hCounts
      omega
  · rename_i hNothing
    rw [hNothing] at hWaiting
    apply hWritten
    intro other hOther hCounts
    exact absurd hCounts (hWaiting other hOther)

/- An update in order keeps the invariant. -/
theorem Feed.Inv.update
    (hInv : feed.Inv ⟨s, seen⟩)
    (hMem : event ∈ feed.events)
    (hUpdates : feed.Updates event u)
    (hOrdered :
      (feed.found s).isSome = true →
        ∀ created ∈ feed.watermark s,
          (event.created < created ↔
            Overtaken feed ⟨s, seen⟩ event)) :
    feed.Inv
        ⟨updateSubscriptionStatus feed.out s u,
          event :: seen⟩ ∧
      feed.Advances s
        (updateSubscriptionStatus feed.out s u) := by
  have hBears : feed.Bears event := by
    rw [Feed.Bears, hUpdates.carried]
    rfl
  have hFind :
      s.findTenantId u.subscriptionId u.customerId =
        feed.found s := by
    rw [hUpdates.subscription, hUpdates.customer]
    rfl
  rcases Option.isSome_iff_exists.mp hInv.watermark with
    ⟨lastSeen, hLast⟩
  have hLast' : feed.watermark s = some lastSeen := hLast
  rcases hInv.phase with ⟨hNone, -⟩ | hBound
  · have hName :
        truthy u.subscriptionId =
          some feed.account.subscription := by
      rw [hUpdates.subscription]
      exact truthy_some feed.account.subscription_ne
    rw [updateSubscriptionStatus_of_none (hFind.trans hNone)
      hName]
    refine ⟨hInv.buffer hNone hMem hUpdates, .of_eq ?_⟩
    unfold BillingState.bufferPendingSubscriptionUpdate
    split
    · split
      · rfl
      · rfl
    · rfl
  · have hFound := hBound.found
    have hOrdered' :=
      hOrdered (by rw [hFound]; rfl) lastSeen hLast'
    have hStale :
        u.stale (s.getSubscriptionMapping
            feed.account.tenantId) =
          decide (event.created < lastSeen) :=
      stale_iff hUpdates.created hLast
    by_cases hBehind : event.created < lastSeen
    · rw [decide_eq_true hBehind] at hStale
      rw [updateSubscriptionStatus_of_stale
        (hFind.trans hFound) hStale]
      exact ⟨hInv.overtaken hMem (hOrdered'.mp hBehind),
        .refl feed s⟩
    · rw [decide_eq_false hBehind] at hStale
      rw [updateSubscriptionStatus_of_found
        (hFind.trans hFound) hStale]
      have hMark :
          feed.watermark (s.storeSubscriptionMapping feed.out.now
              feed.account.tenantId (u.mapping (feed.hash s))) =
            some event.created :=
        watermark_update hUpdates.created _
      refine ⟨⟨hInv.owns.store _ _, ?_, ?_, Or.inr ?_⟩, ?_⟩
      · exact Option.isSome_iff_exists.mpr ⟨_, hMark⟩
      · intro other hOther
        rcases List.mem_cons.mp hOther with rfl | hSeen
        · exact hMem
        · exact hInv.delivered other hSeen
      · refine ⟨hInv.owns.found_store hFound _ _, ?_, ?_⟩
        · dsimp only
          rw [pending_storeSubscriptionMapping]
          exact hBound.pending
        · refine Newest.holds_cons_of_newest
            (hInv.distinct hMem) hBears
            (newest_of_not_overtaken
              (fun hOver => hBehind (hOrdered'.mpr hOver))) ?_
          change _ = some ((feed.hash
            (s.storeSubscriptionMapping feed.out.now
              feed.account.tenantId
              (u.mapping (feed.hash s)))).get "status")
          rw [status_update, hUpdates.preserves,
            hUpdates.carried]
          rfl
      · intro created hCreated
        rw [hLast', Option.mem_some_iff] at hCreated
        rw [← hCreated]
        exact ⟨event.created, hMark, Nat.le_of_not_lt hBehind⟩

--------
-- Events That Leave The Status
--------

/- An invoice without a subscription keeps the invariant. -/
theorem Feed.Inv.invoice
    (hInv : feed.Inv ⟨s, seen⟩)
    (hMem : event ∈ feed.events)
    (hInvoices : feed.Invoices event u) :
    feed.Inv
        ⟨updateSubscriptionStatus feed.out s u,
          event :: seen⟩ ∧
      feed.Advances s
        (updateSubscriptionStatus feed.out s u) := by
  have hSilent : ¬ feed.Bears event := by
    rw [Feed.Bears, hInvoices.carried]
    simp
  have hSeen := hInv.silent hMem hSilent
  have hFind :
      s.findTenantId u.subscriptionId u.customerId =
        lookUp s.customers (some feed.account.customer) := by
    rw [BillingState.findTenantId, lookUp,
      hInvoices.subscription, hInvoices.customer]
    rfl
  rcases Option.isSome_iff_exists.mp hInv.watermark with
    ⟨lastSeen, hLast⟩
  have hLast' : feed.watermark s = some lastSeen := hLast
  cases hCustomer : lookUp s.customers
      (some feed.account.customer) with
  | none =>
    have hUnchanged :
        updateSubscriptionStatus feed.out s u = s := by
      unfold updateSubscriptionStatus
      rw [hFind, hCustomer, hInvoices.subscription]
    rw [hUnchanged]
    exact ⟨hSeen, .refl feed s⟩
  | some found =>
    have hTenant := hInv.owns.customer found hCustomer
    rw [hTenant] at hCustomer
    have hFound : feed.found s = some feed.account.tenantId :=
      hInv.owns.found_iff.mpr (Or.inr hCustomer)
    have hStale :
        u.stale (s.getSubscriptionMapping
            feed.account.tenantId) =
          decide (event.created < lastSeen) :=
      stale_iff hInvoices.created hLast
    by_cases hBehind : event.created < lastSeen
    · rw [decide_eq_true hBehind] at hStale
      rw [updateSubscriptionStatus_of_stale
        (hFind.trans hCustomer) hStale]
      exact ⟨hSeen, .refl feed s⟩
    · rw [decide_eq_false hBehind] at hStale
      rw [updateSubscriptionStatus_of_found
        (hFind.trans hCustomer) hStale]
      have hMark :
          feed.watermark (s.storeSubscriptionMapping feed.out.now
              feed.account.tenantId (u.mapping (feed.hash s))) =
            some event.created :=
        watermark_update hInvoices.created _
      have hBound : feed.Bound ⟨s, event :: seen⟩ := by
        rcases hSeen.phase with ⟨hNone, -⟩ | hBound
        · rw [show feed.found s = none from hNone] at hFound
          cases hFound
        · exact hBound
      refine ⟨⟨hInv.owns.store _ _, ?_, hSeen.delivered,
        Or.inr ?_⟩, ?_⟩
      · exact Option.isSome_iff_exists.mpr ⟨_, hMark⟩
      · refine ⟨hInv.owns.found_store hFound _ _, ?_, ?_⟩
        · dsimp only
          rw [pending_storeSubscriptionMapping]
          exact hBound.pending
        · have hStatus :
              (feed.hash (s.storeSubscriptionMapping
                  feed.out.now feed.account.tenantId
                  (u.mapping (feed.hash s)))).get "status" =
                (feed.hash s).get "status" := by
            rw [status_update, hInvoices.preserves]
            rfl
          change Newest.Holds _ _ _ (fun event =>
            feed.carried event = some ((feed.hash
              (s.storeSubscriptionMapping feed.out.now
                feed.account.tenantId
                (u.mapping (feed.hash s)))).get "status"))
          rw [hStatus]
          exact hBound.newest
      · intro created hCreated
        rw [hLast', Option.mem_some_iff] at hCreated
        rw [← hCreated]
        exact ⟨event.created, hMark, Nat.le_of_not_lt hBehind⟩

/- A field of the hash that is written unchanged. -/
theorem getD_get
    (fields : Fields)
    (name : String) :
    (fields name).getD (fields.get name) = fields.get name := by
  unfold Fields.get
  cases fields name with
  | none => rfl
  | some value => rfl

variable {subscription : Subscription}

/- The period end of a subscription event reads the same. -/
theorem Feed.Owns.persistPeriodEnd_same
    (hOwns : feed.Owns s)
    (hId : subscription.id = some feed.account.subscription)
    (hCustomer :
      subscription.customer = some feed.account.customer)
    (eventCreated : Option Nat) :
    feed.Same s
      (persistPeriodEnd feed.out s subscription
        eventCreated) := by
  have hHere : feed.Same s s :=
    ⟨hOwns, rfl, rfl, rfl, rfl⟩
  have hFind :
      s.findTenantId subscription.id subscription.customer =
        feed.found s := by
    rw [hId, hCustomer]
    rfl
  unfold persistPeriodEnd
  rw [hFind]
  split
  · exact hHere
  · rename_i found hFound
    have hTenant :
        feed.found s = some feed.account.tenantId :=
      hOwns.found_eq (by rw [hFound]; rfl)
    rw [hTenant, Option.some.injEq] at hFound
    rw [← hFound]
    dsimp only
    split
    · split
      · exact hHere
      · refine ⟨hOwns.store _ _, ?_, ?_, ?_, ?_⟩
        · rw [hOwns.found_store hTenant, hTenant]
        · rw [pending_storeSubscriptionMapping]
        · rw [get_hash_store _ _ _ (by decide),
            Fields.set_apply, if_neg (by decide)]
          exact getD_get _ _
        · apply lastEventCreated_congr
          rw [get_hash_store _ _ _ (by decide),
            Fields.set_apply, if_neg (by decide)]
          exact getD_get _ _
    · exact hHere

/- A subscription event in order keeps the invariant. -/
theorem Feed.Inv.subscriptionEvent
    (hInv : feed.Inv ⟨s, seen⟩)
    (hMem : event ∈ feed.events)
    {status : String}
    (hId : subscription.id = some feed.account.subscription)
    (hCustomer :
      subscription.customer = some feed.account.customer)
    (hUpdates :
      feed.Updates event
        (subscriptionUpdate feed.out subscription status
          event.eventCreated))
    (hOrdered :
      (feed.found s).isSome = true →
        ∀ created ∈ feed.watermark s,
          (event.created < created ↔
            Overtaken feed ⟨s, seen⟩ event)) :
    feed.Inv
        ⟨handleSubscriptionEvent feed.out s subscription status
          event.eventCreated, event :: seen⟩ ∧
      feed.Advances s
        (handleSubscriptionEvent feed.out s subscription status
          event.eventCreated) := by
  rcases hInv.update hMem hUpdates hOrdered with
    ⟨hUpdated, hAdvances⟩
  have hSame :=
    hUpdated.owns.persistPeriodEnd_same hId hCustomer
      event.eventCreated
  exact ⟨hUpdated.of_same hSame,
    hAdvances.trans (.of_eq hSame.watermark)⟩

/- The status that a trial notice writes. -/
def trialStatus
    (subscription : Subscription)
    (existing : Fields) : String :=
  ((truthy subscription.status).or
    (truthy (existing "status"))).getD "trialing"

/- A trial notice of the feed, when its tenant is found. -/
theorem handleTrialWillEnd_of_found
    (hId : subscription.id = some feed.account.subscription)
    (hCustomer :
      subscription.customer = some feed.account.customer)
    (hFound : feed.found s = some feed.account.tenantId) :
    ∃ payload : Fields,
      handleTrialWillEnd feed.out s subscription =
        s.storeSubscriptionMapping feed.out.now
          feed.account.tenantId payload ∧
      payload "status" =
        some (trialStatus subscription (feed.hash s)) ∧
      payload "last_event_created" =
        feed.hash s "last_event_created" := by
  have hFind :
      s.findTenantId subscription.id subscription.customer =
        some feed.account.tenantId := by
    rw [hId, hCustomer]
    exact hFound
  unfold handleTrialWillEnd
  rw [hFind]
  refine ⟨_, rfl, ?_, ?_⟩
  · simp only [Fields.update_cons, Fields.update_nil,
      Fields.set_apply]
    rfl
  · simp only [Fields.update_cons, Fields.update_nil,
      Fields.set_apply]
    rfl

/- A trial notice in order keeps the invariant. -/
theorem Feed.Inv.trial
    (hInv : feed.Inv ⟨s, seen⟩)
    (hMem : event ∈ feed.events)
    (hId : subscription.id = some feed.account.subscription)
    (hCustomer :
      subscription.customer = some feed.account.customer)
    (hCarried : feed.carried event = truthy subscription.status)
    (hOrdered : OrderedTrial feed ⟨s, seen⟩ event) :
    feed.Inv
        ⟨handleTrialWillEnd feed.out s subscription,
          event :: seen⟩ ∧
      feed.Advances s
        (handleTrialWillEnd feed.out s subscription) := by
  unfold OrderedTrial at hOrdered
  dsimp only at hOrdered
  rcases hInv.phase with ⟨hNone, -⟩ | hBound
  · have hNone' : feed.found s = none := hNone
    have hUnchanged :
        handleTrialWillEnd feed.out s subscription = s := by
      have hLookup :
          s.findTenantId (some feed.account.subscription)
            (some feed.account.customer) = none :=
        hNone'
      unfold handleTrialWillEnd
      rw [hId, hCustomer, hLookup]
    rw [hUnchanged]
    rw [hNone', if_neg (by simp)] at hOrdered
    refine ⟨?_, .refl feed s⟩
    by_cases hBears : feed.Bears event
    · exact hInv.overtaken hMem (hOrdered hBears)
    · exact hInv.silent hMem hBears
  · have hFound : feed.found s = some feed.account.tenantId :=
      hBound.found
    rw [if_pos (by rw [hFound]; rfl)] at hOrdered
    rcases handleTrialWillEnd_of_found hId hCustomer hFound with
      ⟨payload, hStored, hStatus, hLast⟩
    rw [hStored]
    have hStatus' :
        (feed.hash (s.storeSubscriptionMapping feed.out.now
            feed.account.tenantId payload)).get "status" =
          trialStatus subscription (feed.hash s) := by
      rw [get_hash_store _ _ _ (by decide), hStatus]
      rfl
    have hMark :
        feed.watermark (s.storeSubscriptionMapping feed.out.now
            feed.account.tenantId payload) =
          feed.watermark s := by
      apply lastEventCreated_congr
      rw [get_hash_store _ _ _ (by decide), hLast]
      exact getD_get _ _
    refine ⟨⟨hInv.owns.store _ _, ?_, ?_, Or.inr
      ⟨hInv.owns.found_store hFound _ _, ?_, ?_⟩⟩, .of_eq hMark⟩
    · rw [hMark]
      exact hInv.watermark
    · intro other hOther
      rcases List.mem_cons.mp hOther with rfl | hSeen
      · exact hMem
      · exact hInv.delivered other hSeen
    · dsimp only
      rw [pending_storeSubscriptionMapping]
      exact hBound.pending
    · dsimp only
      rw [hStatus']
      by_cases hBears : feed.Bears event
      · have hText : ∃ text,
            truthy subscription.status = some text := by
          rw [← hCarried]
          exact Option.isSome_iff_exists.mp hBears
        rcases hText with ⟨text, hText⟩
        rw [if_pos (show (feed.carried event).isSome = true
          from hBears)] at hOrdered
        refine Newest.holds_cons_of_newest
          (hInv.distinct hMem) hBears
          (newest_of_not_overtaken hOrdered) ?_
        rw [hCarried, trialStatus, hText]
        rfl
      · have hText : truthy subscription.status = none := by
          rw [← hCarried]
          exact Option.not_isSome_iff_eq_none.mp hBears
        rw [if_neg (show ¬ (feed.carried event).isSome = true
          from hBears)] at hOrdered
        have hKept :
            trialStatus subscription (feed.hash s) =
              (feed.hash s).get "status" := by
          rw [trialStatus, hText, Option.none_or]
          unfold Fields.get at hOrdered ⊢
          cases hStored : feed.hash s "status" with
          | none =>
            rw [hStored] at hOrdered
            exact absurd rfl hOrdered
          | some text =>
            rw [hStored, Option.getD_some] at hOrdered
            rw [truthy_some hOrdered]
            rfl
        rw [hKept]
        exact Newest.holds_cons_of_silent hBound.newest hBears

end

--------
-- Checkouts In Order
--------

section

variable {feed : Feed} {s : BillingState}
variable {seen : List StripeEvent} {event : StripeEvent}
variable {session : CheckoutSession}

/- The state in which a checkout knows its tenant. -/
structure Feed.Opened (feed : Feed) (s opened : BillingState) :
    Prop where
  owns : feed.Owns opened
  tenants : opened.tenants = s.tenants
  pending : opened.pending = s.pending

/- The checkout finds the tenant, or has it made. -/
theorem Feed.Owns.handleCheckoutCompleted_eq
    (hOwns : feed.Owns s)
    (hMem : event ∈ feed.events)
    (hChecks : feed.account.Checks session)
    (hSession : event.object.sessionId = session.id)
    (eventCreated : Option Nat) :
    ∃ opened,
      feed.Opened s opened ∧
        handleCheckoutCompleted feed.out s session
            eventCreated =
          completeCheckout feed.out opened session eventCreated
            feed.account.tenantId := by
  cases hFound : (lookUp s.sessions session.id).or
      (lookUp s.customers session.customer) with
  | some found =>
    have hTenant : found = feed.account.tenantId := by
      rcases Option.or_eq_some_iff.mp hFound with
        hHere | ⟨-, hHere⟩
      · rw [← hSession] at hHere
        exact hOwns.session event hMem found hHere
      · rw [hChecks.customer] at hHere
        exact hOwns.customer found hHere
    rw [hTenant] at hFound
    exact ⟨s, ⟨hOwns, rfl, rfl⟩,
      handleCheckoutCompleted_of_found hFound hChecks.claimed _⟩
  | none =>
    refine ⟨_, ?_, handleCheckoutCompleted_of_created hFound
      (feed.created _) _⟩
    unfold BillingState.bindTenantLookups
    rw [if_neg feed.account.tenantId_ne]
    refine ⟨⟨hOwns.subscription, ?_, ?_⟩, rfl, rfl⟩
    · exact eq_of_mem_lookUp_bindKey hOwns.customer
    · intro other hOther
      exact eq_of_mem_lookUp_bindKey
        (hOwns.session other hOther)

/- The fields of the first mapping. -/
theorem initialMapping_status
    (out : Outside)
    (retrieved : Option Subscription)
    (tenantId billingPeriod : String)
    (eventCreated : Option Nat) :
    initialMapping out session retrieved tenantId billingPeriod
        eventCreated "status" =
      some (checkoutStatus out session retrieved) := by
  unfold initialMapping Fields.ofList
  simp [Fields.setIfGiven_apply, Fields.set_apply]

theorem initialMapping_subscription
    (out : Outside)
    (retrieved : Option Subscription)
    (tenantId billingPeriod : String)
    (eventCreated : Option Nat) :
    initialMapping out session retrieved tenantId billingPeriod
        eventCreated "subscription_id" =
      some (session.subscription.getD "") := by
  unfold initialMapping Fields.ofList
  simp [Fields.setIfGiven_apply, Fields.set_apply]

theorem initialMapping_lastEventCreated
    (out : Outside)
    (retrieved : Option Subscription)
    (tenantId billingPeriod : String)
    (created : Nat) :
    initialMapping out session retrieved tenantId billingPeriod
        (some created) "last_event_created" =
      some (toString created) := by
  unfold initialMapping Fields.ofList
  simp [Fields.setIfGiven_apply]

/- A buffered update that is merged. -/
theorem mergePending_status
    {existing : Fields}
    {update : PendingUpdate}
    (hText : update.status ≠ "") :
    mergePending existing update "status" =
      some update.status := by
  unfold mergePending
  simp [Fields.setIfGiven_apply, Fields.set_apply,
    truthy_some hText]

theorem mergePending_lastEventCreated
    (existing : Fields)
    (update : PendingUpdate) :
    mergePending existing update "last_event_created" =
      some (toString update.eventCreated) := by
  unfold mergePending
  simp [Fields.set_apply]

/- What a checkout leaves: a mapping, and nothing that waits. -/
structure Feed.CheckedOut
    (feed : Feed)
    (next : BillingState)
    (status : String)
    (created : Nat) : Prop where
  owns : feed.Owns next
  found : feed.found next = some feed.account.tenantId
  pending : next.pending feed.account.subscription = none
  status : (feed.hash next).get "status" = status
  watermark : feed.watermark next = some created

variable {next : BillingState} {status : String} {created : Nat}

/- A state that is left so satisfies the invariant. -/
theorem Feed.CheckedOut.inv
    (hLeft : feed.CheckedOut next status created)
    (hSeen : ∀ other ∈ seen, other ∈ feed.events)
    (hNewest :
      Newest.Holds StripeEvent.created feed.Bears seen
        (fun other => feed.carried other = some status)) :
    feed.Inv ⟨next, seen⟩ := by
  refine ⟨hLeft.owns, ?_, hSeen,
    Or.inr ⟨hLeft.found, hLeft.pending, ?_⟩⟩
  · exact Option.isSome_iff_exists.mpr ⟨_, hLeft.watermark⟩
  · dsimp only
    rw [hLeft.status]
    exact hNewest

/- The mapping of a checkout, once the buffer is emptied. -/
theorem Feed.Opened.checkedOut
    {opened : BillingState}
    (hOpened : feed.Opened s opened)
    (hChecks : feed.account.Checks session)
    (hStatus :
      checkoutStatus feed.out session (some feed.retrieved) ≠
        "customer_deleted")
    (billingPeriod : String)
    (created : Nat) :
    feed.CheckedOut
      ((opened.storeSubscriptionMapping feed.out.now
        feed.account.tenantId
        (initialMapping feed.out session (some feed.retrieved)
          feed.account.tenantId billingPeriod
          (some created))).popPendingSubscriptionUpdate
            feed.account.subscription).2
      (checkoutStatus feed.out session (some feed.retrieved))
      created := by
  have hOwns := hOpened.owns.store feed.out.now
    (initialMapping feed.out session (some feed.retrieved)
      feed.account.tenantId billingPeriod (some created))
  have hFound :
      feed.found (opened.storeSubscriptionMapping feed.out.now
          feed.account.tenantId
          (initialMapping feed.out session (some feed.retrieved)
            feed.account.tenantId billingPeriod
            (some created))) =
        some feed.account.tenantId := by
    apply hOpened.owns.found_store_of_subscription
    · rw [Fields.get, initialMapping_status, Option.getD_some,
        terminalStatuses, List.mem_singleton]
      exact hStatus
    · rw [Fields.get, initialMapping_subscription,
        hChecks.subscription]
      rfl
  refine ⟨⟨hOwns.subscription, hOwns.customer, hOwns.session⟩,
    hFound, Function.update_self _ _ _, ?_, ?_⟩
  · exact (get_hash_store _ _ _ (by decide)).trans
      (by rw [initialMapping_status]; rfl)
  · apply lastEventCreated_of_toString
    exact (get_hash_store _ _ _ (by decide)).trans
      (by rw [initialMapping_lastEventCreated]; rfl)

/- A buffered update that is newer is applied on top. -/
theorem Feed.CheckedOut.merge
    (hLeft : feed.CheckedOut next status created)
    {update : PendingUpdate}
    (hText : update.status ≠ "")
    (now : String) :
    feed.CheckedOut
      (next.storeSubscriptionMapping now feed.account.tenantId
        (mergePending (feed.hash next) update))
      update.status update.eventCreated := by
  refine ⟨hLeft.owns.store _ _,
    hLeft.owns.found_store hLeft.found _ _, ?_, ?_, ?_⟩
  · rw [pending_storeSubscriptionMapping]
    exact hLeft.pending
  · rw [get_hash_store _ _ _ (by decide),
      mergePending_status hText]
    rfl
  · apply lastEventCreated_of_toString
    rw [get_hash_store _ _ _ (by decide),
      mergePending_lastEventCreated]
    rfl

/- A checkout that is the newest event keeps it. -/
theorem Feed.Inv.checkedOut_of_newest
    (hInv : feed.Inv ⟨s, seen⟩)
    (hMem : event ∈ feed.events)
    (hLeft : feed.CheckedOut next status event.created)
    (hCarried : feed.carried event = some status)
    (hMark :
      ∀ created ∈ feed.watermark s, created ≤ event.created)
    (hNewest :
      ∀ other ∈ seen, feed.Bears other →
        other.created ≤ event.created) :
    feed.Inv ⟨next, event :: seen⟩ ∧ feed.Advances s next := by
  have hBears : feed.Bears event := by
    rw [Feed.Bears, hCarried]
    rfl
  refine ⟨hLeft.inv ?_ (Newest.holds_cons_of_newest
    (hInv.distinct hMem) hBears hNewest hCarried), ?_⟩
  · intro other hOther
    rcases List.mem_cons.mp hOther with rfl | hSeen
    · exact hMem
    · exact hInv.delivered other hSeen
  · intro created hCreated
    exact ⟨event.created, hLeft.watermark,
      hMark created hCreated⟩

/- A checkout in order keeps the invariant. -/
theorem Feed.Inv.checkout
    (hInv : feed.Inv ⟨s, seen⟩)
    (hMem : event ∈ feed.events)
    (hChecks : feed.account.Checks session)
    (hSession : event.object.sessionId = session.id)
    (hCarried :
      feed.carried event =
        some (checkoutStatus feed.out session
          (some feed.retrieved)))
    (hMark :
      ∀ created ∈ feed.watermark s, created ≤ event.created)
    (hFirst :
      (feed.found s).isSome = true →
        ¬ Overtaken feed ⟨s, seen⟩ event) :
    feed.Inv
        ⟨(handleCheckoutCompleted feed.out s session
          (some event.created)).1, event :: seen⟩ ∧
      feed.Advances s
        (handleCheckoutCompleted feed.out s session
          (some event.created)).1 := by
  have hStatus :
      checkoutStatus feed.out session (some feed.retrieved) ≠
        "customer_deleted" := by
    intro hTerminal
    have hEvent : feed.carried event ≠ _ :=
      feed.status event hMem
    rw [hCarried, hTerminal] at hEvent
    exact hEvent rfl
  have hDelivered :
      ∀ other ∈ event :: seen, other ∈ feed.events := by
    intro other hOther
    rcases List.mem_cons.mp hOther with rfl | hSeen
    · exact hMem
    · exact hInv.delivered other hSeen
  rcases hInv.owns.handleCheckoutCompleted_eq hMem hChecks
    hSession (some event.created) with
    ⟨opened, hOpened, hHandled⟩
  have hPeriod : ∃ period,
      normalizeBillingPeriod
          (session.metadata.billingPeriod.getD "monthly") =
        .ok period := by
    have hOk := hChecks.period
    cases hNormal : normalizeBillingPeriod
        (session.metadata.billingPeriod.getD "monthly") with
    | error refusal =>
      rw [hNormal] at hOk
      cases hOk
    | ok period => exact ⟨period, rfl⟩
  rcases hPeriod with ⟨period, hPeriod⟩
  have hName :
      truthy session.subscription =
        some feed.account.subscription := by
    rw [hChecks.subscription]
    exact truthy_some feed.account.subscription_ne
  rw [hHandled, completeCheckout_of_subscription hPeriod hName
    feed.retrieve]
  have hLeft :=
    hOpened.checkedOut hChecks hStatus period event.created
  unfold drainPending
  rw [hName]
  dsimp only [BillingState.popPendingSubscriptionUpdate] at hLeft ⊢
  rw [pending_storeSubscriptionMapping, hOpened.pending] at hLeft ⊢
  have hHere :=
    hInv.checkedOut_of_newest hMem hLeft hCarried hMark
  rcases hInv.phase with ⟨-, hWaiting⟩ | hBound
  · unfold Feed.Waiting at hWaiting
    dsimp only at hWaiting
    cases hPending : s.pending feed.account.subscription with
    | none =>
      rw [hPending] at hWaiting
      exact hHere (fun other hOther hCounts =>
        absurd hCounts (hWaiting other hOther))
    | some update =>
      rw [hPending] at hWaiting
      rcases hWaiting with
        ⟨hText, newest, hNewest, hSame, hCreated⟩
      dsimp only
      split
      · rename_i hOlder
        change event.created < update.eventCreated at hOlder
        have hMerged := hLeft.merge hText feed.out.now
        refine ⟨hMerged.inv hDelivered
          (Newest.holds_cons_of_older
            (Newest.holds_of_isNewest ?_ hNewest hSame)
            hNewest.mem hNewest.counts ?_), ?_⟩
        · intro a hA b hB hStamp
          exact feed.distinct a (hInv.delivered a hA) b
            (hInv.delivered b hB) hStamp
        · rw [hCreated]
          exact hOlder
        · intro created hMember
          have hLe := hMark created hMember
          exact ⟨update.eventCreated, hMerged.watermark,
            by omega⟩
      · rename_i hNewer
        change ¬ event.created < update.eventCreated at hNewer
        apply hHere
        intro other hOther hCounts
        have hLe := hNewest.le other hOther hCounts
        omega
  · have hNothing :
        s.pending feed.account.subscription = none :=
      hBound.pending
    rw [hNothing]
    apply hHere
    apply newest_of_not_overtaken
    apply hFirst
    rw [show feed.found s = _ from hBound.found]
    rfl

end

--------
-- Deliveries In Order Converge
--------

variable {feed : Feed} {s : BillingState}
variable {seen : List StripeEvent} {event : StripeEvent}

/- An event of the feed has a time stamp. -/
theorem Feed.eventCreated_eq
    (hMem : event ∈ feed.events) :
    event.eventCreated = some event.created :=
  if_neg (feed.timed event hMem)

/- An invoice in order keeps the invariant. -/
theorem Feed.Inv.bill
    (hInv : feed.Inv ⟨s, seen⟩)
    (hMem : event ∈ feed.events)
    {invoice : Invoice}
    {u : StatusUpdate}
    (hBills : feed.account.Bills invoice)
    (hSubscription : u.subscriptionId = invoice.subscription)
    (hCustomer : u.customerId = invoice.customer)
    (hCreated : u.eventCreated = event.eventCreated)
    (hPreserves :
      u.preserveStatus = (truthy invoice.subscription).isNone)
    (hCarried :
      feed.carried event =
        (truthy invoice.subscription).map (fun _ => u.status))
    (hNonempty : u.status ≠ "")
    (hOrdered :
      (feed.found s).isSome = true →
      (feed.carried event).isSome = true →
        ∀ created ∈ feed.watermark s,
          (event.created < created ↔
            Overtaken feed ⟨s, seen⟩ event)) :
    feed.Inv
        ⟨updateSubscriptionStatus feed.out s u,
          event :: seen⟩ ∧
      feed.Advances s
        (updateSubscriptionStatus feed.out s u) := by
  have hCreated' := hCreated.trans (Feed.eventCreated_eq hMem)
  rcases hBills.subscription with hSub | hNone
  · have hName :
        truthy invoice.subscription =
          some feed.account.subscription := by
      rw [hSub]
      exact truthy_some feed.account.subscription_ne
    rw [hName] at hPreserves hCarried
    refine hInv.update hMem ⟨hSubscription.trans hSub,
      hCustomer.trans hBills.customer, hCreated', hPreserves,
      hCarried, hNonempty⟩ ?_
    intro hFound
    exact hOrdered hFound (by rw [hCarried]; rfl)
  · rw [hNone] at hPreserves hCarried
    refine hInv.invoice hMem ⟨?_,
      hCustomer.trans hBills.customer, hCreated', hPreserves,
      hCarried⟩
    rw [hSubscription]
    exact hNone

/- A delivery in order keeps the invariant. -/
theorem Feed.Inv.deliver
    (hInv : feed.Inv ⟨s, seen⟩)
    (hMem : event ∈ feed.events)
    (hOrdered : OrderedEvent feed ⟨s, seen⟩ event) :
    feed.Inv
        ⟨(handleStripeEvent feed.out s event).1,
          event :: seen⟩ ∧
      feed.Advances s (handleStripeEvent feed.out s event).1 := by
  have hAbout := feed.about event hMem
  have hCreated := Feed.eventCreated_eq hMem
  rcases event with ⟨created, object⟩
  unfold handleStripeEvent
  cases object with
  | checkoutCompleted session =>
    dsimp only
    rw [hCreated]
    exact hInv.checkout hMem hAbout rfl rfl hOrdered.1
      hOrdered.2
  | asyncPaymentSucceeded session =>
    dsimp only
    rw [hCreated]
    exact hInv.checkout hMem hAbout rfl rfl hOrdered.1
      hOrdered.2
  | asyncPaymentFailed session =>
    refine hInv.update hMem
      ⟨hAbout.1, hAbout.2, hCreated, rfl, rfl, ?_⟩ ?_
    · change "incomplete" ≠ ""
      decide
    · intro hFound
      exact hOrdered hFound rfl
  | invoicePaymentFailed invoice =>
    refine hInv.bill hMem hAbout rfl rfl rfl rfl rfl ?_ hOrdered
    change "past_due" ≠ ""
    decide
  | invoicePaid invoice =>
    refine hInv.bill hMem hAbout rfl rfl rfl rfl rfl ?_ hOrdered
    change "active" ≠ ""
    decide
  | subscriptionUpdated subscription =>
    refine hInv.subscriptionEvent hMem hAbout.1 hAbout.2
      ⟨hAbout.1, hAbout.2, hCreated, rfl, rfl, ?_⟩ ?_
    · change (truthy subscription.status).getD "active" ≠ ""
      cases hStatus : truthy subscription.status with
      | none => exact (by decide : "active" ≠ "")
      | some status => exact (truthy_eq_some_iff.mp hStatus).2
    · intro hFound
      exact hOrdered hFound rfl
  | subscriptionDeleted subscription =>
    refine hInv.subscriptionEvent hMem hAbout.1 hAbout.2
      ⟨hAbout.1, hAbout.2, hCreated, rfl, rfl, ?_⟩ ?_
    · change "canceled" ≠ ""
      decide
    · intro hFound
      exact hOrdered hFound rfl
  | trialWillEnd subscription =>
    exact hInv.trial hMem hAbout.1 hAbout.2 rfl hOrdered
  | disputeCreated dispute => exact hAbout.elim
  | customerDeleted id => exact hAbout.elim
  | ignored type => exact hAbout.elim

variable {p : Progress}

/- So does every step in order. -/
theorem Feed.Inv.step
    (hInv : feed.Inv p)
    {action : FeedAction feed}
    (hOrdered : Ordered p action) :
    feed.Inv (p.step action) ∧
      feed.Advances p.state (p.step action).state := by
  cases action with
  | deliver event hMem => exact hInv.deliver hMem hOrdered
  | expire =>
    have hNone :
        p.state.pending feed.account.subscription = none :=
      hOrdered
    have hSame :
        feed.Same p.state
          (p.state.expirePending feed.account.subscription) := by
      refine ⟨⟨hInv.owns.subscription, hInv.owns.customer,
        hInv.owns.session⟩, rfl, ?_, rfl, rfl⟩
      exact (Function.update_self _ _ _).trans hNone.symm
    exact ⟨hInv.of_same hSame, .refl feed p.state⟩

/- The invariant tells that the status is the newest one. -/
theorem Feed.Inv.converged
    (hInv : feed.Inv p) :
    feed.Converged p := by
  intro hFound
  rcases hInv.phase with ⟨hNone, -⟩ | hBound
  · rw [hNone] at hFound
    cases hFound
  · exact hBound.newest

/-
  In a run whose deliveries are in order, the status is always
  that of the newest event delivered, so that of the newest
  event of the feed once all of them are; and the watermark is
  never turned back.
-/
theorem converges_of_ordered
    (hStart : feed.Start s)
    {actions : List (FeedAction feed)}
    (hMeets :
      Machine.Meets (Machine.total Progress.step) Ordered s.begin
        actions) :
    (∀ before, before <+: actions →
      feed.Converged (before.foldl Progress.step s.begin)) ∧
    ((∀ event ∈ feed.events,
        event ∈ (actions.foldl Progress.step s.begin).delivered) →
      feed.found (actions.foldl Progress.step s.begin).state =
          some feed.account.tenantId →
        Newest.Holds StripeEvent.created feed.Bears feed.events
          (fun event =>
            feed.carried event =
              some ((feed.hash (actions.foldl Progress.step
                s.begin).state).get "status"))) ∧
    ∀ before later, before <+: later → later <+: actions →
      feed.Advances (before.foldl Progress.step s.begin).state
        (later.foldl Progress.step s.begin).state := by
  have hStep : ∀ (p : Progress) (action : FeedAction feed),
      feed.Inv p → Ordered p action →
        feed.Inv (p.step action) ∧
          feed.Advances p.state (p.step action).state :=
    fun p action hInv hOrdered => hInv.step hOrdered
  have hAlways : ∀ before, before <+: actions →
      feed.Inv (before.foldl Progress.step s.begin) := by
    rintro before ⟨rest, rfl⟩
    exact Machine.foldl_invariant
      (fun p action hInv hOrdered =>
        (hStep p action hInv hOrdered).1)
      hStart.inv hMeets.initial
  have hLast := hAlways actions List.prefix_rfl
  refine ⟨?_, ?_, ?_⟩
  · intro before hBefore
    exact (hAlways before hBefore).converged
  · intro hAll hFound
    refine Newest.holds_of_mem_iff (hLast.converged hFound) ?_
    intro event
    exact ⟨hAll event, hLast.delivered event⟩
  · intro before later hBefore hLater
    exact @Machine.foldl_related Progress (FeedAction feed)
      Ordered _ _ Progress.step feed.Inv
      (fun p q => feed.Advances p.state q.state)
      (fun p => .refl feed p.state)
      (fun hFirst hSecond => hFirst.trans hSecond) hStep
      hStart.inv hMeets _ _ hBefore hLater

def exampleAccount : Account where
  tenantId := "tenant-1"
  subscription := "sub_1"
  customer := "cus_1"
  tenantId_ne := by decide
  subscription_ne := by decide
  customer_ne := by decide

/- A subscription of the account, with its status. -/
def exampleSubscription (status : String) : Subscription where
  id := some "sub_1"
  customer := some "cus_1"
  status := some status
  items := []
  currentPeriodEnd := none
  facilityQuantity := none
  trialEnd := 0

/- A world in which Stripe tells one status. -/
def stripeOutside (status : String) : Outside :=
  { signupOutside with
    retrieve := fun _ => some (exampleSubscription status) }

/- The subscription ends. -/
def endedEvent : StripeEvent :=
  ⟨200, .subscriptionDeleted (exampleSubscription "canceled")⟩

/- The subscription becomes active. -/
def activeEvent : StripeEvent :=
  ⟨200, .subscriptionUpdated (exampleSubscription "active")⟩

/- The notice of the end of a trial. -/
def noticeEvent : StripeEvent :=
  ⟨150, .trialWillEnd (exampleSubscription "trialing")⟩

/- The checkout passes its checks. -/
theorem about_signupEvent :
    exampleAccount.About signupEvent.object :=
  ⟨rfl, rfl, rfl, by decide⟩

/- A checkout, and the end of the subscription. -/
def endedFeed : Feed where
  account := exampleAccount
  out := stripeOutside "canceled"
  retrieved := exampleSubscription "canceled"
  events := [signupEvent, endedEvent]
  retrieve := rfl
  created := fun _ => rfl
  about := by
    intro event hMem
    simp only [List.mem_cons, List.not_mem_nil, or_false] at hMem
    rcases hMem with rfl | rfl
    · exact about_signupEvent
    · exact ⟨rfl, rfl⟩
  timed := by decide
  distinct := by decide
  status := by decide

/- A checkout, a trial notice, and the active subscription. -/
def trialFeed : Feed where
  account := exampleAccount
  out := stripeOutside "active"
  retrieved := exampleSubscription "active"
  events := [signupEvent, noticeEvent, activeEvent]
  retrieve := rfl
  created := fun _ => rfl
  about := by
    intro event hMem
    simp only [List.mem_cons, List.not_mem_nil, or_false] at hMem
    rcases hMem with rfl | rfl | rfl
    · exact about_signupEvent
    · exact ⟨rfl, rfl⟩
    · exact ⟨rfl, rfl⟩
  timed := by decide
  distinct := by decide
  status := by decide

/- Redis without a key is a start of every feed. -/
theorem start_empty
    (feed : Feed) :
    feed.Start BillingState.empty := by
  have hNowhere : ∀ key : Option String,
      lookUp (fun _ => none) key = none := by
    intro key
    cases hKey : truthy key with
    | none => rw [lookUp, hKey]; rfl
    | some name => rw [lookUp, hKey]; rfl
  refine ⟨⟨?_, ?_, ?_⟩, rfl, rfl⟩
  · intro tenantId hMem
    rw [BillingState.empty, hNowhere] at hMem
    cases hMem
  · intro tenantId hMem
    rw [BillingState.empty, hNowhere] at hMem
    cases hMem
  · intro event _ tenantId hMem
    rw [BillingState.empty, hNowhere] at hMem
    cases hMem

/- The end is delivered before the checkout, and after it. -/
def endedRun : List (FeedAction endedFeed) :=
  [.deliver endedEvent (by simp [endedFeed]),
    .deliver signupEvent (by simp [endedFeed]),
    .deliver endedEvent (by simp [endedFeed])]

theorem converges_endedFeed :
    Newest.Holds StripeEvent.created endedFeed.Bears
      endedFeed.events (fun event =>
        endedFeed.carried event =
          some ((endedFeed.hash (endedRun.foldl Progress.step
            BillingState.empty.begin).state).get "status")) := by
  refine (converges_of_ordered (start_empty endedFeed) ?_).2.1
    (by decide) (by decide)
  refine ⟨?_, ?_⟩
  · change OrderedUpdate endedFeed _ endedEvent
    unfold OrderedUpdate
    decide
  · rintro _ ⟨⟩
    refine ⟨?_, ?_⟩
    · change OrderedCheckout endedFeed _ signupEvent
      unfold OrderedCheckout
      decide
    · rintro _ ⟨⟩
      refine ⟨?_, by rintro _ ⟨⟩; trivial⟩
      change OrderedUpdate endedFeed _ endedEvent
      unfold OrderedUpdate
      decide

/- The notice is delivered after the newer update. -/
def trialRun : List (FeedAction trialFeed) :=
  [.deliver signupEvent (by simp [trialFeed]),
    .deliver activeEvent (by simp [trialFeed]),
    .deliver noticeEvent (by simp [trialFeed])]

/- The tenant is left on trial, and the newest says active. -/
theorem not_converges :
    (∀ event ∈ trialFeed.events,
      event ∈ (trialRun.foldl Progress.step
        BillingState.empty.begin).delivered) ∧
    ¬ trialFeed.Converged
      (trialRun.foldl Progress.step BillingState.empty.begin) := by
  refine ⟨by decide, ?_⟩
  intro hConverged
  have hNewest :
      Newest.IsNewest StripeEvent.created trialFeed.Bears
        (trialRun.foldl Progress.step
          BillingState.empty.begin).delivered activeEvent := by
    constructor
    · decide
    · decide
    · decide
  exact absurd (hConverged (by decide) _ hNewest)
    (by decide)

end StripeBilling

end RegEngine
