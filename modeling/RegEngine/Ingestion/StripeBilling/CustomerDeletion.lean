import RegEngine.Ingestion.StripeBilling.Webhooks

/-
  What later events of a deleted customer do to the tenant that
  the customer belonged to.

  Main declarations:
    * `StripeBilling.CustomerIds`
    * `StripeBilling.staysDeleted_iff_cleared`
    * `StripeBilling.not_staysDeleted`
-/

--------
-- Later Events
--------

namespace RegEngine

namespace StripeBilling

section

/- An event, and the world that its handler meets. -/
structure Delivery where
  out : Outside
  event : StripeEvent

/- The events are handled one after the other. -/
def BillingState.deliver
    (s : BillingState)
    (run : List Delivery) : BillingState :=
  run.foldl (fun current delivery =>
    (handleStripeEvent delivery.out current
      delivery.event).1) s

/- A customer, with the subscriptions and sessions it had. -/
structure CustomerIds where
  customer : String
  subscriptions : List String
  sessions : List String
  deriving DecidableEq

/- The event names the customer, or what it had, if anything. -/
structure CustomerIds.Covers
    (ids : CustomerIds)
    (object : EventObject) : Prop where
  session :
    ∀ name ∈ truthy object.sessionId, name ∈ ids.sessions
  subscription :
    ∀ name ∈ truthy object.subscriptionId,
      name ∈ ids.subscriptions
  customer :
    ∀ name ∈ truthy object.customerId, name = ids.customer

/- No key of the customer turned to the tenant. -/
structure NoNewKey
    (tenantId : String)
    (ids : CustomerIds)
    (s next : BillingState) : Prop where
  session :
    ∀ name ∈ ids.sessions,
      next.sessions name = some tenantId →
        s.sessions name = some tenantId
  subscription :
    ∀ name ∈ ids.subscriptions,
      next.subscriptions name = some tenantId →
        s.subscriptions name = some tenantId
  customer :
    next.customers ids.customer = some tenantId →
      s.customers ids.customer = some tenantId

/-
  After the customer is deleted, events that name nothing else
  leave the status of the tenant, and create no key to it.
-/
def StaysDeleted
    (out : Outside)
    (s : BillingState)
    (tenantId : String)
    (ids : CustomerIds) : Prop :=
  ∀ run : List Delivery,
    (∀ delivery ∈ run,
      ids.Covers delivery.event.object ∧
        delivery.out.Provisions tenantId) →
      let deleted :=
        handleCustomerDeleted out s (some ids.customer)
      ((deleted.deliver run).tenants tenantId).get "status" =
          "customer_deleted" ∧
        NoNewKey tenantId ids deleted (deleted.deliver run)

/-
  When the customer is deleted, no session of it leads to the
  tenant, and no subscription but the one in the hash.
-/
structure Cleared
    (s : BillingState)
    (tenantId : String)
    (ids : CustomerIds) : Prop where
  session :
    ∀ name ∈ ids.sessions, name ≠ "" →
      s.sessions name ≠ some tenantId
  subscription :
    ∀ name ∈ ids.subscriptions, name ≠ "" →
      s.subscriptions name = some tenantId →
        name =
          (s.getSubscriptionMapping tenantId).get
            "subscription_id"

/- No identifier of the customer leads to the tenant. -/
structure Quiet
    (s : BillingState)
    (tenantId : String)
    (ids : CustomerIds) : Prop where
  session :
    ∀ name ∈ ids.sessions, name ≠ "" →
      s.sessions name ≠ some tenantId
  subscription :
    ∀ name ∈ ids.subscriptions, name ≠ "" →
      s.subscriptions name ≠ some tenantId
  customer : s.customers ids.customer ≠ some tenantId

variable {s : BillingState} {tenantId : String}
variable {ids : CustomerIds}

/- Then no event of the customer finds the tenant. -/
theorem Quiet.misses
    {object : EventObject}
    (hQuiet : Quiet s tenantId ids)
    (hCovers : ids.Covers object) :
    s.Misses tenantId object := by
  constructor
  · intro hFound
    rcases lookUp_eq_some_iff.mp hFound with
      ⟨name, hGiven, hName, hKey, -⟩
    have hMem :=
      hCovers.session name (by rw [hGiven, truthy_some hName]; rfl)
    exact hQuiet.session name hMem hName hKey
  · intro hFound
    rcases lookUp_eq_some_iff.mp hFound with
      ⟨name, hGiven, hName, hKey, -⟩
    have hMem :=
      hCovers.subscription name
        (by rw [hGiven, truthy_some hName]; rfl)
    exact hQuiet.subscription name hMem hName hKey
  · intro hFound
    rcases lookUp_eq_some_iff.mp hFound with
      ⟨name, hGiven, hName, hKey, -⟩
    have hSame :=
      hCovers.customer name
        (by rw [hGiven, truthy_some hName]; rfl)
    rw [hSame] at hKey
    exact hQuiet.customer hKey

/- A tenant that is left alone stays out of reach. -/
theorem Quiet.of_untouched
    {next : BillingState}
    (hQuiet : Quiet s tenantId ids)
    (hUntouched : s.Untouched tenantId next) :
    Quiet next tenantId ids where
  session name hMem hName hKey :=
    hQuiet.session name hMem hName (hUntouched.sessions name hKey)
  subscription name hMem hName hKey :=
    hQuiet.subscription name hMem hName
      (hUntouched.subscriptions name hKey)
  customer hKey :=
    hQuiet.customer (hUntouched.customers _ hKey)

/- A tenant out of reach is left alone by every run. -/
theorem untouched_deliver
    {run : List Delivery}
    (hQuiet : Quiet s tenantId ids)
    (hRun :
      ∀ delivery ∈ run,
        ids.Covers delivery.event.object ∧
          delivery.out.Provisions tenantId) :
    s.Untouched tenantId (s.deliver run) := by
  induction run generalizing s with
  | nil => exact .refl tenantId s
  | cons delivery rest ih =>
    have hFirst := hRun delivery List.mem_cons_self
    have hStep :=
      untouched_handleStripeEvent hFirst.2
        (hQuiet.misses hFirst.1)
    have hRest :=
      ih (hQuiet.of_untouched hStep) (fun other hMem =>
        hRun other (List.mem_cons_of_mem _ hMem))
    exact hStep.trans hRest

end

--------
-- The Deletion
--------

section

/- A field after a mapping was written over a hash. -/
theorem get_overlay
    (mapping fields : Fields)
    (name : String) :
    (Fields.overlay mapping fields).get name =
      (mapping name).getD (fields.get name) := by
  change ((mapping name).or (fields name)).getD "" = _
  cases mapping name with
  | none => rfl
  | some value => rfl

/- The hash of a tenant after its mapping was stored. -/
theorem tenants_storeSubscriptionMapping
    (s : BillingState)
    (now tenantId : String)
    (payload : Fields) :
    (s.storeSubscriptionMapping now tenantId payload).tenants
        tenantId =
      Fields.overlay (payload.set "updated_at" now)
        (s.tenants tenantId) := by
  unfold BillingState.storeSubscriptionMapping
  dsimp only
  split
  · exact Function.update_self _ _ _
  · exact Function.update_self _ _ _

/- A field that the mapping gives, as it is then stored. -/
theorem get_storeSubscriptionMapping
    {s : BillingState}
    {now tenantId name value : String}
    {payload : Fields}
    (hValue : payload name = some value)
    (hName : name ≠ "updated_at") :
    ((s.storeSubscriptionMapping now tenantId payload).tenants
      tenantId).get name = value := by
  rw [tenants_storeSubscriptionMapping, get_overlay, Fields.set,
    Function.update_of_ne hName, hValue, Option.getD_some]

/- A terminal status leaves the keys as they are. -/
theorem storeSubscriptionMapping_of_terminal
    {s : BillingState}
    {now tenantId : String}
    {payload : Fields}
    (hTerminal : payload.get "status" ∈ terminalStatuses) :
    s.storeSubscriptionMapping now tenantId payload =
      { s with
        tenants := Function.update s.tenants tenantId
          (Fields.overlay (payload.set "updated_at" now)
            (s.tenants tenantId)) } := by
  unfold BillingState.storeSubscriptionMapping
  dsimp only
  have hStatus :
      (payload.set "updated_at" now).get "status" ∈
        terminalStatuses := by
    rw [Fields.get_set,
      if_neg (show "status" ≠ "updated_at" by decide)]
    exact hTerminal
  rw [if_pos hStatus]

variable {s : BillingState} {tenantId customer : String}

/- What the deletion leaves of the keys and of the hash. -/
structure Deleted
    (s next : BillingState)
    (tenantId customer : String) : Prop where
  status :
    (next.tenants tenantId).get "status" = "customer_deleted"
  sessions : next.sessions = s.sessions
  customers :
    next.customers = Function.update s.customers customer none
  subscriptions :
    next.subscriptions =
      if (s.tenants tenantId).get "subscription_id" = "" then
        s.subscriptions
      else
        Function.update s.subscriptions
          ((s.tenants tenantId).get "subscription_id") none

/- The deletion of a customer that has a tenant. -/
theorem deleted_handleCustomerDeleted
    (out : Outside)
    (hFound :
      lookUp s.customers (some customer) = some tenantId) :
    Deleted s (handleCustomerDeleted out s (some customer))
      tenantId customer := by
  have hCustomer : customer ≠ "" := by
    rcases lookUp_eq_some_iff.mp hFound with
      ⟨name, hGiven, hName, -⟩
    cases hGiven
    exact hName
  have hTenant :
      s.findTenantId none (some customer) = some tenantId := by
    rw [BillingState.findTenantId, lookUp_none, Option.none_or]
    exact hFound
  have hTerminal :
      ((s.tenants tenantId).update [
        ("status", "customer_deleted"),
        ("customer_deleted_at", out.now)]).get "status" ∈
          terminalStatuses := by
    simp [terminalStatuses]
  have hStored :=
    @storeSubscriptionMapping_of_terminal s out.now tenantId _
      hTerminal
  unfold handleCustomerDeleted
  rw [truthy_some hCustomer]
  dsimp only
  rw [hTenant]
  dsimp only [BillingState.getSubscriptionMapping]
  rw [hStored]
  unfold BillingState.clearCustomerLookup
  rw [if_neg hCustomer]
  unfold BillingState.clearSubscriptionLookup
  constructor
  · split
    all_goals
      dsimp only
      rw [Function.update_self, get_overlay]
      simp [Fields.set, Fields.update]
  · split
    all_goals rfl
  · split
    all_goals rfl
  · split
    all_goals rfl

end

--------
-- When A Deleted Customer Stays Deleted
--------

variable {s : BillingState} {tenantId : String}
variable {ids : CustomerIds}

/- What was clear before the deletion is out of reach after. -/
theorem Deleted.quiet
    {next : BillingState}
    (hDeleted : Deleted s next tenantId ids.customer)
    (hCleared : Cleared s tenantId ids) :
    Quiet next tenantId ids := by
  constructor
  · intro name hMem hName
    rw [hDeleted.sessions]
    exact hCleared.session name hMem hName
  · intro name hMem hName hKey
    rw [hDeleted.subscriptions] at hKey
    split at hKey
    · rename_i hNone
      have hSame := hCleared.subscription name hMem hName hKey
      exact hName (hSame.trans hNone)
    · rcases of_update_none hKey with ⟨hOther, hBefore⟩
      exact hOther
        (hCleared.subscription name hMem hName hBefore)
  · rw [hDeleted.customers, Function.update_self]
    simp

/- A world in which nothing can be had. -/
def idleOutside : Outside where
  createTenantViaAdmin := fun _ => .error ⟨502, ""⟩
  retrieve := fun _ => none
  now := "now"
  isoformat := fun seconds => toString seconds
  getenv := fun _ => none

/- No tenant is made there. -/
theorem provisions_idleOutside
    (tenantId : String) :
    idleOutside.Provisions tenantId := by
  intro name hMade
  cases hMade

/- A checkout session of which only the name is known. -/
def bareSession (name : String) : CheckoutSession where
  id := some name
  customer := none
  subscription := none
  paymentStatus := none
  customerEmail := none
  customerDetailsEmail := none
  metadata := ⟨none, none, none, none, none, none⟩

/- A checkout that names its session only. -/
def sessionEvent (name : String) : StripeEvent where
  created := 0
  object := .checkoutCompleted (bareSession name)

/- The end of a subscription. -/
def canceledEvent (name : String) : StripeEvent where
  created := 0
  object :=
    .subscriptionDeleted
      { id := some name
        customer := none
        status := none
        items := []
        currentPeriodEnd := none
        facilityQuantity := none
        trialEnd := 0 }

variable {name : String}

/- The checkout finds its tenant, and writes its status. -/
theorem status_sessionEvent
    (hFound :
      lookUp s.sessions (some name) = some tenantId) :
    ((handleStripeEvent idleOutside s
      (sessionEvent name)).1.tenants tenantId).get "status" =
        "incomplete" := by
  have hPeriod :
      normalizeBillingPeriod
          ((bareSession name).metadata.billingPeriod.getD
            "monthly") =
        .ok "monthly" := by
    change normalizeBillingPeriod "monthly" = _
    decide
  have hTenant :
      (lookUp s.sessions (bareSession name).id).or
          (lookUp s.customers (bareSession name).customer) =
        some tenantId := by
    change (lookUp s.sessions (some name)).or _ = _
    rw [hFound, Option.some_or]
  change (((handleCheckoutCompleted idleOutside s
    (bareSession name) none).1.tenants tenantId).get
      "status") = _
  rw [handleCheckoutCompleted_of_found hTenant rfl none,
    completeCheckout_of_no_subscription hPeriod rfl]
  dsimp only
  refine get_storeSubscriptionMapping ?_
    (show "status" ≠ "updated_at" by decide)
  simp [initialMapping, bareSession, Fields.ofList,
    Fields.set, Fields.setIfGiven, checkoutStatus,
    retrievedStatus, entitlingStatuses, coerceOptionalInt]

/- The end of a subscription finds its tenant, too. -/
theorem status_canceledEvent
    (hFound :
      lookUp s.subscriptions (some name) = some tenantId) :
    ((handleStripeEvent idleOutside s
      (canceledEvent name)).1.tenants tenantId).get "status" =
        "canceled" := by
  have hTenant :
      s.findTenantId (some name) none = some tenantId := by
    rw [BillingState.findTenantId, hFound, Option.some_or]
  have hUpdated :
      ((updateSubscriptionStatus idleOutside s
        (subscriptionUpdate idleOutside
          ⟨some name, none, none, [], none, none, 0⟩ "canceled"
          none)).tenants tenantId).get "status" =
        "canceled" := by
    rw [updateSubscriptionStatus_of_found hTenant rfl]
    refine get_storeSubscriptionMapping ?_
      (show "status" ≠ "updated_at" by decide)
    simp [StatusUpdate.mapping, subscriptionUpdate, Fields.set,
      Fields.setIfGiven, extractSubscriptionFacilityQuantity,
      coerceOptionalInt]
  unfold handleStripeEvent canceledEvent handleSubscriptionEvent
  dsimp only [StripeEvent.eventCreated, if_pos]
  unfold persistPeriodEnd
  split
  · exact hUpdated
  · dsimp only [Option.all_none]
    rw [if_pos rfl]
    exact hUpdated

/- A run of one event of the customer. -/
theorem StaysDeleted.single
    {out : Outside}
    {event : StripeEvent}
    (hStays : StaysDeleted out s tenantId ids)
    (hCovers : ids.Covers event.object) :
    ((handleStripeEvent idleOutside
      (handleCustomerDeleted out s (some ids.customer))
      event).1.tenants tenantId).get "status" =
        "customer_deleted" := by
  refine (hStays [⟨idleOutside, event⟩] ?_).1
  intro delivery hMem
  rw [List.mem_singleton.mp hMem]
  exact ⟨hCovers, provisions_idleOutside tenantId⟩

/-
  The tenant of a deleted customer stays as it is, whatever
  the customer's events, exactly when its keys were cleared.
-/
theorem staysDeleted_iff_cleared
    (out : Outside)
    (hFound :
      lookUp s.customers (some ids.customer) =
        some tenantId) :
    StaysDeleted out s tenantId ids ↔
      Cleared s tenantId ids := by
  have hDeleted := deleted_handleCustomerDeleted out hFound
  have hTenant : tenantId ≠ "" := by
    rcases lookUp_eq_some_iff.mp hFound with
      ⟨_, _, _, _, hTenant⟩
    exact hTenant
  constructor
  · intro hStays
    constructor
    · intro name hMem hName hKey
      have hCovers : ids.Covers (sessionEvent name).object := by
        refine ⟨?_, by rintro _ ⟨⟩, by rintro _ ⟨⟩⟩
        intro other hOther
        rw [show (sessionEvent name).object.sessionId = some name
          from rfl, truthy_some hName] at hOther
        cases hOther
        exact hMem
      have hHere := hStays.single hCovers
      rw [status_sessionEvent (lookUp_eq_some_iff.mpr
        ⟨name, rfl, hName, by rw [hDeleted.sessions]; exact hKey,
          hTenant⟩)] at hHere
      exact absurd hHere (by decide)
    · intro name hMem hName hKey
      by_contra hOther
      have hCovers : ids.Covers (canceledEvent name).object := by
        refine ⟨by rintro _ ⟨⟩, ?_, by rintro _ ⟨⟩⟩
        intro other hGiven
        rw [show (canceledEvent name).object.subscriptionId =
          some name from rfl, truthy_some hName] at hGiven
        cases hGiven
        exact hMem
      have hLeft :
          (handleCustomerDeleted out s
            (some ids.customer)).subscriptions name =
              some tenantId := by
        rw [hDeleted.subscriptions]
        split
        · exact hKey
        · exact (Function.update_of_ne hOther _ _).trans hKey
      have hHere := hStays.single hCovers
      rw [status_canceledEvent (lookUp_eq_some_iff.mpr
        ⟨name, rfl, hName, hLeft, hTenant⟩)] at hHere
      exact absurd hHere (by decide)
  · intro hCleared run hRun
    have hUntouched :=
      untouched_deliver (hDeleted.quiet hCleared) hRun
    dsimp only
    rw [hUntouched.hash]
    refine ⟨hDeleted.status, ?_, ?_, ?_⟩
    · intro name _ hKey
      exact hUntouched.sessions name hKey
    · intro name _ hKey
      exact hUntouched.subscriptions name hKey
    · intro hKey
      exact hUntouched.customers _ hKey

/- A world in which the admin service makes one tenant. -/
def signupOutside : Outside :=
  { idleOutside with
    createTenantViaAdmin := fun _ => .ok "tenant-1"
    retrieve := fun name =>
      some ⟨some name, some "cus_1", some "active", [], none,
        none, 0⟩ }

/- A paid checkout of the customer. -/
def signupEvent : StripeEvent where
  created := 100
  object :=
    .checkoutCompleted
      { id := some "cs_1"
        customer := some "cus_1"
        subscription := some "sub_1"
        paymentStatus := some "paid"
        customerEmail := none
        customerDetailsEmail := none
        metadata := ⟨none, none, none, none, none, none⟩ }

/- The state after the checkout. -/
def signedUp : BillingState :=
  BillingState.empty.deliver [⟨signupOutside, signupEvent⟩]

/- Events of the subscription alone come to nothing. -/
theorem staysDeleted_signedUp :
    StaysDeleted idleOutside signedUp "tenant-1"
        ⟨"cus_1", ["sub_1"], []⟩ ↔
      Cleared signedUp "tenant-1" ⟨"cus_1", ["sub_1"], []⟩ :=
  staysDeleted_iff_cleared idleOutside (by decide)

/-
  The checkout is delivered once more after the customer is
  deleted: the tenant is active again.
-/
theorem not_staysDeleted :
    lookUp signedUp.customers (some "cus_1") =
        some "tenant-1" ∧
      ¬ StaysDeleted idleOutside signedUp "tenant-1"
        ⟨"cus_1", ["sub_1"], ["cs_1"]⟩ := by
  refine ⟨by decide, ?_⟩
  intro hStays
  have hCovers :
      (CustomerIds.mk "cus_1" ["sub_1"] ["cs_1"]).Covers
        signupEvent.object := by
    constructor
    · decide
    · decide
    · decide
  have hRun := hStays
    [⟨{ signupOutside with
        createTenantViaAdmin := fun _ => .error ⟨502, ""⟩ },
      signupEvent⟩] (by
        intro delivery hMem
        rw [List.mem_singleton.mp hMem]
        refine ⟨hCovers, ?_⟩
        intro name hMade
        cases hMade)
  exact absurd hRun.1 (by decide)

end StripeBilling

end RegEngine
