import RegEngine.Ingestion.StripeBilling.State

/-
  What the events of Stripe do to the subscriptions
  (`stripe_billing/webhooks.py`, with the readers of
  `helpers.py` and the catalog of `plans.py`).

  Main declarations:
    * `StripeBilling.handleCheckoutCompleted`
    * `StripeBilling.handleCustomerDeleted`
    * `StripeBilling.handleStripeEvent`
-/

--------
-- What Stripe Sends
--------

namespace RegEngine

namespace StripeBilling

section

/- `HTTPException`. -/
structure HttpException where
  statusCode : Nat
  detail : String
  deriving DecidableEq

/- An item of a subscription, with its price or its plan. -/
structure SubscriptionItem where
  priceId : Option String
  planId : Option String
  quantity : Option Nat
  currentPeriodEnd : Option Nat
  deriving DecidableEq

/- A subscription, with the quantity of its metadata. -/
structure Subscription where
  id : Option String
  customer : Option String
  status : Option String
  items : List SubscriptionItem
  currentPeriodEnd : Option Nat
  facilityQuantity : Option Nat
  trialEnd : Nat
  deriving DecidableEq

structure CheckoutMetadata where
  tenantId : Option String
  tenantName : Option String
  customerEmail : Option String
  planId : Option String
  billingPeriod : Option String
  facilityQuantity : Option Nat
  deriving DecidableEq

structure CheckoutSession where
  id : Option String
  customer : Option String
  subscription : Option String
  paymentStatus : Option String
  customerEmail : Option String
  customerDetailsEmail : Option String
  metadata : CheckoutMetadata
  deriving DecidableEq

/- An invoice; `linePeriodEnds` are those of its lines. -/
structure Invoice where
  id : Option String
  customer : Option String
  subscription : Option String
  created : Nat
  periodEnd : Option Nat
  linePeriodEnds : List (Option Nat)
  paidAt : Option Nat
  deriving DecidableEq

structure Dispute where
  id : Option String
  charge : Option String
  customer : Option String
  amount : Int
  currency : Option String
  reason : Option String
  status : Option String
  created : Nat
  deriving DecidableEq

inductive EventObject where
  | checkoutCompleted (session : CheckoutSession)
  | asyncPaymentSucceeded (session : CheckoutSession)
  | asyncPaymentFailed (session : CheckoutSession)
  | invoicePaymentFailed (invoice : Invoice)
  | invoicePaid (invoice : Invoice)
  | subscriptionUpdated (subscription : Subscription)
  | subscriptionDeleted (subscription : Subscription)
  | trialWillEnd (subscription : Subscription)
  | disputeCreated (dispute : Dispute)
  | customerDeleted (id : Option String)
  | ignored (type : String)
  deriving DecidableEq

/- An event; `created` is zero when it is missing. -/
structure StripeEvent where
  created : Nat
  object : EventObject
  deriving DecidableEq

/-
  What a handler asks of the world: the admin service, Stripe
  (`none` is a `StripeError`), the clock, the text of an epoch
  second in UTC, and the environment.
-/
structure Outside where
  createTenantViaAdmin : String → Except HttpException String
  retrieve : String → Option Subscription
  now : String
  isoformat : Nat → String
  getenv : String → Option String

--------
-- The Readers
--------

/- `_coerce_optional_int`. -/
def coerceOptionalInt (value : Option Nat) : Option Nat :=
  value.filter (fun number => 0 < number)

/- `_format_period_end`. -/
def formatPeriodEnd
    (out : Outside)
    (epochSeconds : Nat) : Option String :=
  if epochSeconds = 0 then none
  else some (out.isoformat epochSeconds)

/- `_extract_invoice_period_end`. -/
def extractInvoicePeriodEnd
    (out : Outside)
    (invoice : Invoice) : Option String :=
  ((coerceOptionalInt invoice.periodEnd).or
    (invoice.linePeriodEnds.findSome? coerceOptionalInt)).bind
      (formatPeriodEnd out)

/- `_extract_subscription_period_end`. -/
def extractSubscriptionPeriodEnd
    (out : Outside)
    (subscription : Subscription) : Option String :=
  ((subscription.items.findSome? (fun item =>
      coerceOptionalInt item.currentPeriodEnd)).or
    (coerceOptionalInt subscription.currentPeriodEnd)).bind
      (formatPeriodEnd out)

/- The price of an item, or the plan of older payloads. -/
def itemPriceId (item : SubscriptionItem) : Option String :=
  (truthy item.priceId).or (truthy item.planId)

/- `_extract_subscription_price_ids`. -/
def extractSubscriptionPriceIds
    (subscription : Subscription) : List String :=
  subscription.items.filterMap itemPriceId

/- The catalog: a variable, and the plan of its price. -/
def configuredPrices : List (String × String × String) :=
  [("STRIPE_PRICE_LIST_MONTHLY", "list", "monthly"),
    ("STRIPE_PRICE_FOUNDING_MONTHLY", "founding", "monthly"),
    ("STRIPE_PRICE_GROWTH_MONTHLY", "list", "monthly"),
    ("STRIPE_PRICE_SCALE_MONTHLY", "list", "monthly")]

/- `_plan_for_stripe_price`. -/
def planForStripePrice
    (out : Outside)
    (priceId : String) : Option (String × String) :=
  if priceId = "" then none
  else
    (configuredPrices.find? (fun entry =>
      out.getenv entry.1 == some priceId)).map Prod.snd

/- `_extract_subscription_facility_quantity`. -/
def extractSubscriptionFacilityQuantity
    (out : Outside)
    (subscription : Subscription) : Option Nat :=
  (subscription.items.findSome? (fun item => do
    let priceId ← itemPriceId item
    let mapped ← planForStripePrice out priceId
    if mapped.1 = "list" ∨ mapped.1 = "founding" then
      coerceOptionalInt item.quantity
    else
      none)).or
    (coerceOptionalInt subscription.facilityQuantity)

/- `_extract_paid_at`. -/
def extractPaidAt
    (out : Outside)
    (invoice : Invoice) : Option String :=
  ((coerceOptionalInt invoice.paidAt).or
    (coerceOptionalInt (some invoice.created))).bind
      (formatPeriodEnd out)

/- `PLAN_ALIASES`. -/
def planAliases : List (String × String) :=
  [("growth", "list"), ("base", "list"), ("starter", "list"),
    ("scale", "list"), ("standard", "list"),
    ("professional", "list"), ("premium", "enterprise")]

/- `_normalize_plan_id`. -/
def normalizePlanId (planId : String) : String :=
  (planAliases.lookup planId).getD planId

/- `_normalize_billing_period`. -/
def normalizeBillingPeriod (period : String) :
    Except HttpException String :=
  let normalized := Python.strip (Python.lower period)
  if normalized = "monthly" ∨ normalized = "annual" then
    .ok normalized
  else
    .error
      ⟨400, "billing_period must be 'monthly' or 'annual'"⟩

--------
-- Checkouts
--------

/-
  The plan that the prices of a subscription map to, and
  whether two of them map to different ones.
-/
def matchPlans
    (out : Outside) :
    Option (String × String) → List String →
      Option (String × String) × Bool
| found, [] => (found, false)
| found, priceId :: rest =>
    match planForStripePrice out priceId with
    | none => matchPlans out found rest
    | some plan =>
        if found.isSome ∧ found ≠ some plan then (found, true)
        else matchPlans out (some plan) rest

/- No plan can be told from the prices that are there. -/
def planUnverifiable
    (out : Outside)
    (subscription : Subscription) : Bool :=
  let priceIds := extractSubscriptionPriceIds subscription
  let (found, ambiguous) := matchPlans out none priceIds
  !priceIds.isEmpty && (ambiguous || found.isNone)

/- The plan and the period that are written. -/
def verifiedPlan
    (out : Outside)
    (subscription : Subscription)
    (planId billingPeriod : String) : String × String :=
  if planUnverifiable out subscription then
    ("", billingPeriod)
  else
    match (matchPlans out none
      (extractSubscriptionPriceIds subscription)).1 with
    | none => (planId, billingPeriod)
    | some (plan, period) =>
        if plan = planId then (planId, billingPeriod)
        else
          (plan, if period = "" then billingPeriod else period)

/- `_ENTITLING_STATUSES`. -/
def entitlingStatuses : List String :=
  ["active", "trialing"]

/- `_SETTLED_PAYMENT_STATUSES`. -/
def settledPaymentStatuses : List String :=
  ["paid", "no_payment_required"]

/- The status of what was retrieved, when its plan is known. -/
def retrievedStatus
    (out : Outside) : Option Subscription → String
| none => "incomplete"
| some subscription =>
    if planUnverifiable out subscription then "incomplete"
    else subscription.status.getD "incomplete"

def checkoutStatus
    (out : Outside)
    (session : CheckoutSession)
    (retrieved : Option Subscription) : String :=
  if retrievedStatus out retrieved ∈ entitlingStatuses ∧
      session.paymentStatus.getD "" ∉
        settledPaymentStatuses then
    "incomplete"
  else
    retrievedStatus out retrieved

def tenantNameOf (session : CheckoutSession) : String :=
  match truthy session.metadata.tenantName with
  | some name => name
  | none =>
      let email :=
        ((truthy session.metadata.customerEmail).or
          (truthy session.customerEmail)).getD "New Customer"
      String.ofList (email.toList.takeWhile (· ≠ '@')) ++
        " Team"

/- `initial_mapping`. -/
def initialMapping
    (out : Outside)
    (session : CheckoutSession)
    (retrieved : Option Subscription)
    (tenantId billingPeriod : String)
    (eventCreated : Option Nat) : Fields :=
  let planId :=
    normalizePlanId (session.metadata.planId.getD "growth")
  let plan :=
    match retrieved with
    | none => (planId, billingPeriod)
    | some subscription =>
        verifiedPlan out subscription planId billingPeriod
  let quantity :=
    (retrieved.bind
      (extractSubscriptionFacilityQuantity out)).or
        (coerceOptionalInt session.metadata.facilityQuantity)
  let email :=
    ((truthy session.customerDetailsEmail).or
      (truthy session.customerEmail)).getD
        (session.metadata.customerEmail.getD "")
  ((Fields.ofList [
    ("tenant_id", tenantId),
    ("session_id", session.id.getD ""),
    ("customer_id", session.customer.getD ""),
    ("subscription_id", session.subscription.getD ""),
    ("plan_id", plan.1),
    ("billing_period", plan.2),
    ("status", checkoutStatus out session retrieved),
    ("customer_email", email),
    ("current_period_end",
      (retrieved.bind
        (extractSubscriptionPeriodEnd out)).getD "")]
    ).setIfGiven "facility_quantity"
      (quantity.map toString)).setIfGiven
        "last_event_created" (eventCreated.map toString)

/- The mapping with a buffered update merged into it. -/
def mergePending
    (existing : Fields)
    (pending : PendingUpdate) : Fields :=
  ((((((existing.setIfGiven "status"
      (truthy (some pending.status))).setIfGiven
    "current_period_end" pending.currentPeriodEnd).setIfGiven
    "facility_quantity" pending.facilityQuantity).setIfGiven
    "last_invoice_id" pending.lastInvoiceId).setIfGiven
    "last_payment_at" pending.lastPaymentAt).setIfGiven
    "last_payment_failure_at"
      pending.lastPaymentFailureAt).set
    "last_event_created" (toString pending.eventCreated)

/-
  The buffered update is applied when it is newer than the
  checkout; it is gone in either case.
-/
def drainPending
    (out : Outside)
    (s : BillingState)
    (tenantId : String)
    (subscriptionId : Option String)
    (eventCreated : Option Nat) : BillingState :=
  match truthy subscriptionId with
  | none => s
  | some subscription =>
      match s.popPendingSubscriptionUpdate subscription with
      | (none, popped) => popped
      | (some pending, popped) =>
          if eventCreated.getD 0 < pending.eventCreated then
            popped.storeSubscriptionMapping out.now tenantId
              (mergePending
                (popped.getSubscriptionMapping tenantId) pending)
          else
            popped

/- The rest of a checkout, once its tenant is known. -/
def completeCheckout
    (out : Outside)
    (s : BillingState)
    (session : CheckoutSession)
    (eventCreated : Option Nat)
    (tenantId : String) :
    BillingState × Option HttpException :=
  match normalizeBillingPeriod
      (session.metadata.billingPeriod.getD "monthly") with
  | .error refusal => (s, some refusal)
  | .ok billingPeriod =>
      let retrieved :=
        (truthy session.subscription).map out.retrieve
      match retrieved with
      | some none =>
          (s, some ⟨503, "Stripe subscription lookup failed; " ++
            "webhook not processed"⟩)
      | _ =>
          (drainPending out
            (s.storeSubscriptionMapping out.now tenantId
              (initialMapping out session
                (retrieved.bind id) tenantId billingPeriod
                eventCreated))
            tenantId session.subscription eventCreated,
            none)

/- `_handle_checkout_completed`. -/
def handleCheckoutCompleted
    (out : Outside)
    (s : BillingState)
    (session : CheckoutSession)
    (eventCreated : Option Nat) :
    BillingState × Option HttpException :=
  match (lookUp s.sessions session.id).or
      (lookUp s.customers session.customer) with
  | some tenantId =>
      if (truthy session.metadata.tenantId).any
          (fun claimed => claimed != tenantId) then
        (s, some ⟨400, "Checkout metadata tenant_id does not " ++
          "match server-side binding"⟩)
      else
        completeCheckout out s session eventCreated tenantId
  | none =>
      match out.createTenantViaAdmin (tenantNameOf session) with
      | .error refusal => (s, some refusal)
      | .ok tenantId =>
          completeCheckout out
            (s.bindTenantLookups tenantId session.id
              session.customer)
            session eventCreated tenantId

--------
-- The Other Events
--------

/- The arguments of `_update_subscription_status`. -/
structure StatusUpdate where
  subscriptionId : Option String
  customerId : Option String
  status : String
  currentPeriodEnd : Option String
  facilityQuantity : Option Nat
  lastInvoiceId : Option String
  lastPaymentAt : Option String
  lastPaymentFailureAt : Option String
  eventCreated : Option Nat
  preserveStatus : Bool

/- The payload that waits for a checkout. -/
def StatusUpdate.pending (u : StatusUpdate) :
    PendingUpdate where
  status := u.status
  eventCreated := u.eventCreated.getD 0
  currentPeriodEnd := u.currentPeriodEnd
  facilityQuantity := u.facilityQuantity.map toString
  lastInvoiceId := u.lastInvoiceId
  lastPaymentAt := u.lastPaymentAt
  lastPaymentFailureAt := u.lastPaymentFailureAt
  customerId := u.customerId.getD ""

/-
  The reorder guard: a stored time stamp that cannot be read
  refuses the update, too.
-/
def StatusUpdate.stale
    (u : StatusUpdate)
    (existing : Fields) : Bool :=
  match u.eventCreated with
  | none => false
  | some created =>
      match BillingState.lastEventCreated existing with
      | none => true
      | some lastSeen => created < lastSeen

def StatusUpdate.mapping
    (u : StatusUpdate)
    (existing : Fields) : Fields :=
  let identified :=
    (existing.set "subscription_id"
      ((truthy u.subscriptionId).getD
        (existing.get "subscription_id"))).set "customer_id"
      ((truthy u.customerId).getD (existing.get "customer_id"))
  let stated :=
    if u.preserveStatus then identified
    else identified.set "status" u.status
  (((((stated.setIfGiven "current_period_end"
      u.currentPeriodEnd).setIfGiven
    "facility_quantity"
      (u.facilityQuantity.map toString)).setIfGiven
    "last_invoice_id" u.lastInvoiceId).setIfGiven
    "last_payment_at" u.lastPaymentAt).setIfGiven
    "last_payment_failure_at" u.lastPaymentFailureAt).setIfGiven
    "last_event_created" (u.eventCreated.map toString)

/- `_update_subscription_status`. -/
def updateSubscriptionStatus
    (out : Outside)
    (s : BillingState)
    (u : StatusUpdate) : BillingState :=
  match s.findTenantId u.subscriptionId u.customerId with
  | none =>
      match truthy u.subscriptionId with
      | none => s
      | some subscription =>
          s.bufferPendingSubscriptionUpdate subscription
            u.pending
  | some tenantId =>
      if u.stale (s.getSubscriptionMapping tenantId) then s
      else
        s.storeSubscriptionMapping out.now tenantId
          (u.mapping (s.getSubscriptionMapping tenantId))

/- The update of `checkout.session.async_payment_failed`. -/
def asyncPaymentFailedUpdate
    (session : CheckoutSession)
    (eventCreated : Option Nat) : StatusUpdate where
  subscriptionId := session.subscription
  customerId := session.customer
  status := "incomplete"
  currentPeriodEnd := none
  facilityQuantity := none
  lastInvoiceId := none
  lastPaymentAt := none
  lastPaymentFailureAt := none
  eventCreated := eventCreated
  preserveStatus := false

/- The update of `invoice.payment_failed`. -/
def invoicePaymentFailedUpdate
    (out : Outside)
    (invoice : Invoice)
    (eventCreated : Option Nat) : StatusUpdate where
  subscriptionId := invoice.subscription
  customerId := invoice.customer
  status := "past_due"
  currentPeriodEnd := none
  facilityQuantity := none
  lastInvoiceId := some (invoice.id.getD "")
  lastPaymentAt := none
  lastPaymentFailureAt := formatPeriodEnd out invoice.created
  eventCreated := eventCreated
  preserveStatus := (truthy invoice.subscription).isNone

/- The update of `invoice.paid`. -/
def invoicePaidUpdate
    (out : Outside)
    (invoice : Invoice)
    (eventCreated : Option Nat) : StatusUpdate where
  subscriptionId := invoice.subscription
  customerId := invoice.customer
  status := "active"
  currentPeriodEnd := extractInvoicePeriodEnd out invoice
  facilityQuantity := none
  lastInvoiceId := some (invoice.id.getD "")
  lastPaymentAt := extractPaidAt out invoice
  lastPaymentFailureAt := none
  eventCreated := eventCreated
  preserveStatus := (truthy invoice.subscription).isNone

/-
  The update of `customer.subscription.updated` and `.deleted`,
  which differ in their status.
-/
def subscriptionUpdate
    (out : Outside)
    (subscription : Subscription)
    (status : String)
    (eventCreated : Option Nat) : StatusUpdate where
  subscriptionId := subscription.id
  customerId := subscription.customer
  status := status
  currentPeriodEnd := none
  facilityQuantity :=
    extractSubscriptionFacilityQuantity out subscription
  lastInvoiceId := none
  lastPaymentAt := none
  lastPaymentFailureAt := none
  eventCreated := eventCreated
  preserveStatus := false

/-
  The period end of a subscription event, unless the stored
  time stamp has moved past the event.
-/
def persistPeriodEnd
    (out : Outside)
    (s : BillingState)
    (subscription : Subscription)
    (eventCreated : Option Nat) : BillingState :=
  match s.findTenantId subscription.id
      subscription.customer with
  | none => s
  | some tenantId =>
      let existing := s.getSubscriptionMapping tenantId
      let lastSeen :=
        (BillingState.lastEventCreated existing).getD 0
      if eventCreated.all (fun created =>
          lastSeen ≤ created) then
        match extractSubscriptionPeriodEnd out subscription with
        | none => s
        | some periodEnd =>
            s.storeSubscriptionMapping out.now tenantId
              (existing.set "current_period_end" periodEnd)
      else
        s

/- The branch of the two subscription events. -/
def handleSubscriptionEvent
    (out : Outside)
    (s : BillingState)
    (subscription : Subscription)
    (status : String)
    (eventCreated : Option Nat) : BillingState :=
  persistPeriodEnd out
    (updateSubscriptionStatus out s
      (subscriptionUpdate out subscription status eventCreated))
    subscription eventCreated

/- `_handle_trial_will_end`. -/
def handleTrialWillEnd
    (out : Outside)
    (s : BillingState)
    (subscription : Subscription) : BillingState :=
  match s.findTenantId subscription.id
      subscription.customer with
  | none => s
  | some tenantId =>
      let existing := s.getSubscriptionMapping tenantId
      s.storeSubscriptionMapping out.now tenantId
        (existing.update [
          ("trial_end",
            (formatPeriodEnd out subscription.trialEnd).getD ""),
          ("trial_will_end_notified_at", out.now),
          ("status",
            ((truthy subscription.status).or
              (truthy (existing "status"))).getD "trialing"),
          ("subscription_id",
            (truthy subscription.id).getD
              (existing.get "subscription_id")),
          ("customer_id",
            (truthy subscription.customer).getD
              (existing.get "customer_id"))])

/- `_handle_dispute_created`. -/
def handleDisputeCreated
    (out : Outside)
    (s : BillingState)
    (dispute : Dispute) : BillingState :=
  match s.findTenantId none dispute.customer with
  | none => s
  | some tenantId =>
      s.storeSubscriptionMapping out.now tenantId
        ((s.getSubscriptionMapping tenantId).update [
          ("last_dispute_id", dispute.id.getD ""),
          ("last_dispute_charge_id", dispute.charge.getD ""),
          ("last_dispute_amount_cents", toString dispute.amount),
          ("last_dispute_currency", dispute.currency.getD ""),
          ("last_dispute_reason", dispute.reason.getD ""),
          ("last_dispute_status", dispute.status.getD ""),
          ("last_dispute_opened_at",
            (formatPeriodEnd out dispute.created).getD
              out.now)])

/- `_handle_customer_deleted`. -/
def handleCustomerDeleted
    (out : Outside)
    (s : BillingState)
    (customerId : Option String) : BillingState :=
  match truthy customerId with
  | none => s
  | some customer =>
      match s.findTenantId none (some customer) with
      | none => s.clearCustomerLookup customer
      | some tenantId =>
          let existing := s.getSubscriptionMapping tenantId
          ((s.storeSubscriptionMapping out.now tenantId
            (existing.update [
              ("status", "customer_deleted"),
              ("customer_deleted_at", out.now)])
            ).clearCustomerLookup customer
            ).clearSubscriptionLookup
              (existing.get "subscription_id")

/- `event_created`: no time stamp when it is missing. -/
def StripeEvent.eventCreated (event : StripeEvent) :
    Option Nat :=
  if event.created = 0 then none else some event.created

/-
  `_handle_stripe_event`, with the exception that it raises, if
  any.
-/
def handleStripeEvent
    (out : Outside)
    (s : BillingState)
    (event : StripeEvent) :
    BillingState × Option HttpException :=
  let created := event.eventCreated
  match event.object with
  | .checkoutCompleted session =>
      handleCheckoutCompleted out s session created
  | .asyncPaymentSucceeded session =>
      handleCheckoutCompleted out s session created
  | .asyncPaymentFailed session =>
      (updateSubscriptionStatus out s
        (asyncPaymentFailedUpdate session created), none)
  | .invoicePaymentFailed invoice =>
      (updateSubscriptionStatus out s
        (invoicePaymentFailedUpdate out invoice created), none)
  | .invoicePaid invoice =>
      (updateSubscriptionStatus out s
        (invoicePaidUpdate out invoice created), none)
  | .subscriptionUpdated subscription =>
      (handleSubscriptionEvent out s subscription
        ((truthy subscription.status).getD "active") created,
        none)
  | .subscriptionDeleted subscription =>
      (handleSubscriptionEvent out s subscription "canceled"
        created, none)
  | .trialWillEnd subscription =>
      (handleTrialWillEnd out s subscription, none)
  | .disputeCreated dispute =>
      (handleDisputeCreated out s dispute, none)
  | .customerDeleted id =>
      (handleCustomerDeleted out s id, none)
  | .ignored _ => (s, none)

--------
-- What The Handlers Come To
--------

variable {out : Outside} {s : BillingState} {tenantId : String}
variable {session : CheckoutSession} {u : StatusUpdate}

theorem handleCheckoutCompleted_of_found
    (hFound :
      (lookUp s.sessions session.id).or
        (lookUp s.customers session.customer) = some tenantId)
    (hClaimed :
      (truthy session.metadata.tenantId).any
        (fun claimed => claimed != tenantId) = false)
    (eventCreated : Option Nat) :
    handleCheckoutCompleted out s session eventCreated =
      completeCheckout out s session eventCreated tenantId := by
  unfold handleCheckoutCompleted
  rw [hFound]
  dsimp only
  rw [hClaimed]
  exact if_neg Bool.false_ne_true

/- A checkout of a tenant that is made. -/
theorem handleCheckoutCompleted_of_created
    (hNone :
      (lookUp s.sessions session.id).or
        (lookUp s.customers session.customer) = none)
    (hCreated :
      out.createTenantViaAdmin (tenantNameOf session) =
        .ok tenantId)
    (eventCreated : Option Nat) :
    handleCheckoutCompleted out s session eventCreated =
      completeCheckout out
        (s.bindTenantLookups tenantId session.id
          session.customer)
        session eventCreated tenantId := by
  unfold handleCheckoutCompleted
  rw [hNone]
  dsimp only
  rw [hCreated]

/- A checkout without a subscription writes its mapping. -/
theorem completeCheckout_of_no_subscription
    {billingPeriod : String}
    (hPeriod :
      normalizeBillingPeriod
        (session.metadata.billingPeriod.getD "monthly") =
          .ok billingPeriod)
    (hNone : truthy session.subscription = none)
    (eventCreated : Option Nat) :
    completeCheckout out s session eventCreated tenantId =
      (s.storeSubscriptionMapping out.now tenantId
        (initialMapping out session none tenantId billingPeriod
          eventCreated), none) := by
  unfold completeCheckout drainPending
  rw [hPeriod, hNone]
  dsimp only [Option.map_none, Option.bind_none]

/- A checkout with a subscription drains the buffer, too. -/
theorem completeCheckout_of_subscription
    {billingPeriod name : String}
    {retrieved : Subscription}
    (hPeriod :
      normalizeBillingPeriod
        (session.metadata.billingPeriod.getD "monthly") =
          .ok billingPeriod)
    (hName : truthy session.subscription = some name)
    (hRetrieve : out.retrieve name = some retrieved)
    (eventCreated : Option Nat) :
    completeCheckout out s session eventCreated tenantId =
      (drainPending out
        (s.storeSubscriptionMapping out.now tenantId
          (initialMapping out session (some retrieved) tenantId
            billingPeriod eventCreated))
        tenantId session.subscription eventCreated, none) := by
  unfold completeCheckout
  rw [hPeriod, hName]
  dsimp only [Option.map_some]
  rw [hRetrieve]
  dsimp only [Option.bind_some, id]

/- An update whose tenant is not found waits. -/
theorem updateSubscriptionStatus_of_none
    {name : String}
    (hNone :
      s.findTenantId u.subscriptionId u.customerId = none)
    (hName : truthy u.subscriptionId = some name) :
    updateSubscriptionStatus out s u =
      s.bufferPendingSubscriptionUpdate name u.pending := by
  unfold updateSubscriptionStatus
  rw [hNone, hName]

/- An update that the reorder guard refuses does nothing. -/
theorem updateSubscriptionStatus_of_stale
    (hFound :
      s.findTenantId u.subscriptionId u.customerId =
        some tenantId)
    (hStale :
      u.stale (s.getSubscriptionMapping tenantId) = true) :
    updateSubscriptionStatus out s u = s := by
  unfold updateSubscriptionStatus
  rw [hFound]
  dsimp only
  rw [hStale]
  rfl

/- Any other update writes its mapping. -/
theorem updateSubscriptionStatus_of_found
    (hFound :
      s.findTenantId u.subscriptionId u.customerId =
        some tenantId)
    (hStale :
      u.stale (s.getSubscriptionMapping tenantId) = false) :
    updateSubscriptionStatus out s u =
      s.storeSubscriptionMapping out.now tenantId
        (u.mapping (s.getSubscriptionMapping tenantId)) := by
  unfold updateSubscriptionStatus
  rw [hFound]
  dsimp only
  rw [hStale]
  rfl

end

--------
-- Events That Do Not Find A Tenant
--------

namespace EventObject

/- The checkout session that an event looks up. -/
def sessionId : EventObject → Option String
| .checkoutCompleted session => session.id
| .asyncPaymentSucceeded session => session.id
| _ => none

/- The subscription that an event names. -/
def subscriptionId : EventObject → Option String
| .checkoutCompleted session => session.subscription
| .asyncPaymentSucceeded session => session.subscription
| .asyncPaymentFailed session => session.subscription
| .invoicePaymentFailed invoice => invoice.subscription
| .invoicePaid invoice => invoice.subscription
| .subscriptionUpdated subscription => subscription.id
| .subscriptionDeleted subscription => subscription.id
| .trialWillEnd subscription => subscription.id
| .disputeCreated _ => none
| .customerDeleted _ => none
| .ignored _ => none

/- The customer that an event names. -/
def customerId : EventObject → Option String
| .checkoutCompleted session => session.customer
| .asyncPaymentSucceeded session => session.customer
| .asyncPaymentFailed session => session.customer
| .invoicePaymentFailed invoice => invoice.customer
| .invoicePaid invoice => invoice.customer
| .subscriptionUpdated subscription => subscription.customer
| .subscriptionDeleted subscription => subscription.customer
| .trialWillEnd subscription => subscription.customer
| .disputeCreated dispute => dispute.customer
| .customerDeleted id => id
| .ignored _ => none

end EventObject

/- No identifier of an event leads to the tenant. -/
structure BillingState.Misses
    (s : BillingState)
    (tenantId : String)
    (object : EventObject) : Prop where
  session : lookUp s.sessions object.sessionId ≠ some tenantId
  subscription :
    lookUp s.subscriptions object.subscriptionId ≠ some tenantId
  customer :
    lookUp s.customers object.customerId ≠ some tenantId

/- The admin service makes another tenant, or none. -/
def Outside.Provisions
    (out : Outside)
    (tenantId : String) : Prop :=
  ∀ name, out.createTenantViaAdmin name ≠ .ok tenantId

variable {tenantId : String} {s : BillingState}

/- Then the tenant is not found, either. -/
theorem findTenantId_ne
    {subscriptionId customerId : Option String}
    (hSubscription :
      lookUp s.subscriptions subscriptionId ≠ some tenantId)
    (hCustomer : lookUp s.customers customerId ≠ some tenantId)
    {found : String}
    (hFound :
      s.findTenantId subscriptionId customerId = some found) :
    found ≠ tenantId := by
  rintro rfl
  rcases findTenantId_eq_some hFound with hSub | hCust
  · exact hSubscription hSub
  · exact hCustomer hCust

variable {other : String} {out : Outside}
variable {subscription : Subscription}

/- The buffered update goes to the tenant of the checkout. -/
theorem untouched_drainPending
    (hOther : other ≠ tenantId)
    (out : Outside)
    (s : BillingState)
    (subscriptionId : Option String)
    (eventCreated : Option Nat) :
    s.Untouched tenantId
      (drainPending out s other subscriptionId
        eventCreated) := by
  unfold drainPending
  cases truthy subscriptionId with
  | none => exact .refl tenantId s
  | some subscription =>
    have hPopped :
        s.Untouched tenantId
          (s.popPendingSubscriptionUpdate subscription).2 :=
      untouched_popPendingSubscriptionUpdate s subscription
    dsimp only
    rcases hPop : s.popPendingSubscriptionUpdate subscription with
      ⟨_ | pending, popped⟩
    · rw [hPop] at hPopped
      exact hPopped
    · rw [hPop] at hPopped
      dsimp only
      split
      · exact hPopped.trans
          (untouched_storeSubscriptionMapping hOther _ _ _)
      · exact hPopped

theorem untouched_completeCheckout
    (hOther : other ≠ tenantId)
    (out : Outside)
    (s : BillingState)
    (session : CheckoutSession)
    (eventCreated : Option Nat) :
    s.Untouched tenantId
      (completeCheckout out s session eventCreated other).1 := by
  unfold completeCheckout
  split
  · exact .refl tenantId s
  · dsimp only
    split
    · exact .refl tenantId s
    · exact (untouched_storeSubscriptionMapping hOther _ _ _).trans
        (untouched_drainPending hOther _ _ _ _)

/- A checkout of another tenant, or of a new one. -/
theorem untouched_handleCheckoutCompleted
    {session : CheckoutSession}
    (hProvisions : out.Provisions tenantId)
    (hSession : lookUp s.sessions session.id ≠ some tenantId)
    (hCustomer :
      lookUp s.customers session.customer ≠ some tenantId)
    (eventCreated : Option Nat) :
    s.Untouched tenantId
      (handleCheckoutCompleted out s session eventCreated).1 := by
  unfold handleCheckoutCompleted
  split
  · rename_i found hFound
    have hOther : found ≠ tenantId := by
      rintro rfl
      rw [Option.or_eq_some_iff] at hFound
      rcases hFound with hHere | ⟨-, hHere⟩
      · exact hSession hHere
      · exact hCustomer hHere
    split
    · exact .refl tenantId s
    · exact untouched_completeCheckout hOther _ _ _ _
  · split
    · exact .refl tenantId s
    · rename_i created hCreated
      have hOther : created ≠ tenantId := by
        rintro rfl
        exact hProvisions _ hCreated
      exact (untouched_bindTenantLookups hOther _ _ _).trans
        (untouched_completeCheckout hOther _ _ _ _)

/- An update that finds another tenant, or none. -/
theorem untouched_updateSubscriptionStatus
    {u : StatusUpdate}
    (hSubscription :
      lookUp s.subscriptions u.subscriptionId ≠ some tenantId)
    (hCustomer :
      lookUp s.customers u.customerId ≠ some tenantId)
    (out : Outside) :
    s.Untouched tenantId (updateSubscriptionStatus out s u) := by
  unfold updateSubscriptionStatus
  split
  · split
    · exact .refl tenantId s
    · exact untouched_bufferPendingSubscriptionUpdate _ _ _
  · rename_i found hFound
    split
    · exact .refl tenantId s
    · exact untouched_storeSubscriptionMapping
        (findTenantId_ne hSubscription hCustomer hFound) _ _ _

/- The period end of another tenant, or of none. -/
theorem untouched_persistPeriodEnd
    (hSubscription :
      lookUp s.subscriptions subscription.id ≠ some tenantId)
    (hCustomer :
      lookUp s.customers subscription.customer ≠ some tenantId)
    (out : Outside)
    (eventCreated : Option Nat) :
    s.Untouched tenantId
      (persistPeriodEnd out s subscription eventCreated) := by
  unfold persistPeriodEnd
  split
  · exact .refl tenantId s
  · rename_i found hFound
    dsimp only
    split
    · split
      · exact .refl tenantId s
      · exact untouched_storeSubscriptionMapping
          (findTenantId_ne hSubscription hCustomer hFound) _ _ _
    · exact .refl tenantId s

/- A subscription event of another tenant, or of none. -/
theorem untouched_handleSubscriptionEvent
    (hSubscription :
      lookUp s.subscriptions subscription.id ≠ some tenantId)
    (hCustomer :
      lookUp s.customers subscription.customer ≠ some tenantId)
    (out : Outside)
    (status : String)
    (eventCreated : Option Nat) :
    s.Untouched tenantId
      (handleSubscriptionEvent out s subscription status
        eventCreated) := by
  have hUpdated :
      s.Untouched tenantId
        (updateSubscriptionStatus out s
          (subscriptionUpdate out subscription status
            eventCreated)) :=
    untouched_updateSubscriptionStatus hSubscription hCustomer
      out
  exact hUpdated.trans
    (untouched_persistPeriodEnd
      (lookUp_ne_of_untouched hUpdated.subscriptions hSubscription)
      (lookUp_ne_of_untouched hUpdated.customers hCustomer)
      out eventCreated)

/- A customer that is deleted at another tenant, or none. -/
theorem untouched_handleCustomerDeleted
    {customerId : Option String}
    (hCustomer : lookUp s.customers customerId ≠ some tenantId)
    (out : Outside) :
    s.Untouched tenantId
      (handleCustomerDeleted out s customerId) := by
  unfold handleCustomerDeleted
  split
  · exact .refl tenantId s
  · rename_i customer hGiven
    rw [(truthy_eq_some_iff.mp hGiven).1] at hCustomer
    split
    · exact untouched_clearCustomerLookup _ _
    · rename_i found hFound
      have hOther : found ≠ tenantId :=
        findTenantId_ne (by simp) hCustomer hFound
      exact ((untouched_storeSubscriptionMapping hOther _ _
        _).trans (untouched_clearCustomerLookup _ _)).trans
          (untouched_clearSubscriptionLookup _ _)

/-
  An event none of whose identifiers leads to a tenant leaves
  it alone.
-/
theorem untouched_handleStripeEvent
    {event : StripeEvent}
    (hProvisions : out.Provisions tenantId)
    (hMisses : s.Misses tenantId event.object) :
    s.Untouched tenantId (handleStripeEvent out s event).1 := by
  rcases event with ⟨created, object⟩
  rcases hMisses with ⟨hSession, hSubscription, hCustomer⟩
  unfold handleStripeEvent
  cases object with
  | checkoutCompleted session =>
    exact untouched_handleCheckoutCompleted hProvisions hSession
      hCustomer _
  | asyncPaymentSucceeded session =>
    exact untouched_handleCheckoutCompleted hProvisions hSession
      hCustomer _
  | asyncPaymentFailed session =>
    exact untouched_updateSubscriptionStatus hSubscription
      hCustomer out
  | invoicePaymentFailed invoice =>
    exact untouched_updateSubscriptionStatus hSubscription
      hCustomer out
  | invoicePaid invoice =>
    exact untouched_updateSubscriptionStatus hSubscription
      hCustomer out
  | subscriptionUpdated subscription =>
    exact untouched_handleSubscriptionEvent hSubscription
      hCustomer out _ _
  | subscriptionDeleted subscription =>
    exact untouched_handleSubscriptionEvent hSubscription
      hCustomer out _ _
  | trialWillEnd subscription =>
    change s.Untouched tenantId
      (handleTrialWillEnd out s subscription)
    unfold handleTrialWillEnd
    split
    · exact .refl tenantId s
    · rename_i found hFound
      exact untouched_storeSubscriptionMapping
        (findTenantId_ne hSubscription hCustomer hFound) _ _ _
  | disputeCreated dispute =>
    change s.Untouched tenantId
      (handleDisputeCreated out s dispute)
    unfold handleDisputeCreated
    split
    · exact .refl tenantId s
    · rename_i found hFound
      exact untouched_storeSubscriptionMapping
        (findTenantId_ne (by simp) hCustomer hFound) _ _ _
  | customerDeleted id =>
    exact untouched_handleCustomerDeleted hCustomer out
  | ignored type => exact .refl tenantId s

end StripeBilling

end RegEngine
