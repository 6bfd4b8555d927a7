import Mathlib.Logic.Function.Basic
import RegEngine.Library.Chars

/-
  What Redis holds of the subscriptions
  (`stripe_billing/state.py`): a hash for each tenant, the keys
  that lead from a subscription, a customer or a checkout
  session to a tenant, and the updates that wait for a checkout.

  Main declarations:
    * `StripeBilling.BillingState`
    * `StripeBilling.BillingState.storeSubscriptionMapping`
    * `StripeBilling.findTenantId_eq_some`
-/

--------
-- Texts That May Be Missing
--------

namespace RegEngine

namespace StripeBilling

/- A text that Python takes for true. -/
def truthy (text : Option String) : Option String :=
  text.filter (fun value => value ≠ "")

/- A text that is there and is not the empty one. -/
theorem truthy_eq_some_iff
    {text : Option String}
    {value : String} :
    truthy text = some value ↔
      text = some value ∧ value ≠ "" := by
  rw [truthy, Option.filter_eq_some_iff]
  simp

/- A text that is not empty. -/
theorem truthy_some
    {value : String}
    (hValue : value ≠ "") :
    truthy (some value) = some value :=
  truthy_eq_some_iff.mpr ⟨rfl, hValue⟩

--------
-- Hashes
--------

/- The fields of a hash, or of a mapping to be written. -/
abbrev Fields : Type :=
  String → Option String

namespace Fields

def empty : Fields :=
  fun _ => none

/- `mapping.get(name) or ""`. -/
def get (fields : Fields) (name : String) : String :=
  (fields name).getD ""

/- `mapping[name] = value`. -/
def set (fields : Fields) (name value : String) : Fields :=
  Function.update fields name (some value)

/- `if value is not None: mapping[name] = value`. -/
def setIfGiven
    (fields : Fields)
    (name : String)
    (value : Option String) : Fields :=
  match value with
  | some given => fields.set name given
  | none => fields

/- `HSET`: the fields of the mapping over those of the hash. -/
def overlay (mapping fields : Fields) : Fields :=
  fun name => (mapping name).or (fields name)

/- A mapping with the entries given. -/
def ofList (entries : List (String × String)) : Fields :=
  entries.foldl (fun fields entry =>
    fields.set entry.1 entry.2) empty

/- `mapping.update(entries)`. -/
def update
    (fields : Fields)
    (entries : List (String × String)) : Fields :=
  entries.foldl (fun current entry =>
    current.set entry.1 entry.2) fields

/- A field as it was last set. -/
@[simp]
theorem get_set
    (fields : Fields)
    (name value other : String) :
    (fields.set name value).get other =
      if other = name then value else fields.get other := by
  unfold Fields.get Fields.set
  rw [Function.update_apply]
  by_cases hSame : other = name
  · rw [if_pos hSame, if_pos hSame, Option.getD_some]
  · rw [if_neg hSame, if_neg hSame]

/- Fields set one after the other. -/
@[simp]
theorem update_nil
    (fields : Fields) :
    fields.update [] = fields := by
  rfl

@[simp]
theorem update_cons
    (fields : Fields)
    (entry : String × String)
    (rest : List (String × String)) :
    fields.update (entry :: rest) =
      (fields.set entry.1 entry.2).update rest := by
  rfl

end Fields

--------
-- The State
--------

/- A payload of the buffer of updates. -/
structure PendingUpdate where
  status : String
  eventCreated : Nat
  currentPeriodEnd : Option String
  facilityQuantity : Option String
  lastInvoiceId : Option String
  lastPaymentAt : Option String
  lastPaymentFailureAt : Option String
  customerId : String
  deriving DecidableEq

/-
  The keys `billing:tenant:`, `billing:subscription:`,
  `billing:customer:`, `billing:session:` and
  `billing:pending_sub_update:`.
-/
structure BillingState where
  tenants : String → Fields
  subscriptions : String → Option String
  customers : String → Option String
  sessions : String → Option String
  pending : String → Option PendingUpdate

/- Redis without a key. -/
def BillingState.empty : BillingState where
  tenants := fun _ => Fields.empty
  subscriptions := fun _ => none
  customers := fun _ => none
  sessions := fun _ => none
  pending := fun _ => none

/- `_TERMINAL_STATUSES`. -/
def terminalStatuses : List String :=
  ["customer_deleted"]

/- `client.set(key, tenant_id)`, when there is a key. -/
def bindKey
    (keys : String → Option String)
    (key tenantId : String) : String → Option String :=
  if key = "" then keys
  else Function.update keys key (some tenantId)

/- `client.get(key)`, when there is a key. -/
def lookUp
    (keys : String → Option String)
    (key : Option String) : Option String :=
  truthy ((truthy key).bind keys)

namespace BillingState

/- `_bind_tenant_lookups`. -/
def bindTenantLookups
    (s : BillingState)
    (tenantId : String)
    (sessionId customerId : Option String) : BillingState :=
  if tenantId = "" then s
  else
    { s with
      sessions := bindKey s.sessions (sessionId.getD "") tenantId
      customers :=
        bindKey s.customers (customerId.getD "") tenantId }

/- `_store_subscription_mapping`. -/
def storeSubscriptionMapping
    (s : BillingState)
    (now tenantId : String)
    (payload : Fields) : BillingState :=
  let mapping := payload.set "updated_at" now
  let written : BillingState :=
    { s with
      tenants := Function.update s.tenants tenantId
        (mapping.overlay (s.tenants tenantId)) }
  if mapping.get "status" ∈ terminalStatuses then
    written
  else
    { written with
      subscriptions := bindKey s.subscriptions
        (mapping.get "subscription_id") tenantId
      customers :=
        bindKey s.customers (mapping.get "customer_id") tenantId
      sessions :=
        bindKey s.sessions (mapping.get "session_id") tenantId }

/- `_get_subscription_mapping`. -/
def getSubscriptionMapping
    (s : BillingState)
    (tenantId : String) : Fields :=
  s.tenants tenantId

/- `_find_tenant_id`. -/
def findTenantId
    (s : BillingState)
    (subscriptionId customerId : Option String) :
    Option String :=
  (lookUp s.subscriptions subscriptionId).or
    (lookUp s.customers customerId)

/-
  `_buffer_pending_subscription_update`: the newest of the
  updates that wait for a subscription.
-/
def bufferPendingSubscriptionUpdate
    (s : BillingState)
    (subscriptionId : String)
    (payload : PendingUpdate) : BillingState :=
  match s.pending subscriptionId with
  | some buffered =>
      if payload.eventCreated < buffered.eventCreated then s
      else
        { s with
          pending := Function.update s.pending subscriptionId
            (some payload) }
  | none =>
      { s with
        pending := Function.update s.pending subscriptionId
          (some payload) }

/- `_pop_pending_subscription_update`. -/
def popPendingSubscriptionUpdate
    (s : BillingState)
    (subscriptionId : String) :
    Option PendingUpdate × BillingState :=
  (s.pending subscriptionId,
    { s with
      pending := Function.update s.pending subscriptionId none })

/- `_clear_customer_lookup`. -/
def clearCustomerLookup
    (s : BillingState)
    (customerId : String) : BillingState :=
  if customerId = "" then s
  else
    { s with
      customers := Function.update s.customers customerId none }

/- `_clear_subscription_lookup`. -/
def clearSubscriptionLookup
    (s : BillingState)
    (subscriptionId : String) : BillingState :=
  if subscriptionId = "" then s
  else
    { s with
      subscriptions :=
        Function.update s.subscriptions subscriptionId none }

/-
  `int(mapping.get("last_event_created") or 0)`; `none` is the
  `ValueError`.
-/
def lastEventCreated (fields : Fields) : Option Nat :=
  if fields.get "last_event_created" = "" then some 0
  else
    Chars.intOfDigits (fields.get "last_event_created").toList

end BillingState

--------
-- What Leads To A Tenant
--------

variable {key : Option String}

/- A key leads to the tenant that its text names. -/
theorem lookUp_eq_some_iff
    {keys : String → Option String}
    {tenantId : String} :
    lookUp keys key = some tenantId ↔
      ∃ name, key = some name ∧ name ≠ "" ∧
        keys name = some tenantId ∧ tenantId ≠ "" := by
  rw [lookUp, truthy_eq_some_iff, Option.bind_eq_some_iff]
  constructor
  · rintro ⟨⟨name, hName, hKey⟩, hTenant⟩
    rcases truthy_eq_some_iff.mp hName with ⟨hGiven, hNonempty⟩
    exact ⟨name, hGiven, hNonempty, hKey, hTenant⟩
  · rintro ⟨name, hGiven, hNonempty, hKey, hTenant⟩
    exact ⟨⟨name, truthy_eq_some_iff.mpr ⟨hGiven, hNonempty⟩,
      hKey⟩, hTenant⟩

/- No key leads anywhere. -/
@[simp]
theorem lookUp_none
    (keys : String → Option String) :
    lookUp keys none = none := by
  rfl

/- A key that is bound leads to its tenant. -/
theorem lookUp_bindKey
    {keys : String → Option String}
    {key tenantId : String}
    (hKey : key ≠ "")
    (hTenant : tenantId ≠ "") :
    lookUp (bindKey keys key tenantId) (some key) =
      some tenantId := by
  rw [lookUp_eq_some_iff]
  refine ⟨key, rfl, hKey, ?_, hTenant⟩
  rw [bindKey, if_neg hKey, Function.update_self]

/- What a key leads to after another one was bound. -/
theorem bindKey_eq_some
    {keys : String → Option String}
    {key tenantId name found : String}
    (hFound : bindKey keys key tenantId name = some found) :
    found = tenantId ∨ keys name = some found := by
  unfold bindKey at hFound
  by_cases hEmpty : key = ""
  · rw [if_pos hEmpty] at hFound
    exact Or.inr hFound
  · rw [if_neg hEmpty, Function.update_apply] at hFound
    by_cases hSame : name = key
    · rw [if_pos hSame, Option.some.injEq] at hFound
      exact Or.inl hFound.symm
    · rw [if_neg hSame] at hFound
      exact Or.inr hFound

/- A tenant is found by its subscription or its customer. -/
theorem findTenantId_eq_some
    {s : BillingState}
    {subscriptionId customerId : Option String}
    {tenantId : String}
    (hFound :
      s.findTenantId subscriptionId customerId =
        some tenantId) :
    lookUp s.subscriptions subscriptionId = some tenantId ∨
      lookUp s.customers customerId = some tenantId := by
  rw [BillingState.findTenantId] at hFound
  cases hSub : lookUp s.subscriptions subscriptionId with
  | none =>
    rw [hSub, Option.none_or] at hFound
    exact Or.inr hFound
  | some found =>
    rw [hSub, Option.some_or] at hFound
    exact Or.inl hFound

--------
-- A Tenant That Is Left Alone
--------

/- The hash of a tenant stays, and no key turns to it. -/
structure BillingState.Untouched
    (tenantId : String)
    (s next : BillingState) : Prop where
  hash : next.tenants tenantId = s.tenants tenantId
  subscriptions :
    ∀ key, next.subscriptions key = some tenantId →
      s.subscriptions key = some tenantId
  customers :
    ∀ key, next.customers key = some tenantId →
      s.customers key = some tenantId
  sessions :
    ∀ key, next.sessions key = some tenantId →
      s.sessions key = some tenantId

theorem BillingState.Untouched.refl
    (tenantId : String)
    (s : BillingState) :
    s.Untouched tenantId s :=
  ⟨rfl, fun _ hKey => hKey, fun _ hKey => hKey,
    fun _ hKey => hKey⟩

theorem BillingState.Untouched.trans
    {tenantId : String}
    {s t u : BillingState}
    (hFirst : s.Untouched tenantId t)
    (hSecond : t.Untouched tenantId u) :
    s.Untouched tenantId u where
  hash := hSecond.hash.trans hFirst.hash
  subscriptions key hKey :=
    hFirst.subscriptions key (hSecond.subscriptions key hKey)
  customers key hKey :=
    hFirst.customers key (hSecond.customers key hKey)
  sessions key hKey :=
    hFirst.sessions key (hSecond.sessions key hKey)

/- A key that did not lead to the tenant does not yet. -/
theorem lookUp_ne_of_untouched
    {keys keys' : String → Option String}
    {tenantId : String}
    (hKeys :
      ∀ name, keys' name = some tenantId →
        keys name = some tenantId)
    (hNo : lookUp keys key ≠ some tenantId) :
    lookUp keys' key ≠ some tenantId := by
  intro hFound
  rcases lookUp_eq_some_iff.mp hFound with
    ⟨name, hGiven, hName, hKey, hTenant⟩
  exact hNo (lookUp_eq_some_iff.mpr
    ⟨name, hGiven, hName, hKeys name hKey, hTenant⟩)

variable {tenantId other : String}

theorem untouched_storeSubscriptionMapping
    (hOther : other ≠ tenantId)
    (s : BillingState)
    (now : String)
    (payload : Fields) :
    s.Untouched tenantId
      (s.storeSubscriptionMapping now other payload) := by
  have hBind : ∀ {keys : String → Option String} {key name},
      bindKey keys key other name = some tenantId →
        keys name = some tenantId := by
    intro keys key name hKey
    exact (bindKey_eq_some hKey).resolve_left hOther.symm
  unfold BillingState.storeSubscriptionMapping
  dsimp only
  split
  · refine ⟨?_, fun _ hKey => hKey, fun _ hKey => hKey,
      fun _ hKey => hKey⟩
    exact Function.update_of_ne hOther.symm _ _
  · refine ⟨?_, fun _ hKey => hBind hKey,
      fun _ hKey => hBind hKey, fun _ hKey => hBind hKey⟩
    exact Function.update_of_ne hOther.symm _ _

theorem untouched_bindTenantLookups
    (hOther : other ≠ tenantId)
    (s : BillingState)
    (sessionId customerId : Option String) :
    s.Untouched tenantId
      (s.bindTenantLookups other sessionId customerId) := by
  unfold BillingState.bindTenantLookups
  split
  · exact .refl tenantId s
  · refine ⟨rfl, fun _ hKey => hKey, ?_, ?_⟩
    · intro key hKey
      exact (bindKey_eq_some hKey).resolve_left hOther.symm
    · intro key hKey
      exact (bindKey_eq_some hKey).resolve_left hOther.symm

theorem untouched_bufferPendingSubscriptionUpdate
    (s : BillingState)
    (subscriptionId : String)
    (payload : PendingUpdate) :
    s.Untouched tenantId
      (s.bufferPendingSubscriptionUpdate subscriptionId
        payload) := by
  unfold BillingState.bufferPendingSubscriptionUpdate
  split
  · split
    · exact .refl tenantId s
    · exact ⟨rfl, fun _ hKey => hKey, fun _ hKey => hKey,
        fun _ hKey => hKey⟩
  · exact ⟨rfl, fun _ hKey => hKey, fun _ hKey => hKey,
      fun _ hKey => hKey⟩

/- An update that is taken out. -/
theorem untouched_popPendingSubscriptionUpdate
    (s : BillingState)
    (subscriptionId : String) :
    s.Untouched tenantId
      (s.popPendingSubscriptionUpdate subscriptionId).2 :=
  ⟨rfl, fun _ hKey => hKey, fun _ hKey => hKey,
    fun _ hKey => hKey⟩

/- A key that is cleared leads nowhere. -/
theorem of_update_none
    {keys : String → Option String}
    {key name : String}
    (hKey :
      Function.update keys key none name = some tenantId) :
    name ≠ key ∧ keys name = some tenantId := by
  rw [Function.update_apply] at hKey
  by_cases hSame : name = key
  · rw [if_pos hSame] at hKey
    cases hKey
  · rw [if_neg hSame] at hKey
    exact ⟨hSame, hKey⟩

/- A customer key that is cleared. -/
theorem untouched_clearCustomerLookup
    (s : BillingState)
    (customerId : String) :
    s.Untouched tenantId (s.clearCustomerLookup customerId) := by
  unfold BillingState.clearCustomerLookup
  split
  · exact .refl tenantId s
  · exact ⟨rfl, fun _ hKey => hKey,
      fun _ hKey => (of_update_none hKey).2,
      fun _ hKey => hKey⟩

/- A subscription key that is cleared. -/
theorem untouched_clearSubscriptionLookup
    (s : BillingState)
    (subscriptionId : String) :
    s.Untouched tenantId
      (s.clearSubscriptionLookup subscriptionId) := by
  unfold BillingState.clearSubscriptionLookup
  split
  · exact .refl tenantId s
  · exact ⟨rfl, fun _ hKey => (of_update_none hKey).2,
      fun _ hKey => hKey, fun _ hKey => hKey⟩

end StripeBilling

end RegEngine
