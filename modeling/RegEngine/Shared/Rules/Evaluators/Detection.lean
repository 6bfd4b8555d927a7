import Mathlib.Data.List.ReduceOption
import RegEngine.Library.Isoformat
import RegEngine.Library.Outcome
import RegEngine.Shared.Rules.Evaluators.Relational

/-
  Events of one lot that arrive one by one, each stored and
  then compared with those before it: a lot is flagged when two
  of its events contradict each other, in whatever order they
  came.

  Main declarations:
    * `Relational.LotEvent`
    * `Relational.ContradictsOrder`
    * `Relational.detection_iff`
-/

--------
-- Events of One Lot
--------

namespace RegEngine

namespace Relational

/- A lot of a tenant, neither of them without a name. -/
structure Lot where
  tenantId : String
  lotCode : String
  tenantId_ne : tenantId ≠ ""
  lotCode_ne : lotCode ≠ ""

/-
  An event of a lot: what is stored of it, and the time stamp
  in its `event_data`, which reads as the one that is stored.
-/
structure LotEvent (rt : Runtime) where
  eventId : String
  eventType : String
  eventTimestamp : Option Datetime
  productReference : Option String
  quantity : Option ℚ
  unitOfMeasure : Option String
  payloadTenant : Option String
  given : Option Stamp
  given_reads :
    readStamp rt given = .ok (eventTimestamp.map .aware)

namespace LotEvent

variable {rt : Runtime}

/- The event as it is evaluated. -/
def data (lot : Lot) (event : LotEvent rt) : EventData where
  eventId := event.eventId
  eventType := event.eventType
  traceabilityLotCode := lot.lotCode
  productReference := event.productReference
  eventTimestamp := event.given
  quantity := event.quantity
  unitOfMeasure := event.unitOfMeasure
  tenantId := event.payloadTenant

/- The event as it is stored. -/
def row (lot : Lot) (event : LotEvent rt) : StoredEvent where
  eventId := event.eventId
  tenantId := lot.tenantId
  traceabilityLotCode := lot.lotCode
  status := "active"
  eventType := event.eventType
  eventTimestamp := event.eventTimestamp
  productReference := event.productReference
  quantity := event.quantity
  unitOfMeasure := event.unitOfMeasure

/- The stage of the event, and the instant it took place. -/
def placed (event : LotEvent rt) : Option (Nat × Int) := do
  let stage ← Uom.stage event.eventType
  let stamp ← event.eventTimestamp
  return (stage, stamp.instant)

/- The product of the event, as products are compared. -/
def product (event : LotEvent rt) : Option String :=
  (productOf event.productReference).map (normalizeProduct rt)

end LotEvent

/- The first event is of an earlier stage, but took place later. -/
def BreaksLifecycle {rt : Runtime} (first second : LotEvent rt) :
    Prop :=
  ∃ stage ∈ first.placed, ∃ stage' ∈ second.placed,
    stage.1 < stage'.1 ∧ stage'.2 < stage.2

/- One of the events breaks the order of the lifecycle. -/
def ContradictsOrder {rt : Runtime} (first second : LotEvent rt) :
    Prop :=
  BreaksLifecycle first second ∨ BreaksLifecycle second first

/- The events name two products. -/
def NamesOther {rt : Runtime} (first second : LotEvent rt) :
    Prop :=
  ∃ product ∈ first.product, ∃ product' ∈ second.product,
    product ≠ product'

--------
-- Verdicts on One Event
--------

variable {rt : Runtime} {lot : Lot} {rule : RuleDefinition}

/- What two times say about two stages. -/
theorem paradoxOf_aware
    (currentType : String)
    (stage stage' : Nat)
    (stamp stamp' : Datetime)
    (event : RelatedEvent) :
    ∃ found,
      paradoxOf currentType stage (.aware stamp) event stage'
          (.aware stamp') = .ok found ∧
        (found.isSome = true ↔
          (stage' < stage ∧ stamp.instant < stamp'.instant) ∨
            (stage < stage' ∧
              stamp'.instant < stamp.instant)) := by
  unfold paradoxOf
  by_cases hLess : stage' < stage
  · have hNot : ¬ stage < stage' := Nat.not_lt.mpr hLess.le
    by_cases hLater : stamp.instant < stamp'.instant <;>
      simp [hLess, hNot, hLater, Moment.lt, Except.map]
  · by_cases hMore : stage < stage'
    · by_cases hEarlier : stamp'.instant < stamp.instant <;>
        simp [hLess, hMore, hEarlier, Moment.lt, Except.map]
    · simp [hLess, hMore]

/- The loop finds the events that contradict the order. -/
theorem temporalViolation_related
    {event other : LotEvent rt}
    {stage : Nat}
    {stamp : Datetime}
    (hStage : Uom.stage event.eventType = some stage)
    (hStamp : event.eventTimestamp = some stamp) :
    ∃ found,
      temporalViolation rt event.eventType stage (.aware stamp)
          (other.row lot).related = .ok found ∧
        (found.isSome = true ↔ ContradictsOrder other event) := by
  have hPlaced : event.placed = some (stage, stamp.instant) := by
    simp [LotEvent.placed, hStage, hStamp]
  cases hOther : Uom.stage other.eventType with
  | none =>
      refine ⟨none, ?_, ?_⟩
      · simp [temporalViolation, StoredEvent.related,
          LotEvent.row, hOther]
      · simp [ContradictsOrder, BreaksLifecycle, LotEvent.placed,
          hOther]
  | some stage' =>
      cases hTime : other.eventTimestamp with
      | none =>
          refine ⟨none, ?_, ?_⟩
          · simp [temporalViolation, StoredEvent.related,
              LotEvent.row, hOther, hTime, readStamp, bind,
              Except.bind, pure, Except.pure]
          · simp [ContradictsOrder, BreaksLifecycle,
              LotEvent.placed, hTime]
      | some stamp' =>
          rcases paradoxOf_aware event.eventType stage stage'
              stamp stamp' (other.row lot).related with
            ⟨found, hFound, hSome⟩
          have hOtherPlaced :
              other.placed = some (stage', stamp'.instant) := by
            simp [LotEvent.placed, hOther, hTime]
          refine ⟨found, ?_, ?_⟩
          · rw [← hFound]
            simp [temporalViolation, StoredEvent.related,
              LotEvent.row, hOther, hTime, readStamp, bind,
              Except.bind]
          · rw [hSome]
            simp [ContradictsOrder, BreaksLifecycle, hPlaced,
              hOtherPlaced]

/- A loop that collects finds something in one of its rounds. -/
theorem reduceOption_ne_nil_iff
    {α β : Type}
    {f : α → Except Raised (Option β)}
    {xs : List α}
    {found : List (Option β)}
    (hMap : xs.mapM f = .ok found) :
    found.reduceOption ≠ [] ↔
      ∃ x ∈ xs, ∃ y, f x = .ok (some y) := by
  constructor
  · intro hFound
    rcases List.exists_mem_of_ne_nil _ hFound with ⟨y, hMem⟩
    rw [List.reduceOption_mem_iff] at hMem
    rcases Outcome.mem_mapM hMap hMem with ⟨x, hX, hRound⟩
    exact ⟨x, hX, y, hRound⟩
  · rintro ⟨x, hX, y, hRound⟩
    rcases Outcome.exists_of_mapM_eq_ok hMap hX with
      ⟨z, hZ, hOther⟩
    rw [hRound] at hOther
    cases hOther
    exact List.ne_nil_of_mem (List.reduceOption_mem_iff.mpr hZ)

theorem temporalVerdict_fail_iff
    (eventData : EventData)
    (eventsChecked : Nat)
    (violations : List Paradox) :
    (temporalVerdict rule eventData eventsChecked
        violations).result = .fail ↔ violations ≠ [] := by
  cases violations <;>
    simp [temporalVerdict, passed, failed, resultOf]

variable {event : LotEvent rt} {others : List (LotEvent rt)}
variable {related : List RelatedEvent}
variable {relatedEvents : Option (List RelatedEvent)}
variable {session : List StoredEvent}

/- The comparison of times fails on a contradiction. -/
theorem failed_compareTimes_iff
    (hRelated : ∀ other,
      other ∈ related ↔
        ∃ x ∈ others, (x.row lot).related = other) :
    Failed (compareTimes rt (event.data lot) rule related) ↔
      ∃ x ∈ others, ContradictsOrder x event := by
  have hReads : readStamp rt (event.data lot).eventTimestamp =
      .ok (event.eventTimestamp.map .aware) := event.given_reads
  cases hStamp : event.eventTimestamp with
  | none =>
      rw [hStamp] at hReads
      simp [compareTimes, hReads, bind, Except.bind, pure,
        Except.pure, Failed, skipped, resultOf,
        ContradictsOrder, BreaksLifecycle, LotEvent.placed,
        hStamp]
  | some stamp =>
      rw [hStamp] at hReads
      cases hStage : Uom.stage event.eventType with
      | none =>
          have hData :
              Uom.stage (event.data lot).eventType = none :=
            hStage
          simp [compareTimes, hReads, hData, bind, Except.bind,
            pure, Except.pure, Failed, skipped, resultOf,
            ContradictsOrder, BreaksLifecycle, LotEvent.placed,
            hStage]
      | some stage =>
          have hData :
              Uom.stage (event.data lot).eventType = some stage :=
            hStage
          have hEach : ∀ x : LotEvent rt,
              ∃ found,
                temporalViolation rt event.eventType stage
                    (.aware stamp) (x.row lot).related =
                  .ok found ∧
                (found.isSome = true ↔
                  ContradictsOrder x event) :=
            fun x => temporalViolation_related hStage hStamp
          have hReturns : ∀ other ∈ related, ∃ found,
              temporalViolation rt event.eventType stage
                (.aware stamp) other = .ok found := by
            intro other hOther
            rcases (hRelated other).mp hOther with ⟨x, -, rfl⟩
            rcases hEach x with ⟨found, hFound, -⟩
            exact ⟨found, hFound⟩
          rcases Outcome.exists_mapM_eq_ok hReturns with
            ⟨found, hFound⟩
          have hResult :
              compareTimes rt (event.data lot) rule related =
                .ok (temporalVerdict rule (event.data lot)
                  related.length found.reduceOption) := by
            simp only [compareTimes, hReads, hData, bind,
              Except.bind, Option.map_some]
            rw [show (event.data lot).eventType =
              event.eventType from rfl, hFound]
            rfl
          rw [hResult]
          change (temporalVerdict _ _ _ _).result = .fail ↔ _
          rw [temporalVerdict_fail_iff,
            reduceOption_ne_nil_iff hFound]
          constructor
          · rintro ⟨other, hOther, paradox, hRound⟩
            rcases (hRelated other).mp hOther with ⟨x, hX, rfl⟩
            rcases hEach x with ⟨result, hResult, hSome⟩
            rw [hRound] at hResult
            cases hResult
            exact ⟨x, hX, hSome.mp rfl⟩
          · rintro ⟨x, hX, hContradicts⟩
            rcases hEach x with ⟨result, hResult, hSome⟩
            rcases Option.isSome_iff_exists.mp
              (hSome.mpr hContradicts) with ⟨paradox, rfl⟩
            exact ⟨_, (hRelated _).mpr ⟨x, hX, rfl⟩, paradox,
              hResult⟩

theorem identityVerdict_fail_iff
    (lotCode product : String)
    (eventsChecked : Nat)
    (mismatches : List Mismatch) :
    (identityVerdict rule lotCode product eventsChecked
        mismatches).result = .fail ↔ mismatches ≠ [] := by
  cases mismatches <;>
    simp [identityVerdict, passed, failed, resultOf]

/- The loop finds the events that name another product. -/
theorem isSome_identityMismatch
    {event other : LotEvent rt}
    {product : String}
    (hProduct :
      event.product = some (normalizeProduct rt product)) :
    (identityMismatch rt product
        (other.row lot).related).isSome = true ↔
      NamesOther other event := by
  have hReference :
      ((other.row lot).related).productReference =
        other.productReference := rfl
  cases hOther : productOf other.productReference with
  | none =>
      simp [identityMismatch, hReference, hOther, NamesOther,
        LotEvent.product]
  | some otherProduct =>
      have hNormal :
          other.product =
            some (normalizeProduct rt otherProduct) := by
        rw [LotEvent.product, hOther]
        rfl
      simp only [identityMismatch, hReference, hOther,
        NamesOther, hNormal, hProduct]
      split <;> simp_all

/- A lot without other events has no partner in it. -/
theorem not_exists_of_isEmpty
    (hRelated : ∀ other,
      other ∈ related ↔
        ∃ x ∈ others, (x.row lot).related = other)
    (hEmpty : related.isEmpty = true)
    (P : LotEvent rt → LotEvent rt → Prop) :
    ¬ ∃ x ∈ others, P x event := by
  rintro ⟨x, hX, -⟩
  have hMem := (hRelated _).mpr ⟨x, hX, rfl⟩
  rw [List.isEmpty_iff.mp hEmpty] at hMem
  exact List.not_mem_nil hMem

/- `evaluate_temporal_order` fails on a contradiction. -/
theorem failed_temporalOrder_iff
    (hRelated : ∀ other,
      other ∈ relatedTo (event.data lot) session lot.tenantId
          relatedEvents ↔
        ∃ x ∈ others, (x.row lot).related = other) :
    Failed (evaluateTemporalOrder rt (event.data lot) rule
        session (some lot.tenantId) relatedEvents) ↔
      ∃ x ∈ others, ContradictsOrder x event := by
  have hCode :
      ((event.data lot).traceabilityLotCode != "") = true :=
    bne_iff_ne.mpr lot.lotCode_ne
  have hTenant :
      resolveTenant (some lot.tenantId) = some lot.tenantId :=
    if_neg lot.tenantId_ne
  simp only [evaluateTemporalOrder, hCode, hTenant]
  split
  · rename_i hEmpty
    simp only [not_exists_of_isEmpty hRelated hEmpty, iff_false]
    simp [Failed, passed, resultOf]
  · exact failed_compareTimes_iff hRelated

/- `evaluate_identity_consistency` fails on another product. -/
theorem failed_identity_iff
    (hRelated : ∀ other,
      other ∈ relatedTo (event.data lot) session lot.tenantId
          relatedEvents ↔
        ∃ x ∈ others, (x.row lot).related = other) :
    Failed (evaluateIdentityConsistency rt (event.data lot)
        rule session (some lot.tenantId) relatedEvents) ↔
      ∃ x ∈ others, NamesOther x event := by
  have hCode :
      ((event.data lot).traceabilityLotCode != "") = true :=
    bne_iff_ne.mpr lot.lotCode_ne
  have hTenant :
      resolveTenant (some lot.tenantId) = some lot.tenantId :=
    if_neg lot.tenantId_ne
  cases hProduct :
      productOf (event.data lot).productReference with
  | none =>
      have hNone : event.product = none := by
        rw [LotEvent.product,
          show productOf event.productReference = none from
            hProduct]
        rfl
      simp [evaluateIdentityConsistency, hProduct, Failed,
        skipped, resultOf, NamesOther, hNone]
  | some product =>
      have hSome :
          event.product = some (normalizeProduct rt product) := by
        rw [LotEvent.product,
          show productOf event.productReference = some product
            from hProduct]
        rfl
      simp only [evaluateIdentityConsistency, hProduct, hCode,
        hTenant]
      split
      · rename_i hEmpty
        simp only [not_exists_of_isEmpty hRelated hEmpty, iff_false]
        simp [Failed, passed, resultOf]
      · change (identityVerdict _ _ _ _ _).result = .fail ↔ _
        rw [identityVerdict_fail_iff]
        constructor
        · intro hFound
          rcases List.exists_mem_of_ne_nil _ hFound with
            ⟨mismatch, hMem⟩
          rcases List.mem_filterMap.mp hMem with
            ⟨other, hOther, hRound⟩
          rcases (hRelated other).mp hOther with ⟨x, hX, rfl⟩
          exact ⟨x, hX, (isSome_identityMismatch hSome).mp
            (by rw [hRound]; rfl)⟩
        · rintro ⟨x, hX, hNames⟩
          rcases Option.isSome_iff_exists.mp
            ((isSome_identityMismatch hSome).mpr hNames) with
            ⟨mismatch, hRound⟩
          exact List.ne_nil_of_mem (List.mem_filterMap.mpr
            ⟨_, (hRelated _).mpr ⟨x, hX, rfl⟩, hRound⟩)

--------
-- Events That Arrive
--------

/- An evaluator, on an event and the rows of the table. -/
abbrev Evaluator :=
  EventData → List StoredEvent →
    Except Raised RuleEvaluationResult

/- An event is stored, and then evaluated. -/
def judge
    (evaluate : Evaluator)
    (lot : Lot)
    (table : List StoredEvent)
    (before : List (LotEvent rt))
    (event : LotEvent rt) :
    Except Raised RuleEvaluationResult :=
  evaluate (event.data lot)
    (table ++ (before ++ [event]).map (LotEvent.row lot))

/- The verdicts on the events of a lot, as they arrive. -/
def verdictsOn
    (evaluate : Evaluator)
    (lot : Lot)
    (table : List StoredEvent)
    (arrived : List (LotEvent rt)) :
    List (Except Raised RuleEvaluationResult) :=
  Arrivals.verdicts (judge evaluate lot table) [] arrived

/- The table has no active row of the lot. -/
def Fresh (lot : Lot) (table : List StoredEvent) : Prop :=
  ∀ row ∈ table,
    row.isRelated lot.lotCode lot.tenantId none = false

/- An event that is new is compared with those before it. -/
theorem mem_relatedTo_iff
    {table : List StoredEvent}
    {earlier : List (LotEvent rt)}
    (hFresh : Fresh lot table)
    (hNew : ∀ x ∈ earlier, x.eventId ≠ event.eventId)
    (other : RelatedEvent) :
    other ∈ relatedTo (event.data lot)
        (table ++ (earlier ++ [event]).map (LotEvent.row lot))
        lot.tenantId none ↔
      ∃ x ∈ earlier, (x.row lot).related = other := by
  have hOther : ∀ x : LotEvent rt,
      (x.row lot).isRelated lot.lotCode lot.tenantId
          (some event.eventId) = true ↔
        x.eventId ≠ event.eventId := by
    intro x
    rw [ne_comm]
    simp [StoredEvent.isRelated, LotEvent.row]
  simp only [relatedTo]
  rw [mem_fetchRelatedEvents]
  constructor
  · rintro ⟨row, hRow, hRelated, rfl⟩
    rcases List.mem_append.mp hRow with hTable | hArrived
    · have hNone := hFresh row hTable
      simp only [StoredEvent.isRelated, LotEvent.data,
        Bool.and_eq_true] at hRelated
      simp [StoredEvent.isRelated, hRelated.1] at hNone
    · rcases List.mem_map.mp hArrived with ⟨x, hX, rfl⟩
      have hNe := (hOther x).mp hRelated
      rcases List.mem_append.mp hX with hEarlier | hSelf
      · exact ⟨x, hEarlier, rfl⟩
      · rw [List.mem_singleton.mp hSelf] at hNe
        exact absurd rfl hNe
  · rintro ⟨x, hX, rfl⟩
    refine ⟨x.row lot, ?_, (hOther x).mpr (hNew x hX), rfl⟩
    apply List.mem_append_right
    exact List.mem_map_of_mem (List.mem_append_left _ hX)

/- Events with ids of their own are each new on arrival. -/
theorem new_of_nodup
    {arrived earlier later : List (LotEvent rt)}
    (hNodup : (arrived.map LotEvent.eventId).Nodup)
    (hSplit : arrived = earlier ++ event :: later) :
    ∀ x ∈ earlier, x.eventId ≠ event.eventId := by
  rw [hSplit, List.map_append, List.map_cons] at hNodup
  intro x hX hEq
  exact List.disjoint_of_nodup_append hNodup
    (List.mem_map_of_mem hX) (hEq ▸ List.mem_cons_self)

/- A contradiction of the order has no direction. -/
theorem ContradictsOrder.symm
    {first second : LotEvent rt}
    (hContradicts : ContradictsOrder first second) :
    ContradictsOrder second first :=
  Or.symm hContradicts

/- No event contradicts itself. -/
theorem not_contradictsOrder_self
    (event : LotEvent rt) :
    ¬ ContradictsOrder event event := by
  rintro (⟨s, hS, t, hT, hLess, -⟩ | ⟨s, hS, t, hT, hLess, -⟩)
  all_goals
    rw [Option.mem_unique hS hT] at hLess
    exact Nat.lt_irrefl _ hLess

/- Two products are two in either order. -/
theorem NamesOther.symm
    {first second : LotEvent rt}
    (hNames : NamesOther first second) :
    NamesOther second first := by
  rcases hNames with ⟨p, hP, q, hQ, hNe⟩
  exact ⟨q, hQ, p, hP, hNe.symm⟩

/- No event names another product than itself. -/
theorem not_namesOther_self
    (event : LotEvent rt) :
    ¬ NamesOther event event := by
  rintro ⟨p, hP, q, hQ, hNe⟩
  exact hNe (Option.mem_unique hP hQ)

/-
  However the events of a lot arrive, each compared with those
  before it, one fails the check of the chronology when two of
  them contradict the lifecycle, and one fails the check of the
  product when two of them name two products.
-/
theorem detection_iff
    {table : List StoredEvent}
    {events arrived : List (LotEvent rt)}
    (hFresh : Fresh lot table)
    (hNodup : (events.map LotEvent.eventId).Nodup)
    (hPerm : arrived.Perm events) :
    ((∃ verdict ∈
        verdictsOn
          (fun data session =>
            evaluateTemporalOrder rt data rule session
              (some lot.tenantId) none)
          lot table arrived,
        Failed verdict) ↔
      ∃ x ∈ events, ∃ y ∈ events, ContradictsOrder x y) ∧
    ((∃ verdict ∈
        verdictsOn
          (fun data session =>
            evaluateIdentityConsistency rt data rule session
              (some lot.tenantId) none)
          lot table arrived,
        Failed verdict) ↔
      ∃ x ∈ events, ∃ y ∈ events, NamesOther x y) := by
  have hArrived : (arrived.map LotEvent.eventId).Nodup :=
    (hPerm.map _).nodup_iff.mpr hNodup
  have hSame : ∀ R : LotEvent rt → LotEvent rt → Prop,
      (∃ x ∈ arrived, ∃ y ∈ arrived, R x y) ↔
        ∃ x ∈ events, ∃ y ∈ events, R x y := by
    intro R
    constructor
    · rintro ⟨x, hX, y, hY, hPair⟩
      exact ⟨x, hPerm.subset hX, y, hPerm.subset hY, hPair⟩
    · rintro ⟨x, hX, y, hY, hPair⟩
      exact ⟨x, hPerm.symm.subset hX, y, hPerm.symm.subset hY,
        hPair⟩
  constructor
  · rw [← hSame]
    apply Arrivals.detects_iff
    · intro earlier event later hSplit
      exact failed_temporalOrder_iff
        (mem_relatedTo_iff hFresh
          (new_of_nodup hArrived hSplit))
    · exact fun x y => ContradictsOrder.symm
    · exact not_contradictsOrder_self
  · rw [← hSame]
    apply Arrivals.detects_iff
    · intro earlier event later hSplit
      exact failed_identity_iff
        (mem_relatedTo_iff hFresh
          (new_of_nodup hArrived hSplit))
    · exact fun x y => NamesOther.symm
    · exact not_namesOther_self

/- A lot, and two days. -/
def paradoxLot : Lot where
  tenantId := "00000000-0000-0000-0000-0000000000aa"
  lotCode := "LOT-1"
  tenantId_ne := by decide
  lotCode_ne := by decide

def firstDay : Datetime :=
  ⟨⟨2026, 1, 1⟩, 0, 0, Datetime.isValid_first⟩

def secondDay : Datetime :=
  ⟨⟨2026, 1, 2⟩, 0, 0, Datetime.isValid_second⟩

/- ISO texts are read, and letters lowered. -/
def isoRuntime : Runtime where
  fromisoformat text :=
    match Datetime.ofIsoformat text with
    | some stamp => .ok (.aware stamp)
    | none =>
        .error ⟨"ValueError",
          "Invalid isoformat string: '" ++ text ++ "'"⟩
  lower := Python.lower

def chronologyRule : RuleDefinition where
  ruleId := "33333333-3333-3333-3333-333333333333"
  ruleVersion := 1
  title := "Chronology"
  description := none
  severity := .critical
  category := "temporal_ordering"
  applicabilityConditions := []
  citationReference := none
  evaluationLogic := [("type", .str "temporal_order")]
  failureReasonTemplate := ""
  remediationSuggestion := none

/- A shipment on the first day, and a harvest on the second. -/
def paradoxEvents : List (LotEvent isoRuntime) :=
  [{ eventId := "11111111-1111-1111-1111-111111111111"
     eventType := "shipping"
     eventTimestamp := some firstDay
     productReference := some "Romaine"
     quantity := some 10
     unitOfMeasure := some "lbs"
     payloadTenant := none
     given := some (.moment (.aware firstDay))
     given_reads := rfl },
   { eventId := "22222222-2222-2222-2222-222222222222"
     eventType := "harvesting"
     eventTimestamp := some secondDay
     productReference := some "Iceberg"
     quantity := some 10
     unitOfMeasure := some "lbs"
     payloadTenant := none
     given := some (.moment (.aware secondDay))
     given_reads := rfl }]

/- The harvest arrives first, into an empty table. -/
theorem detection_iff_paradox :
    ((∃ verdict ∈
        verdictsOn
          (fun data session =>
            evaluateTemporalOrder isoRuntime data
              chronologyRule session
              (some paradoxLot.tenantId) none)
          paradoxLot [] paradoxEvents.reverse,
        Failed verdict) ↔
      ∃ x ∈ paradoxEvents, ∃ y ∈ paradoxEvents,
        ContradictsOrder x y) ∧
    ((∃ verdict ∈
        verdictsOn
          (fun data session =>
            evaluateIdentityConsistency isoRuntime data
              chronologyRule session
              (some paradoxLot.tenantId) none)
          paradoxLot [] paradoxEvents.reverse,
        Failed verdict) ↔
      ∃ x ∈ paradoxEvents, ∃ y ∈ paradoxEvents,
        NamesOther x y) := by
  apply detection_iff
  · intro row hRow
    exact absurd hRow List.not_mem_nil
  · decide
  · exact List.reverse_perm _

end Relational

end RegEngine
