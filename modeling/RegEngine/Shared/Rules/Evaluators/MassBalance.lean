import Mathlib.Algebra.Order.Ring.Rat
import Mathlib.Data.List.Dedup
import Mathlib.Data.List.ReduceOption
import Mathlib.Tactic.Ring
import RegEngine.Shared.Rules.Evaluators.Relational

/-
  The mass balance of a lot: what leaves it against what came
  in, in the one unit of its events or, when they have several,
  in pounds (`shared/rules/evaluators/relational.py`). The
  quantities are exact numbers.

  Main declarations:
    * `Relational.evaluateMassBalance`
    * `Relational.poundVerdict`
    * `Relational.massBalance_unitInvariant`
-/

--------
-- Totals
--------

namespace RegEngine

namespace Relational

section

/- The parameters of the rule, with their defaults. -/
structure MassParams where
  tolerancePercent : ℚ := 1
  containerWeights : List (String × ℚ) := []

/- A quantity that an event gives, in its unit. -/
structure Entry where
  quantity : ℚ
  uom : Option String
  eventType : String

/- `input_types`. -/
def inputTypes : List String :=
  ["harvesting", "receiving", "first_land_based_receiving"]

/- `origin_types`. -/
def originTypes : List String :=
  ["initial_packing", "transformation"]

/- `output_types`. -/
def outputTypes : List String :=
  ["shipping"]

/- The sums of the loop over the entries. -/
structure Totals where
  totalInput : ℚ
  originInput : ℚ
  totalOutput : ℚ

namespace Totals

/- The sums before the loop. -/
def zero : Totals :=
  ⟨0, 0, 0⟩

/- One round of the loop. -/
def add (totals : Totals) (entry : ℚ × String) : Totals :=
  if inputTypes.contains entry.2 then
    { totals with totalInput := totals.totalInput + entry.1 }
  else if originTypes.contains entry.2 then
    { totals with originInput := totals.originInput + entry.1 }
  else if outputTypes.contains entry.2 then
    { totals with totalOutput := totals.totalOutput + entry.1 }
  else
    totals

/- The origin stands in for an input that is missing. -/
def settle (totals : Totals) : Totals :=
  if totals.totalInput = 0 then
    { totals with totalInput := totals.originInput }
  else
    totals

/- The sums after the loop. -/
def ofEntries (entries : List (ℚ × String)) : Totals :=
  (entries.foldl add zero).settle

end Totals

/- The unit of an entry, unless it is empty. -/
def Entry.unit (entry : Entry) : Option String :=
  entry.uom.filter (fun uom => uom != "")

/- `units_seen`, each once. -/
def unitsSeen (rt : Runtime) (entries : List Entry) :
    List String :=
  (entries.filterMap (fun entry =>
    entry.unit.map (Uom.bareUom rt.lower))).dedup

/- The entries in pounds, when every one of them converts. -/
def converted
    (rt : Runtime)
    (params : MassParams)
    (entries : List Entry) :
    Option (List (ℚ × String)) :=
  entries.mapM (fun entry => do
    let uom ← entry.unit
    let mass ←
      Uom.normalizeToMass rt.lower entry.quantity uom
        params.containerWeights
    return (mass, entry.eventType))

/- What is summed, and whether it was converted to pounds. -/
def measured
    (rt : Runtime)
    (params : MassParams)
    (entries : List Entry) :
    List (ℚ × String) × Bool :=
  match
      if 1 < (unitsSeen rt entries).length then
        converted rt params entries
      else
        none with
  | some masses => (masses, true)
  | none =>
      (entries.map (fun entry =>
        (entry.quantity, entry.eventType)), false)

/- The verdict on two sums that can be compared. -/
def balanceVerdict (tolerancePercent : ℚ) (totals : Totals) :
    RuleResult :=
  if totals.totalInput = 0 ∧ 0 < totals.totalOutput then
    .warn
  else if
      totals.totalInput * (1 + tolerancePercent / 100) <
        totals.totalOutput then
    .fail
  else
    .pass

--------
-- The Evaluator
--------

open Python (Dict)

/-
  How numbers are printed: as the nearest floating-point
  number, and with two digits after the point.
-/
structure Numerals where
  float : ℚ → Python.Float
  fixed : ℚ → String

def Numerals.text (num : Numerals) (x : ℚ) : String :=
  (num.float x).repr

/- What `evaluate_mass_balance` found on a lot. -/
structure Balance where
  lotCode : String
  totals : Totals
  units : List String
  eventsChecked : Nat
  uomConverted : Bool

def Balance.evidence
    (balance : Balance)
    (num : Numerals)
    (params : MassParams) : Dict :=
  [("tlc", .str balance.lotCode),
    ("total_input", .float (num.float balance.totals.totalInput)),
    ("total_output",
      .float (num.float balance.totals.totalOutput)),
    ("tolerance_percent",
      .float (num.float params.tolerancePercent)),
    ("units_seen", .list (balance.units.map .str)),
    ("events_checked", .int balance.eventsChecked),
    ("uom_converted", .bool balance.uomConverted)]

/- `', '.join(sorted(units_seen))`. -/
def Balance.unitsText (balance : Balance) : String :=
  Python.join ", " (balance.units.mergeSort (· ≤ ·))

/- Why units that differ could not be compared. -/
def incomparableText
    (rt : Runtime)
    (num : Numerals)
    (balance : Balance) : String :=
  if balance.units.any
      (fun unit => !Uom.isMassUom rt.lower (some unit)) then
    "Mass balance check not comparable for TLC '" ++
      balance.lotCode ++ "': " ++
      "events mix mass and container/count units (" ++
      balance.unitsText ++ "). " ++
      "Container UOMs (e.g. case/box/bin) are not convertible " ++
      "to mass without a tenant/product container-weight " ++
      "mapping, so no pass/fail verdict is rendered."
  else
    "Mass balance check inconclusive for TLC '" ++
      balance.lotCode ++ "': " ++
      "mixed units of measure detected (" ++
      balance.unitsText ++ ") " ++
      "and not all could be converted. " ++
      "Cannot reliably compare input (" ++
      num.text balance.totals.totalInput ++ ") vs output (" ++
      num.text balance.totals.totalOutput ++ ")."

/- The text of an output without an input. -/
def noInputText (num : Numerals) (balance : Balance) : String :=
  "Mass balance check for TLC '" ++ balance.lotCode ++ "': " ++
    "output quantity (" ++
    num.text balance.totals.totalOutput ++
    ") recorded but no input events found. " ++
    "Input events (harvesting/receiving) may not yet be " ++
    "recorded."

/- The text of an output over its input. -/
def excessText
    (num : Numerals)
    (params : MassParams)
    (rule : RuleDefinition)
    (balance : Balance) : String :=
  "Mass balance violation for TLC '" ++ balance.lotCode ++
    "': total output (" ++
    num.text balance.totals.totalOutput ++
    ") exceeds total input (" ++
    num.text balance.totals.totalInput ++
    ") by more than " ++ num.text params.tolerancePercent ++
    "% tolerance (max allowed: " ++
    num.fixed (balance.totals.totalInput *
      (1 + params.tolerancePercent / 100)) ++ "). (" ++
    Python.orElse rule.citationReference "21 CFR §1.1310" ++ ")."

/- A check that has something to say but no verdict. -/
def warned
    (rule : RuleDefinition)
    (whyFailed : String)
    (evidence : Dict) :
    RuleEvaluationResult :=
  { resultOf rule .warn with
    whyFailed := some whyFailed
    evidenceFieldsInspected := [evidence]
    citationReference := rule.citationReference }

def balanceResult
    (rt : Runtime)
    (num : Numerals)
    (params : MassParams)
    (rule : RuleDefinition)
    (balance : Balance) :
    RuleEvaluationResult :=
  let evidence := balance.evidence num params
  if 1 < balance.units.length ∧ balance.uomConverted = false then
    warned rule (incomparableText rt num balance) evidence
  else
    match
        balanceVerdict params.tolerancePercent balance.totals with
    | .warn => warned rule (noInputText num balance) evidence
    | .fail =>
        failed rule (excessText num params rule balance)
          [evidence]
    | _ => passed rule evidence

/- The entries of an event and of the others of its lot. -/
def allEntries
    (eventData : EventData)
    (quantity : ℚ)
    (related : List RelatedEvent) :
    List Entry :=
  ⟨quantity, eventData.unitOfMeasure, eventData.eventType⟩ ::
    related.filterMap (fun event =>
      event.quantity.map (fun quantity =>
        ⟨quantity, event.unitOfMeasure, event.eventType⟩))

/- `evaluate_mass_balance`. -/
def evaluateMassBalance
    (rt : Runtime)
    (num : Numerals)
    (eventData : EventData)
    (params : MassParams)
    (rule : RuleDefinition)
    (session : List StoredEvent)
    (tenantId : Option String)
    (relatedEvents : Option (List RelatedEvent)) :
    RuleEvaluationResult :=
  match eventData.traceabilityLotCode != "",
      resolveTenant tenantId, eventData.quantity with
  | true, some authTid, some quantity =>
      let related :=
        relatedTo eventData session authTid relatedEvents
      if related.isEmpty then
        passed rule (noRelated eventData.traceabilityLotCode)
      else
        let entries := allEntries eventData quantity related
        let sums := measured rt params entries
        balanceResult rt num params rule
          { lotCode := eventData.traceabilityLotCode
            totals := Totals.ofEntries sums.1
            units := unitsSeen rt entries
            eventsChecked := related.length + 1
            uomConverted := sums.2 }
  | _, _, _ =>
      skipped rule
        ("Missing TLC, authenticated tenant context, or " ++
          "quantity for mass balance check")

end

--------
-- Scaled Totals
--------

namespace Totals

/- The sums in another unit. -/
def scale (factor : ℚ) (totals : Totals) : Totals where
  totalInput := totals.totalInput * factor
  originInput := totals.originInput * factor
  totalOutput := totals.totalOutput * factor

/- An entry adds to the scaled sums what it adds, scaled. -/
theorem add_scale
    (factor : ℚ)
    (totals : Totals)
    (entry : ℚ × String) :
    (totals.scale factor).add (entry.1 * factor, entry.2) =
      (totals.add entry).scale factor := by
  unfold add
  dsimp only
  split
  · simp [scale, add_mul]
  · split
    · simp [scale, add_mul]
    · split
      · simp [scale, add_mul]
      · rfl

/- The loop over scaled entries gives scaled sums. -/
theorem foldl_scale
    (factor : ℚ)
    (totals : Totals)
    (entries : List (ℚ × String)) :
    (entries.map (fun entry =>
        (entry.1 * factor, entry.2))).foldl add
          (totals.scale factor) =
      (entries.foldl add totals).scale factor := by
  induction entries generalizing totals with
  | nil => rfl
  | cons entry rest ih =>
      rw [List.map_cons, List.foldl_cons, add_scale, ih,
        List.foldl_cons]

variable {factor : ℚ}

/- The origin stands in at every scale. -/
theorem settle_scale
    (hPos : 0 < factor)
    (totals : Totals) :
    (totals.scale factor).settle = totals.settle.scale factor := by
  have hZero :
      totals.totalInput * factor = 0 ↔ totals.totalInput = 0 := by
    simp [hPos.ne']
  by_cases hInput : totals.totalInput = 0
  · simp [settle, scale, hInput]
  · simp [settle, scale, hInput, hZero]

/- The sums of scaled entries are the scaled sums. -/
theorem ofEntries_scale
    (hPos : 0 < factor)
    (entries : List (ℚ × String)) :
    ofEntries (entries.map (fun entry =>
        (entry.1 * factor, entry.2))) =
      (ofEntries entries).scale factor := by
  have hZero : zero = zero.scale factor := by
    simp [zero, scale]
  rw [ofEntries, hZero, foldl_scale, settle_scale hPos]
  rfl

end Totals

theorem balanceVerdict_scale
    {factor : ℚ}
    (hPos : 0 < factor)
    (tolerancePercent : ℚ)
    (totals : Totals) :
    balanceVerdict tolerancePercent (totals.scale factor) =
      balanceVerdict tolerancePercent totals := by
  have hZero :
      totals.totalInput * factor = 0 ↔ totals.totalInput = 0 := by
    simp [hPos.ne']
  have hOutput :
      0 < totals.totalOutput * factor ↔
        0 < totals.totalOutput :=
    mul_pos_iff_of_pos_right hPos
  have hAllowed :
      totals.totalInput * factor * (1 + tolerancePercent / 100) <
          totals.totalOutput * factor ↔
        totals.totalInput * (1 + tolerancePercent / 100) <
          totals.totalOutput := by
    rw [mul_right_comm]
    exact mul_lt_mul_iff_left₀ hPos
  simp only [balanceVerdict, Totals.scale, hZero, hOutput,
    hAllowed]

--------
-- Pounds
--------

variable {rt : Runtime} {num : Numerals} {params : MassParams}
variable {rule : RuleDefinition}

/- The mass of an entry in pounds, with its event type. -/
def massOf (rt : Runtime) (entry : Entry) : ℚ × String :=
  (entry.quantity *
      (Uom.massFactor rt.lower (entry.uom.getD "")).getD 0,
    entry.eventType)

/- The entry is in a true unit of mass. -/
def InMass (rt : Runtime) (entry : Entry) : Prop :=
  Uom.isMassUom rt.lower entry.uom = true

/- A true unit of mass is a unit that makes some pounds. -/
theorem InMass.exists_factor
    {entry : Entry}
    (hMass : InMass rt entry) :
    ∃ uom factor,
      entry.uom = some uom ∧ entry.unit = some uom ∧
        Uom.massFactor rt.lower uom = some factor := by
  cases hUom : entry.uom with
  | none =>
      rw [InMass, hUom] at hMass
      exact Bool.noConfusion hMass
  | some uom =>
      rw [InMass, hUom] at hMass
      simp only [Uom.isMassUom, Bool.and_eq_true] at hMass
      rcases Option.isSome_iff_exists.mp hMass.2 with
        ⟨factor, hFactor⟩
      refine ⟨uom, factor, rfl, ?_, hFactor⟩
      simp [Entry.unit, hUom, bne_iff_ne.mp hMass.1]

/- Entries in mass all convert, each to its pounds. -/
theorem converted_eq
    {entries : List Entry}
    (hMass : ∀ entry ∈ entries, InMass rt entry) :
    converted rt params entries =
      some (entries.map (massOf rt)) := by
  induction entries with
  | nil => rfl
  | cons entry rest ih =>
      have hRest := ih (fun other hOther =>
        hMass other (List.mem_cons_of_mem _ hOther))
      rcases (hMass entry List.mem_cons_self).exists_factor with
        ⟨uom, factor, hUom, hUnit, hFactor⟩
      unfold converted at hRest ⊢
      rw [List.mapM_cons, hRest]
      simp [hUnit, Uom.normalizeToMass_eq_some hFactor, massOf,
        hUom, hFactor]

/- A list of one member at most has no two members. -/
theorem eq_of_length_le_one
    {α : Type}
    {xs : List α}
    {x y : α}
    (hOne : xs.length ≤ 1)
    (hX : x ∈ xs)
    (hY : y ∈ xs) :
    x = y := by
  rcases xs with _ | ⟨z, _ | ⟨w, rest⟩⟩
  · exact absurd hX List.not_mem_nil
  · rw [List.mem_singleton.mp hX, List.mem_singleton.mp hY]
  · simp at hOne

/- Entries in one unit of mass are scaled to pounds. -/
theorem exists_scale
    {entries : List Entry}
    (hMass : ∀ entry ∈ entries, InMass rt entry)
    (hOne : (unitsSeen rt entries).length ≤ 1) :
    ∃ factor : ℚ, 0 < factor ∧
      entries.map (massOf rt) =
        (entries.map (fun entry =>
          (entry.quantity, entry.eventType))).map
            (fun entry => (entry.1 * factor, entry.2)) := by
  cases entries with
  | nil => exact ⟨1, one_pos, rfl⟩
  | cons first rest =>
      rcases (hMass first List.mem_cons_self).exists_factor with
        ⟨uom, factor, hUom, hUnit, hFactor⟩
      refine ⟨factor, Uom.massFactor_pos hFactor, ?_⟩
      rw [List.map_map]
      apply List.map_congr_left
      intro entry hEntry
      rcases (hMass entry hEntry).exists_factor with
        ⟨uom', factor', hUom', hUnit', hFactor'⟩
      have hSeen : ∀ other ∈ first :: rest, ∀ unit,
          other.unit = some unit →
            Uom.bareUom rt.lower unit ∈
              unitsSeen rt (first :: rest) := by
        intro other hOther unit hOtherUnit
        rw [unitsSeen, List.mem_dedup, List.mem_filterMap]
        exact ⟨other, hOther, by rw [hOtherUnit]; rfl⟩
      have hBare :
          Uom.bareUom rt.lower uom' = Uom.bareUom rt.lower uom :=
        eq_of_length_le_one hOne
          (hSeen entry hEntry uom' hUnit')
          (hSeen first List.mem_cons_self uom hUnit)
      have hSame : factor' = factor := by
        rw [Uom.massFactor, Uom.uomKey] at hFactor hFactor'
        rw [hBare, hFactor] at hFactor'
        exact (Option.some.inj hFactor').symm
      simp [massOf, hUom', hFactor', hSame]

/-
  On either path, entries in mass are judged by their pounds.
-/
theorem balanceVerdict_measured
    {entries : List Entry}
    (hMass : ∀ entry ∈ entries, InMass rt entry) :
    balanceVerdict params.tolerancePercent
        (Totals.ofEntries (measured rt params entries).1) =
      balanceVerdict params.tolerancePercent
        (Totals.ofEntries (entries.map (massOf rt))) := by
  by_cases hMany : 1 < (unitsSeen rt entries).length
  · rw [measured, if_pos hMany, converted_eq hMass]
  · rcases exists_scale hMass (Nat.not_lt.mp hMany) with
      ⟨factor, hPos, hScaled⟩
    rw [measured, if_neg hMany, hScaled,
      Totals.ofEntries_scale hPos, balanceVerdict_scale hPos]

/- Entries in mass are compared: on one unit, or converted. -/
theorem comparable_of_inMass
    {entries : List Entry}
    (hMass : ∀ entry ∈ entries, InMass rt entry) :
    ¬ (1 < (unitsSeen rt entries).length ∧
      (measured rt params entries).2 = false) := by
  rintro ⟨hMany, hNot⟩
  rw [measured, if_pos hMany, converted_eq hMass] at hNot
  exact Bool.noConfusion hNot

/- The result on sums that are compared is their verdict. -/
theorem balanceResult_result
    {balance : Balance}
    (hCompared :
      ¬ (1 < balance.units.length ∧
        balance.uomConverted = false)) :
    (balanceResult rt num params rule balance).result =
      balanceVerdict params.tolerancePercent balance.totals := by
  have hCases :
      balanceVerdict params.tolerancePercent balance.totals =
          .warn ∨
        balanceVerdict params.tolerancePercent balance.totals =
          .fail ∨
        balanceVerdict params.tolerancePercent balance.totals =
          .pass := by
    unfold balanceVerdict
    split
    · exact Or.inl rfl
    · split
      · exact Or.inr (Or.inl rfl)
      · exact Or.inr (Or.inr rfl)
  simp only [balanceResult, if_neg hCompared]
  rcases hCases with hWarn | hFail | hPass
  · rw [hWarn]
    rfl
  · rw [hFail]
    rfl
  · rw [hPass]
    rfl

--------
-- Unit Invariance
--------

/- The other events of the lot, for a tenant that is known. -/
def history
    (eventData : EventData)
    (session : List StoredEvent)
    (tenantId : Option String)
    (relatedEvents : Option (List RelatedEvent)) :
    List RelatedEvent :=
  match resolveTenant tenantId with
  | none => []
  | some authTid =>
      relatedTo eventData session authTid relatedEvents

def EventData.entry (eventData : EventData) : Option Entry :=
  eventData.quantity.map (fun quantity =>
    ⟨quantity, eventData.unitOfMeasure, eventData.eventType⟩)

def RelatedEvent.entry (event : RelatedEvent) : Option Entry :=
  event.quantity.map (fun quantity =>
    ⟨quantity, event.unitOfMeasure, event.eventType⟩)

/- Every quantity of the lot is in a true unit of mass. -/
def AllInMass
    (rt : Runtime)
    (eventData : EventData)
    (related : List RelatedEvent) : Prop :=
  (∀ entry ∈ eventData.entry, InMass rt entry) ∧
    ∀ event ∈ related, ∀ entry ∈ event.entry, InMass rt entry

/-
  What the pounds of a lot say: nothing without a lot, a tenant
  or a quantity, and else the verdict on the sums of pounds.
-/
def poundVerdict
    (rt : Runtime)
    (params : MassParams)
    (eventData : EventData)
    (tenantId : Option String)
    (related : List RelatedEvent) :
    RuleResult :=
  match eventData.traceabilityLotCode != "",
      resolveTenant tenantId,
      eventData.entry.map (massOf rt) with
  | true, some _, some mass =>
      if related.isEmpty then
        .pass
      else
        balanceVerdict params.tolerancePercent
          (Totals.ofEntries
            (mass :: related.filterMap (fun event =>
              event.entry.map (massOf rt))))
  | _, _, _ => .skip

/- A lot in mass is judged by its pounds. -/
theorem result_eq_poundVerdict
    {eventData : EventData}
    {session : List StoredEvent}
    {tenantId : Option String}
    {relatedEvents : Option (List RelatedEvent)}
    (hMass : AllInMass rt eventData
      (history eventData session tenantId relatedEvents)) :
    (evaluateMassBalance rt num eventData params rule session
        tenantId relatedEvents).result =
      poundVerdict rt params eventData tenantId
        (history eventData session tenantId relatedEvents) := by
  unfold evaluateMassBalance poundVerdict
  cases hTenant : resolveTenant tenantId with
  | none => cases eventData.traceabilityLotCode != "" <;> rfl
  | some authTid =>
    have hHistory :
        history eventData session tenantId relatedEvents =
          relatedTo eventData session authTid relatedEvents := by
      rw [history, hTenant]
    rw [hHistory] at hMass ⊢
    cases hQuantity : eventData.quantity with
    | none =>
        simp only [EventData.entry, hQuantity, Option.map_none]
        cases eventData.traceabilityLotCode != "" <;> rfl
    | some quantity =>
        have hEntry : eventData.entry =
            some ⟨quantity, eventData.unitOfMeasure,
              eventData.eventType⟩ := by
          rw [EventData.entry, hQuantity]
          rfl
        cases eventData.traceabilityLotCode != "" with
        | false => rfl
        | true =>
            simp only [hEntry, Option.map_some]
            split
            · rfl
            · have hEntries : ∀ entry ∈
                  allEntries eventData quantity
                    (relatedTo eventData session authTid
                      relatedEvents),
                  InMass rt entry := by
                intro entry hMem
                rcases List.mem_cons.mp hMem with hOwn | hOther
                · exact hMass.1 entry (by rw [hEntry, hOwn]; rfl)
                · rcases List.mem_filterMap.mp hOther with
                    ⟨event, hEvent, hGiven⟩
                  exact hMass.2 event hEvent entry hGiven
              rw [balanceResult_result
                (comparable_of_inMass hEntries)]
              rw [balanceVerdict_measured hEntries, allEntries,
                List.map_cons, List.map_filterMap]
              rfl

/-
  Two tellings of one lot: the same event and the same others,
  each of the same mass, in units of their own.
-/
structure SameMass
    (rt : Runtime)
    (eventData eventData' : EventData)
    (related related' : List RelatedEvent) : Prop where
  lotCode :
    eventData'.traceabilityLotCode =
      eventData.traceabilityLotCode
  event :
    eventData'.entry.map (massOf rt) =
      eventData.entry.map (massOf rt)
  others :
    related'.map (fun event => event.entry.map (massOf rt)) =
      related.map (fun event => event.entry.map (massOf rt))

/- What pounds say depends on the pounds alone. -/
theorem poundVerdict_congr
    {eventData eventData' : EventData}
    {related related' : List RelatedEvent}
    (hSame : SameMass rt eventData eventData' related related')
    (tenantId : Option String) :
    poundVerdict rt params eventData' tenantId related' =
      poundVerdict rt params eventData tenantId related := by
  have hEmpty : related'.isEmpty = related.isEmpty := by
    have hMapped := congrArg List.isEmpty hSame.others
    rwa [List.isEmpty_map, List.isEmpty_map] at hMapped
  have hMasses :
      related'.filterMap (fun event =>
          event.entry.map (massOf rt)) =
        related.filterMap (fun event =>
          event.entry.map (massOf rt)) := by
    have hReduced := congrArg List.reduceOption hSame.others
    simpa [List.reduceOption, List.filterMap_map] using hReduced
  simp only [poundVerdict, hSame.lotCode, hSame.event, hEmpty,
    hMasses]

/-
  Whatever true units of mass the events of a lot are in, its
  verdict is the one their pounds give, and telling events in
  other units of mass changes nothing.
-/
theorem massBalance_unitInvariant
    {eventData eventData' : EventData}
    {session session' : List StoredEvent}
    {tenantId : Option String}
    {relatedEvents relatedEvents' :
      Option (List RelatedEvent)}
    (hMass : AllInMass rt eventData
      (history eventData session tenantId relatedEvents))
    (hMass' : AllInMass rt eventData'
      (history eventData' session' tenantId relatedEvents'))
    (hSame : SameMass rt eventData eventData'
      (history eventData session tenantId relatedEvents)
      (history eventData' session' tenantId relatedEvents')) :
    (evaluateMassBalance rt num eventData params rule session
        tenantId relatedEvents).result =
      poundVerdict rt params eventData tenantId
        (history eventData session tenantId relatedEvents) ∧
    (evaluateMassBalance rt num eventData' params rule session'
        tenantId relatedEvents').result =
      (evaluateMassBalance rt num eventData params rule session
        tenantId relatedEvents).result := by
  refine ⟨result_eq_poundVerdict hMass, ?_⟩
  rw [result_eq_poundVerdict hMass,
    result_eq_poundVerdict hMass', poundVerdict_congr hSame]

def tenPounds : EventData where
  eventId := "11111111-1111-1111-1111-111111111111"
  eventType := "shipping"
  traceabilityLotCode := "LOT-1"
  productReference := none
  eventTimestamp := none
  quantity := some 10
  unitOfMeasure := some "lbs"
  tenantId := none

/- A harvest, in a unit of its own. -/
def harvestOf (quantity : ℚ) (uom : String) : RelatedEvent where
  eventId := "22222222-2222-2222-2222-222222222222"
  eventType := "harvesting"
  eventTimestamp := none
  productReference := none
  quantity := some quantity
  unitOfMeasure := some uom

/- Letters are lowered, and no text is a time stamp. -/
def plainRuntime : Runtime where
  fromisoformat text :=
    .error ⟨"ValueError",
      "Invalid isoformat string: '" ++ text ++ "'"⟩
  lower := Python.lower

/- Numbers are printed as one. -/
def plainNumerals : Numerals where
  float _ := ⟨"1.0", Python.isFloatRepr_one⟩
  fixed _ := "1.00"

def massRule : RuleDefinition where
  ruleId := "44444444-4444-4444-4444-444444444444"
  ruleVersion := 1
  title := "Mass balance"
  description := none
  severity := .critical
  category := "mass_balance"
  applicabilityConditions := []
  citationReference := none
  evaluationLogic := [("type", .str "mass_balance")]
  failureReasonTemplate := ""
  remediationSuggestion := none

/- The harvest is told in ounces, and then in pounds. -/
theorem massBalance_unitInvariant_ounces :
    (evaluateMassBalance plainRuntime plainNumerals tenPounds
        {} massRule [] (some "tenant")
        (some [harvestOf 160 "oz"])).result =
      poundVerdict plainRuntime {} tenPounds (some "tenant")
        [harvestOf 160 "oz"] ∧
    (evaluateMassBalance plainRuntime plainNumerals tenPounds
        {} massRule [] (some "tenant")
        (some [harvestOf 10 "LB."])).result =
      (evaluateMassBalance plainRuntime plainNumerals tenPounds
        {} massRule [] (some "tenant")
        (some [harvestOf 160 "oz"])).result := by
  have hOunces : InMass plainRuntime
      ⟨160, some "oz", "harvesting"⟩ := by
    unfold InMass
    decide
  have hPounds : InMass plainRuntime
      ⟨10, some "LB.", "harvesting"⟩ := by
    unfold InMass
    decide
  have hShipped : InMass plainRuntime
      ⟨10, some "lbs", "shipping"⟩ := by
    unfold InMass
    decide
  have hSame :
      massOf plainRuntime ⟨10, some "LB.", "harvesting"⟩ =
        massOf plainRuntime ⟨160, some "oz", "harvesting"⟩ := by
    decide +kernel
  apply massBalance_unitInvariant
  · constructor
    · rintro entry ⟨⟩
      exact hShipped
    · intro event hEvent
      rw [List.mem_singleton.mp hEvent]
      rintro entry ⟨⟩
      exact hOunces
  · constructor
    · rintro entry ⟨⟩
      exact hShipped
    · intro event hEvent
      rw [List.mem_singleton.mp hEvent]
      rintro entry ⟨⟩
      exact hPounds
  · exact ⟨rfl, rfl, congrArg (fun mass => [some mass]) hSame⟩

/- A change of the units of stored events, at equal masses. -/
structure Reexpresses
    (rt : Runtime)
    (f : StoredEvent → StoredEvent) : Prop where
  keeps :
    ∀ row, { f row with
      quantity := row.quantity
      unitOfMeasure := row.unitOfMeasure } = row
  mass :
    ∀ row,
      (f row).related.entry.map (massOf rt) =
        row.related.entry.map (massOf rt)

end Relational

end RegEngine
