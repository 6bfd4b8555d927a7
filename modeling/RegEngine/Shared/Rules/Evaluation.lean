import RegEngine.Library.Outcome
import RegEngine.Shared.Rules.Engine

/-
  What the summaries of one event and of a batch say: when the
  batch gives every event the summary that it has alone, and
  when a compliant summary is one of a food on the list.

  Main declarations:
    * `Rules.Readable`
    * `RulesEngine.evaluateEventsBatch_eq_iff`
    * `RulesEngine.greenOnlyOnFtl_iff`
-/

--------
-- Tallies
--------

namespace RegEngine

namespace EvaluationSummary

/- The results of a summary with a given outcome. -/
def countOf
    (summary : EvaluationSummary)
    (outcome : RuleResult) :
    Nat :=
  summary.results.countP (fun result =>
    result.result == outcome)

/- A summary whose counters count its results. -/
structure Tallied (summary : EvaluationSummary) : Prop where
  failed : summary.failed = summary.countOf .fail
  errored : summary.errored = summary.countOf .error
  notFtlScoped :
    summary.notFtlScoped = summary.countOf .notFtlScoped

/- Adding a result keeps the counts. -/
theorem Tallied.add
    {summary : EvaluationSummary}
    (hTallied : summary.Tallied)
    (result : RuleEvaluationResult) :
    (summary.add result).Tallied := by
  have hFailed := hTallied.failed
  have hErrored := hTallied.errored
  have hScoped := hTallied.notFtlScoped
  unfold countOf at hFailed hErrored hScoped
  unfold EvaluationSummary.add tallyResult
  cases hResult : result.result <;>
    constructor <;>
      simp [countOf, List.countP_append, hResult, hFailed,
        hErrored, hScoped]

/- A result is added at the end. -/
theorem add_results
    (summary : EvaluationSummary)
    (result : RuleEvaluationResult) :
    (summary.add result).results =
      summary.results ++ [result] := by
  unfold add tallyResult
  cases result.result <;> rfl

/- Adding a result keeps the number of rules. -/
theorem add_totalRules
    (summary : EvaluationSummary)
    (result : RuleEvaluationResult) :
    (summary.add result).totalRules = summary.totalRules := by
  unfold add tallyResult
  cases result.result <;> rfl

/- Adding a result gives no reason. -/
theorem add_noVerdictReason
    (summary : EvaluationSummary)
    (result : RuleEvaluationResult) :
    (summary.add result).noVerdictReason =
      summary.noVerdictReason := by
  unfold add tallyResult
  cases result.result <;> rfl

end EvaluationSummary

end RegEngine

--------
-- Dispatch
--------

namespace RegEngine

open Python (Dict)

namespace Rules

/-
  The rules that apply to an event can be read, and so can
  their types.
-/
def Readable (rules : List RuleDefinition) (eventData : Dict) :
    Prop :=
  ∃ applicable, applicableTo eventData rules = .ok applicable ∧
    ∀ rule ∈ applicable, ∃ type,
      evalType rule.evaluationLogic = .ok type

/- A rule whose evaluator is run. -/
def Dispatched (tenantId : Option String)
    (rule : RuleDefinition) : Prop :=
  ∃ name, evalType rule.evaluationLogic = .ok (.named name) ∧
    (statelessTypes.contains name = true ∨
      relationalTypes.contains name = true ∧
        tenantId.getD "" ≠ "")

/-
  Some rule applies to the event, and all that apply have
  their evaluators run.
-/
def CanPass
    (rules : List RuleDefinition)
    (tenantId : Option String)
    (eventData : Dict) :
    Prop :=
  ∃ applicable, applicableTo eventData rules = .ok applicable ∧
    applicable ≠ [] ∧
      ∀ rule ∈ applicable, Dispatched tenantId rule

theorem demote_errorResult
    (rule : RuleDefinition)
    (whyFailed : String) :
    demote (errorResult rule whyFailed) =
      errorResult rule whyFailed := by
  simp [demote, errorResult]

end Rules

namespace RulesEngine

section

open Rules

/- The result of a rule of a given type. -/
def dispatch
    (engine : RulesEngine)
    (eventData : Dict)
    (tenantId : Option String)
    (relatedEvents : Option (List Dict))
    (rule : RuleDefinition) :
    EvalType → RuleEvaluationResult
| .named name =>
    if statelessTypes.contains name then
      caught rule
        (engine.evaluators.stateless name eventData
          rule.evaluationLogic rule)
    else if relationalTypes.contains name then
      engine.evaluateRelational eventData rule tenantId
        relatedEvents name
    else
      unknownType rule name
| .other text => unknownType rule text

/- A rule has a result when its type can be read. -/
theorem evaluateSingleRule_eq
    (engine : RulesEngine)
    (eventData : Dict)
    (tenantId : Option String)
    (relatedEvents : Option (List Dict))
    (rule : RuleDefinition) :
    engine.evaluateSingleRule eventData tenantId relatedEvents
        rule =
      (evalType rule.evaluationLogic).map
        (engine.dispatch eventData tenantId relatedEvents
          rule) := by
  unfold evaluateSingleRule
  cases evalType rule.evaluationLogic with
  | error raised => rfl
  | ok type =>
      cases type with
      | other text => rfl
      | named name =>
          simp only [bind, Except.bind, Except.map, dispatch,
            pure, Except.pure]
          split
          · rfl
          · split <;> rfl

/- A rule that is not dispatched is an error. -/
theorem dispatch_of_not_dispatched
    {engine : RulesEngine}
    {eventData : Dict}
    {tenantId : Option String}
    {relatedEvents : Option (List Dict)}
    {rule : RuleDefinition}
    {type : EvalType}
    (hType : evalType rule.evaluationLogic = .ok type)
    (hNot : ¬ Dispatched tenantId rule) :
    (demote (engine.dispatch eventData tenantId relatedEvents
      rule type)).result = .error := by
  have hError :
      ∃ why,
        engine.dispatch eventData tenantId relatedEvents rule
          type = errorResult rule why := by
    cases type with
    | other text => exact ⟨_, rfl⟩
    | named name =>
        simp only [dispatch]
        split <;> rename_i hStateless
        · exact absurd ⟨name, hType, Or.inl hStateless⟩ hNot
        · split <;> rename_i hRelational
          · unfold evaluateRelational
            split
            · exact ⟨_, rfl⟩
            · rename_i session _
              dsimp only
              split <;> rename_i hTenant
              · exact ⟨_, rfl⟩
              · exact absurd
                  ⟨name, hType, Or.inr ⟨hRelational, hTenant⟩⟩
                  hNot
          · exact ⟨_, rfl⟩
  rcases hError with ⟨why, hWhy⟩
  rw [hWhy, demote_errorResult]
  rfl

/- The types of rules are asked for without an exception. -/
theorem anyRelational_ok
    {applicable : List RuleDefinition}
    (hTypes :
      ∀ rule ∈ applicable, ∃ type,
        evalType rule.evaluationLogic = .ok type) :
    ∃ any, anyRelational applicable = .ok any := by
  induction applicable with
  | nil => exact ⟨false, rfl⟩
  | cons rule rest ih =>
      have hOwn : ∃ own, isRelational rule = .ok own := by
        rcases hTypes rule (by simp) with ⟨type, hType⟩
        unfold isRelational
        unfold evalType at hType
        by_cases hHas :
            Dict.has rule.evaluationLogic "type" = true
        · rw [if_pos hHas] at hType
          rw [hType]
          cases type with
          | named name => exact ⟨_, rfl⟩
          | other text => exact ⟨_, rfl⟩
        · have hGet :
              Dict.get rule.evaluationLogic "type" =
                .none := by
            unfold Dict.get
            unfold Dict.has at hHas
            simp only [List.any_eq_true, not_exists,
              not_and] at hHas
            rw [List.find?_eq_none.mpr hHas]
            rfl
          rw [hGet]
          exact ⟨_, rfl⟩
      rcases hOwn with ⟨own, hOwn⟩
      rcases ih (fun later hLater =>
          hTypes later (by simp [hLater])) with ⟨any, hAny⟩
      rw [anyRelational, hOwn]
      cases own with
      | true => exact ⟨true, rfl⟩
      | false => exact ⟨any, hAny⟩

/- The prefetch raises only when a type cannot be read. -/
theorem prefetchRelatedEvents_ok
    {engine : RulesEngine}
    {eventData : Dict}
    {applicable : List RuleDefinition}
    {tenantId : Option String}
    (hTypes :
      ∀ rule ∈ applicable, ∃ type,
        evalType rule.evaluationLogic = .ok type) :
    ∃ related,
      engine.prefetchRelatedEvents eventData applicable
        tenantId = .ok related := by
  rcases anyRelational_ok hTypes with ⟨any, hAny⟩
  unfold prefetchRelatedEvents
  cases engine.session with
  | none => exact ⟨none, rfl⟩
  | some session =>
      dsimp only
      split
      · exact ⟨none, rfl⟩
      · split
        · rw [hAny]
          cases any with
          | false => exact ⟨none, rfl⟩
          | true =>
              simp only [bind, Except.bind, if_true]
              split
              · exact ⟨_, rfl⟩
              · exact ⟨none, rfl⟩
        · exact ⟨none, rfl⟩

end

--------
-- Summaries of Events
--------

open Python (Dict)

open Rules

variable {engine : RulesEngine} {eventData : Dict}
  {tenantId : Option String} {related : Option (List Dict)}

variable {summary final : EvaluationSummary}

/- One round of the loop adds the result of its rule. -/
theorem evaluateRules_cons
    {rule : RuleDefinition}
    {rest : List RuleDefinition} :
    engine.evaluateRules eventData tenantId related summary
        (rule :: rest) = .ok final ↔
      ∃ type, evalType rule.evaluationLogic = .ok type ∧
        engine.evaluateRules eventData tenantId related
          (summary.add
            (demote (engine.dispatch eventData tenantId related
              rule type))) rest = .ok final := by
  unfold evaluateRules
  rw [Outcome.foldlM_cons_eq_ok]
  simp only [evaluateSingleRule_eq]
  constructor
  · rintro ⟨next, hNext, hRest⟩
    rcases Outcome.bind_eq_ok.mp hNext with
      ⟨result, hResult, hAdd⟩
    rcases Outcome.map_eq_ok.mp hResult with
      ⟨type, hType, hDispatch⟩
    rw [← Outcome.pure_eq_ok.mp hAdd, ← hDispatch] at hRest
    exact ⟨type, hType, hRest⟩
  · rintro ⟨type, hType, hRest⟩
    refine ⟨_, ?_, hRest⟩
    rw [hType]
    rfl

/- The loop returns when the types can be read. -/
theorem evaluateRules_ok_iff
    {summary : EvaluationSummary}
    {applicable : List RuleDefinition} :
    (∃ final,
        engine.evaluateRules eventData tenantId related summary
          applicable = .ok final) ↔
      ∀ rule ∈ applicable, ∃ type,
        evalType rule.evaluationLogic = .ok type := by
  induction applicable generalizing summary with
  | nil => simp [evaluateRules, pure, Except.pure]
  | cons rule rest ih =>
      rw [List.forall_mem_cons, ← @ih summary]
      constructor
      · rintro ⟨final, hLoop⟩
        rcases Iff.mp evaluateRules_cons hLoop with
          ⟨type, hType, hRest⟩
        exact ⟨⟨type, hType⟩, ih.mpr (ih.mp ⟨final, hRest⟩)⟩
      · rintro ⟨⟨type, hType⟩, hRest⟩
        rcases ih.mpr (ih.mp hRest) with ⟨final, hFinal⟩
        exact ⟨final,
          Iff.mpr evaluateRules_cons ⟨type, hType, hFinal⟩⟩

/-
  What the loop comes to: counted results, one for each rule,
  after those that were there.
-/
theorem evaluateRules_tallied
    {applicable : List RuleDefinition}
    (hTallied : summary.Tallied)
    (hLoop :
      engine.evaluateRules eventData tenantId related summary
        applicable = .ok final) :
    final.Tallied ∧ final.totalRules = summary.totalRules ∧
      final.noVerdictReason = summary.noVerdictReason ∧
      ∃ results, final.results = summary.results ++ results ∧
        List.Forall₂ (fun rule result => ∃ type,
          evalType rule.evaluationLogic = .ok type ∧
            result =
              demote (engine.dispatch eventData tenantId related
                rule type)) applicable results := by
  induction applicable generalizing summary with
  | nil =>
      simp only [evaluateRules, List.foldlM_nil] at hLoop
      rw [← Outcome.pure_eq_ok.mp hLoop]
      exact ⟨hTallied, rfl, rfl, [], by simp,
        List.Forall₂.nil⟩
  | cons rule rest ih =>
      rcases Iff.mp evaluateRules_cons hLoop with
        ⟨type, hType, hRest⟩
      rcases ih (hTallied.add _) hRest with
        ⟨hFinal, hTotal, hReason, results, hResults, hAll⟩
      rw [EvaluationSummary.add_totalRules] at hTotal
      rw [EvaluationSummary.add_noVerdictReason] at hReason
      rw [EvaluationSummary.add_results] at hResults
      refine ⟨hFinal, hTotal, hReason, _ :: results, ?_,
        List.Forall₂.cons ⟨type, hType, rfl⟩ hAll⟩
      rw [hResults, List.append_assoc]
      rfl

/- The summary that an event starts with counts nothing. -/
theorem startSummary_tallied
    (eventData : Dict)
    (applicable : List RuleDefinition) :
    (startSummary eventData applicable).Tallied :=
  ⟨rfl, rfl, rfl⟩

/-
  What a summary of the batch is: one without a rule has a
  reason, one with rules has a counted result of each.
-/
theorem evaluateInBatch_cases
    {rules : List RuleDefinition}
    {tenant : String}
    {summary : EvaluationSummary}
    (hSummary :
      engine.evaluateInBatch rules tenant eventData =
        .ok summary) :
    ∃ applicable, applicableTo eventData rules = .ok applicable ∧
      summary.totalRules = applicable.length ∧
      summary.Tallied ∧
      ((applicable = [] ∧ summary.results = [] ∧
          summary.noVerdictReason =
            some (noVerdictReason eventData)) ∨
        (applicable ≠ [] ∧ summary.noVerdictReason = none ∧
          ∃ related, List.Forall₂ (fun rule result => ∃ type,
            evalType rule.evaluationLogic = .ok type ∧
              result =
                demote (engine.dispatch eventData (some tenant)
                  related rule type)) applicable
            summary.results)) := by
  unfold evaluateInBatch at hSummary
  rcases Outcome.bind_eq_ok.mp hSummary with
    ⟨applicable, hApplicable, hSummary⟩
  refine ⟨applicable, hApplicable, ?_⟩
  dsimp only at hSummary
  split at hSummary <;> rename_i hEmpty
  · rw [← Outcome.pure_eq_ok.mp hSummary]
    exact ⟨rfl, ⟨rfl, rfl, rfl⟩,
      Or.inl ⟨List.isEmpty_iff.mp hEmpty, rfl, rfl⟩⟩
  · rcases Outcome.bind_eq_ok.mp hSummary with
      ⟨related, -, hLoop⟩
    rcases evaluateRules_tallied
        (startSummary_tallied eventData applicable) hLoop with
      ⟨hTallied, hTotal, hReason, results, hResults, hAll⟩
    refine ⟨hTotal, hTallied,
      Or.inr ⟨?_, hReason, related, ?_⟩⟩
    · intro hNil
      exact hEmpty (List.isEmpty_iff.mpr hNil)
    · rw [hResults]
      exact hAll

/- A summary of the batch is given to a readable event. -/
theorem evaluateInBatch_ok_iff
    {rules : List RuleDefinition}
    {tenant : String} :
    (∃ summary,
        engine.evaluateInBatch rules tenant eventData =
          .ok summary) ↔
      Readable rules eventData := by
  constructor
  · rintro ⟨summary, hSummary⟩
    rcases evaluateInBatch_cases hSummary with
      ⟨applicable, hApplicable, -, -,
        ⟨hNil, -⟩ | ⟨-, -, related, hAll⟩⟩
    · exact ⟨applicable, hApplicable, by simp [hNil]⟩
    · refine ⟨applicable, hApplicable, ?_⟩
      intro rule hRule
      rcases List.forall₂_iff_get.mp hAll with ⟨-, hGet⟩
      rcases List.mem_iff_get.mp hRule with ⟨index, hIndex⟩
      rcases hGet index.1 index.2
          (by rw [← hAll.length_eq]; exact index.2) with
        ⟨type, hType, -⟩
      rw [← hIndex]
      exact ⟨type, hType⟩
  · rintro ⟨applicable, hApplicable, hTypes⟩
    unfold evaluateInBatch
    rw [hApplicable]
    by_cases hEmpty : applicable.isEmpty = true
    · exact ⟨_, by simp [hEmpty, bind, Except.bind]; rfl⟩
    · rcases @prefetchRelatedEvents_ok engine eventData
          applicable (some tenant) hTypes with
        ⟨related, hRelated⟩
      rcases (@evaluateRules_ok_iff engine eventData
          (some tenant) related
          (startSummary eventData applicable)
          applicable).mpr hTypes with ⟨final, hFinal⟩
      refine ⟨final, ?_⟩
      simp only [bind, Except.bind, hEmpty, hRelated, hFinal]
      rfl

end RulesEngine

end RegEngine

--------
-- Exceptions
--------

namespace RegEngine

open Python (Value Dict)
open Outcome (RaisesOnly raisesOnly_ok)

namespace Rules

/- The exception of a value of the wrong type. -/
def IsTypeError (raised : Raised) : Prop :=
  raised.typeName = "TypeError"

/- A membership test on a wrong container. -/
theorem isIn_raises
    (text : String)
    (container : Value) :
    RaisesOnly IsTypeError (isIn text container) := by
  unfold isIn
  split
  · exact raisesOnly_ok _ _
  · exact raisesOnly_ok _ _
  · exact raisesOnly_ok _ _
  · rintro raised ⟨⟩
    rfl

/- A loop over a wrong container. -/
theorem itemsOf_raises
    (value : Value) :
    RaisesOnly IsTypeError (itemsOf value) := by
  unfold itemsOf
  split
  · split
    · exact raisesOnly_ok _ _
    · exact raisesOnly_ok _ _
    · exact raisesOnly_ok _ _
    · rintro raised ⟨⟩
      rfl
  · exact raisesOnly_ok _ _

/- A type that is no dictionary key. -/
theorem evalType_raises
    (logic : Dict) :
    RaisesOnly IsTypeError (evalType logic) := by
  unfold evalType
  split
  · unfold evalKey
    split <;>
      first
        | exact raisesOnly_ok _ _
        | (rintro raised ⟨⟩; rfl)
  · exact raisesOnly_ok _ _

/- Reading the conditions of a rule. -/
theorem ruleApplies_raises
    (eventType : String)
    (eventFtlCategory : Option String)
    (eventIsFtl : Option Bool)
    (rule : RuleDefinition) :
    RaisesOnly IsTypeError
      (ruleApplies eventType eventFtlCategory eventIsFtl
        rule) := by
  have hMatch :
      RaisesOnly IsTypeError
        (cteMatch rule.applicabilityConditions eventType) := by
    unfold cteMatch
    dsimp only
    split
    · refine (isIn_raises _ _).bind (fun found _ => ?_)
      split
      · exact raisesOnly_ok _ _
      · exact isIn_raises _ _
    · exact raisesOnly_ok _ _
  have hTokens :
      RaisesOnly IsTypeError
        (scopeTokens rule.applicabilityConditions) :=
    (itemsOf_raises _).bind (fun _ _ => raisesOnly_ok _ _)
  have hCategory :
      RaisesOnly IsTypeError
        (ruleAppliesToFtlCategory rule.applicabilityConditions
          eventFtlCategory) :=
    (itemsOf_raises _).bind (fun _ _ => raisesOnly_ok _ _)
  unfold ruleApplies
  refine hMatch.bind (fun found _ => ?_)
  split
  · refine hTokens.bind (fun tokens _ => ?_)
    split
    · exact raisesOnly_ok _ _
    · split
      · exact raisesOnly_ok _ _
      · split
        · exact hCategory
        · exact raisesOnly_ok _ _
  · exact raisesOnly_ok _ _

/- Reading the rules that apply. -/
theorem getApplicableRules_raises
    (eventType : String)
    (eventFtlCategory : Option String)
    (eventIsFtl : Option Bool)
    (rules : List RuleDefinition) :
    RaisesOnly IsTypeError
      (getApplicableRules eventType eventFtlCategory eventIsFtl
        rules) := by
  induction rules with
  | nil => exact raisesOnly_ok _ _
  | cons rule rest ih =>
      rw [getApplicableRules]
      refine (ruleApplies_raises _ _ _ rule).bind
        (fun applies _ => ?_)
      exact ih.bind (fun later _ => raisesOnly_ok _ _)

end Rules

namespace RulesEngine

section

open Rules

/- Asking for the types of rules. -/
theorem anyRelational_raises
    (applicable : List RuleDefinition) :
    RaisesOnly IsTypeError (anyRelational applicable) := by
  induction applicable with
  | nil => exact raisesOnly_ok _ _
  | cons rule rest ih =>
      have hKey :
          RaisesOnly IsTypeError (isRelational rule) := by
        unfold isRelational evalKey
        refine RaisesOnly.bind ?_ (fun type _ => ?_)
        · split <;>
            first
              | exact raisesOnly_ok _ _
              | (rintro raised ⟨⟩; rfl)
        · split <;> exact raisesOnly_ok _ _
      rw [anyRelational]
      refine hKey.bind (fun own _ => ?_)
      split
      · exact raisesOnly_ok _ _
      · exact ih

/- An event of the batch raises a type error or nothing. -/
theorem evaluateInBatch_raises
    (engine : RulesEngine)
    (rules : List RuleDefinition)
    (tenant : String)
    (eventData : Dict) :
    RaisesOnly IsTypeError
      (engine.evaluateInBatch rules tenant eventData) := by
  unfold evaluateInBatch
  refine (getApplicableRules_raises _ _ _ _).bind
    (fun applicable _ => ?_)
  dsimp only
  split
  · exact raisesOnly_ok _ _
  · refine RaisesOnly.bind ?_ (fun related _ => ?_)
    · unfold prefetchRelatedEvents
      split
      · exact raisesOnly_ok _ _
      · dsimp only
        split
        · exact raisesOnly_ok _ _
        · split
          · refine (anyRelational_raises _).bind
              (fun any _ => ?_)
            split
            · split <;> exact raisesOnly_ok _ _
            · exact raisesOnly_ok _ _
          · exact raisesOnly_ok _ _
    · refine Outcome.raisesOnly_foldlM (fun current rule => ?_)
        _ _
      rw [evaluateSingleRule_eq]
      exact ((evalType_raises _).map _).bind
        (fun _ _ => raisesOnly_ok _ _)

end

--------
-- One Event and a Batch
--------

open Python (Dict)

open Rules

/- The reason that `evaluate_event` gives to a food off it. -/
def stamp
    (eventData : Dict)
    (summary : EvaluationSummary) :
    EvaluationSummary :=
  if Ftl.isFtlFood (.dict eventData) = some false then
    { summary with noVerdictReason := some "not_ftl_scoped" }
  else
    summary

variable {engine : RulesEngine} {rules : List RuleDefinition}
variable {eventData : Dict} {summary : EvaluationSummary}

/-
  An event alone has the summary that the batch gives it, with
  the reason of a food that is not on the list.
-/
theorem evaluateEvent_eq
    (hRules : engine.currentRules = .ok rules)
    (eventData : Dict)
    (tenant : String) :
    engine.evaluateEvent eventData (some tenant) =
      (engine.evaluateInBatch rules tenant eventData).map
        (stamp eventData) := by
  unfold evaluateEvent evaluateInBatch
  rw [hRules]
  simp only [bind, Except.bind]
  cases applicableTo eventData rules with
  | error raised => rfl
  | ok applicable =>
      dsimp only
      split
      · simp only [Except.map, pure, Except.pure, stamp,
          noVerdictReason]
        split <;> rfl
      · cases engine.prefetchRelatedEvents eventData applicable
            (some tenant) with
        | error raised => rfl
        | ok related =>
            dsimp only
            cases engine.evaluateRules eventData (some tenant)
                related (startSummary eventData applicable)
                applicable with
            | error raised => rfl
            | ok evaluated =>
                simp only [Except.map, stamp]
                split <;> rfl

/- The stamp changes the summary of a food off the list. -/
theorem stamp_eq_iff
    {tenant : String}
    (hSummary :
      engine.evaluateInBatch rules tenant eventData =
        .ok summary) :
    stamp eventData summary = summary ↔
      (Ftl.isFtlFood (.dict eventData) = some false →
        applicableTo eventData rules = .ok []) := by
  rcases evaluateInBatch_cases hSummary with
    ⟨applicable, hApplicable, -, -,
      ⟨hNil, -, hReason⟩ | ⟨hSome, hNone, -⟩⟩
  · rw [hApplicable, hNil]
    refine iff_of_true ?_ (fun _ => rfl)
    unfold stamp
    split <;> rename_i hFtl
    · rw [noVerdictReason, if_pos hFtl] at hReason
      rw [← hReason]
    · rfl
  · rw [hApplicable, Except.ok.injEq]
    by_cases hFtl :
        Ftl.isFtlFood (.dict eventData) = some false
    · refine iff_of_false ?_ ?_
      · intro hSame
        have hReason :=
          congrArg EvaluationSummary.noVerdictReason hSame
        rw [stamp, if_pos hFtl, hNone] at hReason
        simp at hReason
      · intro hImp
        exact hSome (hImp hFtl)
    · exact iff_of_true (if_neg hFtl)
        (fun hFalse => absurd hFalse hFtl)

/-
  The batch gives every event the summary that it has alone,
  exactly when there is a tenant, and either an event raises
  or no rule applies to an event of a food off the list.
-/
theorem evaluateEventsBatch_eq_iff
    (engine : RulesEngine)
    (rules : List RuleDefinition)
    (tenant : String)
    (events : List Dict)
    (hActive : engine.loadActiveRules = .ok rules)
    (hRules : engine.currentRules = .ok rules) :
    engine.evaluateEventsBatch events tenant =
        events.mapM (fun eventData =>
          engine.evaluateEvent eventData (some tenant)) ↔
      tenant ≠ "" ∧
        ((∃ eventData ∈ events, ¬ Readable rules eventData) ∨
          ∀ eventData ∈ events,
            Ftl.isFtlFood (.dict eventData) = some false →
              applicableTo eventData rules = .ok []) := by
  simp only [evaluateEvent_eq hRules]
  unfold evaluateEventsBatch
  by_cases hTenant : tenant = ""
  · rw [if_pos hTenant]
    refine iff_of_false ?_ (fun hBoth => hBoth.1 hTenant)
    intro hSame
    have hType :=
      Outcome.raisesOnly_mapM (fun eventData =>
        (evaluateInBatch_raises engine rules tenant
          eventData).map (stamp eventData)) events _ hSame.symm
    simp [IsTypeError] at hType
  · rw [if_neg hTenant, hActive]
    simp only [hTenant, ne_eq, not_false_eq_true, true_and]
    change events.mapM (engine.evaluateInBatch rules tenant) =
      _ ↔ _
    rw [eq_comm]
    by_cases hReads :
        ∀ eventData ∈ events, Readable rules eventData
    · have hAll :
          ∀ eventData ∈ events, ∃ summary,
            engine.evaluateInBatch rules tenant eventData =
              .ok summary :=
        fun eventData hEvent =>
          evaluateInBatch_ok_iff.mpr (hReads eventData hEvent)
      rw [Outcome.mapM_map_eq_iff stamp hAll]
      constructor
      · intro hSame
        refine Or.inr ?_
        intro eventData hEvent
        rcases hAll eventData hEvent with ⟨summary, hSummary⟩
        exact (stamp_eq_iff hSummary).mp
          (hSame eventData hEvent summary hSummary)
      · rintro (⟨eventData, hEvent, hNot⟩ | hNone)
        · exact absurd (hReads eventData hEvent) hNot
        · intro eventData hEvent summary hSummary
          exact (stamp_eq_iff hSummary).mpr
            (hNone eventData hEvent)
    · push Not at hReads
      refine iff_of_true (Outcome.mapM_map_of_raises stamp ?_)
        (Or.inl hReads)
      rcases hReads with ⟨eventData, hEvent, hNot⟩
      refine ⟨eventData, hEvent, ?_⟩
      cases hSummary :
          engine.evaluateInBatch rules tenant eventData with
      | error raised => exact ⟨raised, rfl⟩
      | ok summary =>
          exact absurd
            (evaluateInBatch_ok_iff.mp ⟨summary, hSummary⟩) hNot

/- The evaluators of rules that all pass. -/
def passing : Evaluators where
  stateless := fun _ _ _ rule => .ok
    { ruleId := rule.ruleId
      ruleVersion := rule.ruleVersion
      ruleTitle := rule.title
      severity := rule.severity
      category := rule.category }
  relational := fun _ _ _ rule _ _ _ => .ok
    { ruleId := rule.ruleId
      ruleVersion := rule.ruleVersion
      ruleTitle := rule.title
      severity := rule.severity
      category := rule.category }

/- The seeded rule that asks for a classification. -/
def classificationRule : RuleDefinition where
  ruleId := "00000000-0000-0000-0000-000000000001"
  ruleVersion := 1
  title := "FTL Classification: Product Must Be Classified"
  description := none
  severity := .critical
  category := "ftl_scoping"
  applicabilityConditions :=
    [("cte_types", .list []),
      ("ftl_scope", .list [.str "NON_FTL"])]
  citationReference := none
  evaluationLogic :=
    [("type", .str "multi_field_presence"),
      ("field", .str "ftl_covered"),
      ("params", .dict
        [("fields", .list
          [.str "ftl_covered",
            .str "kdes.ftl_covered",
            .str "kdes.ftl_category",
            .str "product.category",
            .str "product_category"])])]
  failureReasonTemplate := ""
  remediationSuggestion := none

/- An engine whose only rule asks for a classification. -/
def classificationEngine : RulesEngine where
  session := some ⟨.ok [classificationRule], fun _ _ _ => .ok []⟩
  freshRules := none
  evaluators := passing

theorem evaluateEventsBatch_eq_onList :
    classificationEngine.evaluateEventsBatch
        [[("event_type", .str "receiving"),
          ("ftl_covered", .bool true)]] "tenant-1" =
      [[("event_type", .str "receiving"),
        ("ftl_covered", .bool true)]].mapM (fun eventData =>
          classificationEngine.evaluateEvent eventData
            (some "tenant-1")) := by
  refine (evaluateEventsBatch_eq_iff classificationEngine
    [classificationRule] "tenant-1" _ rfl rfl).mpr
      ⟨by decide, Or.inr ?_⟩
  intro eventData hEvent hFtl
  rw [List.mem_singleton.mp hEvent] at hFtl
  exact absurd hFtl (by decide)

/- Alone, a food off the list has no verdict. -/
theorem evaluateEventsBatch_ne_offList :
    classificationEngine.evaluateEventsBatch
        [[("event_type", .str "receiving"),
          ("ftl_covered", .bool false)]] "tenant-1" ≠
      [[("event_type", .str "receiving"),
        ("ftl_covered", .bool false)]].mapM (fun eventData =>
          classificationEngine.evaluateEvent eventData
            (some "tenant-1")) := by
  intro hSame
  have hVerdicts :=
    congrArg (fun outcome => outcome.toOption.map
      (List.map EvaluationSummary.verdict)) hSame
  revert hVerdicts
  decide

--------
-- Compliance and the List
--------

/-
  A compliant summary of an event, alone or in a batch, is one
  of a food on the list.
-/
def GreenOnlyOnFtl
    (engine : RulesEngine)
    (tenantId : Option String)
    (eventData : Dict) :
    Prop :=
  (∀ summary,
      engine.evaluateEvent eventData tenantId = .ok summary →
        summary.compliant = some true →
          Ftl.isFtlFood (.dict eventData) = some true) ∧
    ∀ events summaries,
      engine.evaluateEventsBatch events (tenantId.getD "") =
          .ok summaries →
        ∀ summary, (eventData, summary) ∈ events.zip summaries →
          summary.compliant = some true →
            Ftl.isFtlFood (.dict eventData) = some true

/- No tenant is the empty one. -/
theorem evaluateEvent_getD
    (engine : RulesEngine)
    (eventData : Dict)
    (tenantId : Option String) :
    engine.evaluateEvent eventData tenantId =
      engine.evaluateEvent eventData
        (some (tenantId.getD "")) := by
  cases tenantId <;> rfl

variable {tenantId : Option String}

/- No tenant dispatches what the empty one does. -/
theorem dispatched_getD
    {rule : RuleDefinition} :
    Dispatched (some (tenantId.getD "")) rule ↔
      Dispatched tenantId rule := by
  cases tenantId <;> exact Iff.rfl

/- A reason to give no verdict gives none. -/
theorem compliant_of_reason
    {reason : String}
    (hReason : summary.noVerdictReason = some reason)
    (hText : reason ≠ "") :
    summary.compliant = none := by
  unfold EvaluationSummary.compliant
    EvaluationSummary.hasNoVerdictReason
  rw [hReason]
  simp [hText]

/- A rule that is not dispatched keeps an event from green. -/
theorem not_compliant_of_not_canPass
    {tenant : String}
    (hSummary :
      engine.evaluateInBatch rules tenant eventData =
        .ok summary)
    (hNot : ¬ CanPass rules (some tenant) eventData) :
    summary.compliant ≠ some true := by
  rcases evaluateInBatch_cases hSummary with
    ⟨applicable, hApplicable, hTotal, hTallied,
      ⟨hNil, -⟩ | ⟨hSome, -, related, hAll⟩⟩
  · rw [hNil, List.length_nil] at hTotal
    simp [EvaluationSummary.compliant, hTotal]
  · have hRule :
        ∃ rule ∈ applicable, ¬ Dispatched (some tenant) rule := by
      by_contra hNone
      push Not at hNone
      exact hNot ⟨applicable, hApplicable, hSome, hNone⟩
    rcases hRule with ⟨rule, hRule, hUndispatched⟩
    have hError :
        ∃ result ∈ summary.results, result.result = .error := by
      rcases List.mem_iff_get.mp hRule with ⟨index, hIndex⟩
      have hBound : index.1 < summary.results.length := by
        rw [← hAll.length_eq]
        exact index.2
      rcases (List.forall₂_iff_get.mp hAll).2 index.1 index.2
          hBound with ⟨type, hType, hResult⟩
      refine ⟨_, List.get_mem _ ⟨index.1, hBound⟩, ?_⟩
      rw [hResult]
      rw [← hIndex] at hUndispatched
      exact dispatch_of_not_dispatched hType hUndispatched
    have hErrored : summary.errored ≠ 0 := by
      rw [hTallied.errored, EvaluationSummary.countOf,
        ← Nat.pos_iff_ne_zero, List.countP_pos_iff]
      rcases hError with ⟨result, hResult, hIs⟩
      exact ⟨result, hResult, by simp [hIs]⟩
    unfold EvaluationSummary.compliant
    split
    · simp
    · split
      · simp
      · split
        · simp
        · simp [hErrored]

/- The result of a rule that passes. -/
theorem dispatch_passing
    {session : Session}
    {freshRules : Option (List RuleDefinition)}
    {related : Option (List Dict)}
    {rule : RuleDefinition}
    {type : EvalType}
    (hType : evalType rule.evaluationLogic = .ok type)
    (hDispatched : Dispatched tenantId rule) :
    (demote ((RulesEngine.mk (some session) freshRules
      passing).dispatch eventData tenantId related rule
        type)).result = .pass := by
  rcases hDispatched with ⟨name, hName, hKind⟩
  rw [hType, Except.ok.injEq] at hName
  rw [hName]
  simp only [dispatch]
  split
  · rfl
  · rename_i hStateless
    rcases hKind with hBad | ⟨hRelational, hTenant⟩
    · exact absurd hBad hStateless
    · rw [if_pos hRelational]
      simp only [evaluateRelational, if_neg hTenant]
      rfl

/- An event whose rules all pass is green in a batch. -/
theorem evaluateInBatch_passing
    {session : Session}
    {freshRules : Option (List RuleDefinition)}
    {rules : List RuleDefinition}
    {tenant : String}
    {eventData : Dict}
    (hPass : CanPass rules (some tenant) eventData) :
    ∃ summary,
      (RulesEngine.mk (some session) freshRules
          passing).evaluateInBatch rules tenant eventData =
        .ok summary ∧ summary.compliant = some true := by
  rcases hPass with ⟨applicable, hApplicable, hSome, hAll⟩
  have hReadable : Readable rules eventData := by
    refine ⟨applicable, hApplicable, ?_⟩
    intro rule hRule
    rcases hAll rule hRule with ⟨name, hName, -⟩
    exact ⟨_, hName⟩
  rcases (@evaluateInBatch_ok_iff
      (RulesEngine.mk (some session) freshRules passing)
      eventData rules tenant).mpr hReadable with
    ⟨summary, hSummary⟩
  refine ⟨summary, hSummary, ?_⟩
  rcases evaluateInBatch_cases hSummary with
    ⟨other, hOther, hTotal, hTallied,
      ⟨hNil, -⟩ | ⟨-, hReason, related, hResults⟩⟩
  · rw [hApplicable, Except.ok.injEq] at hOther
    exact absurd (hOther.trans hNil) hSome
  · rw [hApplicable, Except.ok.injEq] at hOther
    rw [← hOther] at hResults hTotal
    have hPassed :
        ∀ result ∈ summary.results, result.result = .pass := by
      intro result hResult
      rcases List.mem_iff_get.mp hResult with ⟨index, hIndex⟩
      have hBound : index.1 < applicable.length := by
        rw [hResults.length_eq]
        exact index.2
      rcases (List.forall₂_iff_get.mp hResults).2 index.1 hBound
          index.2 with ⟨type, hType, hEq⟩
      rw [← hIndex, hEq]
      exact dispatch_passing hType
        (hAll _ (List.get_mem _ ⟨index.1, hBound⟩))
    have hCount :
        ∀ outcome, outcome ≠ .pass →
          summary.countOf outcome = 0 := by
      intro outcome hOutcome
      unfold EvaluationSummary.countOf
      rw [List.countP_eq_zero]
      intro result hResult
      rw [hPassed result hResult]
      simp [hOutcome.symm]
    have hLength : summary.totalRules ≠ 0 := by
      rw [hTotal]
      simpa using hSome
    unfold EvaluationSummary.compliant
      EvaluationSummary.hasNoVerdictReason
    rw [if_neg hLength, hReason, hTallied.notFtlScoped,
      hTallied.failed, hTallied.errored, hCount _ (by simp),
      hCount _ (by simp), hCount _ (by simp)]
    simp [hLength]

/-
  Whatever the evaluators find, only a food on the list is
  compliant, exactly when the event is of one, or no rule can
  pass on it, or it is off the list and there is no tenant to
  evaluate a batch for.
-/
theorem greenOnlyOnFtl_iff
    (session : Session)
    (freshRules : Option (List RuleDefinition))
    (rules : List RuleDefinition)
    (tenantId : Option String)
    (eventData : Dict)
    (hActive : session.activeRules = .ok rules)
    (hFresh : ∀ fresh, freshRules = some fresh → fresh = rules) :
    (∀ evaluators,
        (RulesEngine.mk (some session) freshRules
          evaluators).GreenOnlyOnFtl tenantId eventData) ↔
      Ftl.isFtlFood (.dict eventData) = some true ∨
        ¬ CanPass rules tenantId eventData ∨
        (Ftl.isFtlFood (.dict eventData) = some false ∧
          tenantId.getD "" = "") := by
  have hRules :
      ∀ evaluators,
        (RulesEngine.mk (some session) freshRules
          evaluators).currentRules = .ok rules := by
    intro evaluators
    unfold currentRules
    cases hCache : freshRules with
    | none => exact hActive
    | some fresh => exact congrArg Except.ok (hFresh fresh hCache)
  have hCanPass :
      CanPass rules (some (tenantId.getD "")) eventData ↔
        CanPass rules tenantId eventData := by
    unfold CanPass
    simp only [dispatched_getD]
  constructor
  · intro hGreen
    by_contra hNot
    push Not at hNot
    rcases hNot with ⟨hOff, hPass, hTenant⟩
    rcases @evaluateInBatch_passing session freshRules rules
        (tenantId.getD "") eventData (hCanPass.mpr hPass) with
      ⟨summary, hSummary, hCompliant⟩
    by_cases hFalse :
        Ftl.isFtlFood (.dict eventData) = some false
    · refine hOff ((hGreen passing).2 [eventData] [summary] ?_
        summary (by simp) hCompliant)
      unfold evaluateEventsBatch
      rw [if_neg (hTenant hFalse)]
      change (session.activeRules >>= _) = _
      rw [hActive]
      change [eventData].mapM
        ((RulesEngine.mk (some session) freshRules
          passing).evaluateInBatch rules (tenantId.getD "")) = _
      rw [List.mapM_cons, hSummary]
      rfl
    · refine hOff ((hGreen passing).1 summary ?_ hCompliant)
      rw [evaluateEvent_getD, evaluateEvent_eq (hRules passing),
        hSummary]
      simp [Except.map, stamp, hFalse]
  · intro hCond evaluators
    constructor
    · intro summary hSummary hCompliant
      rw [evaluateEvent_getD, evaluateEvent_eq
        (hRules evaluators)] at hSummary
      rcases Outcome.map_eq_ok.mp hSummary with
        ⟨unstamped, hBatch, hStamp⟩
      by_cases hFalse :
          Ftl.isFtlFood (.dict eventData) = some false
      · rw [stamp, if_pos hFalse] at hStamp
        rw [← hStamp, compliant_of_reason rfl (by decide)]
          at hCompliant
        simp at hCompliant
      · rw [stamp, if_neg hFalse] at hStamp
        rw [← hStamp] at hCompliant
        rcases hCond with hOn | hNot | hOff
        · exact hOn
        · exact absurd hCompliant
            (not_compliant_of_not_canPass hBatch
              (fun hPass => hNot (hCanPass.mp hPass)))
        · exact absurd hOff.1 hFalse
    · intro events summaries hSummaries summary hMem hCompliant
      unfold evaluateEventsBatch at hSummaries
      split at hSummaries <;> rename_i hTenant
      · simp at hSummaries
      · change (session.activeRules >>= _) = _ at hSummaries
        rw [hActive] at hSummaries
        have hBatch := Outcome.mem_zip_mapM hSummaries hMem
        rcases hCond with hOn | hNot | hOff
        · exact hOn
        · exact absurd hCompliant
            (not_compliant_of_not_canPass hBatch
              (fun hPass => hNot (hCanPass.mp hPass)))
        · exact absurd hOff.2 hTenant

/- A rule on every event: it must have a type. -/
def eventTypeRule : RuleDefinition where
  ruleId := "00000000-0000-0000-0000-000000000002"
  ruleVersion := 1
  title := "Event Type Must Be Present"
  description := none
  severity := .critical
  category := "kde_presence"
  applicabilityConditions :=
    [("cte_types", .list []),
      ("ftl_scope", .list [.str "ANY"])]
  citationReference := none
  evaluationLogic :=
    [("type", .str "field_presence"),
      ("field", .str "event_type")]
  failureReasonTemplate := ""
  remediationSuggestion := none

def eventTypeSession : Session :=
  ⟨.ok [eventTypeRule], fun _ _ _ => .ok []⟩

theorem greenOnlyOnFtl_onList :
    (RulesEngine.mk (some eventTypeSession) none
      passing).GreenOnlyOnFtl (some "tenant-1")
        [("event_type", .str "receiving"),
          ("ftl_category", .str "Finfish")] :=
  (greenOnlyOnFtl_iff eventTypeSession none [eventTypeRule]
    (some "tenant-1") _ rfl (by simp)).mpr
      (Or.inl (by decide)) passing

/- An event that says nothing of its food is compliant. -/
theorem not_greenOnlyOnFtl_unknown :
    ¬ (RulesEngine.mk (some eventTypeSession) none
      passing).GreenOnlyOnFtl (some "tenant-1")
        [("event_type", .str "receiving")] := by
  intro hGreen
  have hCompliant :
      ((RulesEngine.mk (some eventTypeSession) none
        passing).evaluateEvent [("event_type", .str "receiving")]
          (some "tenant-1")).toOption.map
            EvaluationSummary.compliant =
        some (some true) := by
    decide
  cases hSummary :
      (RulesEngine.mk (some eventTypeSession) none
        passing).evaluateEvent [("event_type", .str "receiving")]
          (some "tenant-1") with
  | error raised =>
      rw [hSummary] at hCompliant
      simp [Except.toOption] at hCompliant
  | ok summary =>
      rw [hSummary] at hCompliant
      have hFtl :=
        hGreen.1 summary hSummary
          (by simpa [Except.toOption] using hCompliant)
      exact absurd hFtl (by decide)

end RulesEngine

end RegEngine
