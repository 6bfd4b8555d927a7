import RegEngine.Shared.RequestWorkflow.Workflow

/-
  The critical failures of the events in scope when the gate
  lets a submission through, over whole runs of the workflow.

  The gate takes any cleared case of an event for the waiver
  of all its failures, and passes over errors.

  Main declarations:
    * `RequestWorkflow.FailuresCleared`
    * `RequestWorkflow.Accounted`
    * `RequestWorkflow.run_failuresCleared`
-/

--------
-- Failures and their Cases
--------

namespace RegEngine

namespace RequestWorkflow

variable {rules : List RuleDefinition}

/- An evaluation of a critical rule. -/
def Critical
    (rules : List RuleDefinition)
    (evaluation : Evaluation) : Prop :=
  ∃ rule ∈ definitionsOf rules evaluation,
    rule.severity = .critical

instance
    (rules : List RuleDefinition)
    (evaluation : Evaluation) :
    Decidable (Critical rules evaluation) := by
  unfold Critical
  infer_instance

/- The rule failed, or its evaluator did. -/
def Failed (evaluation : Evaluation) : Prop :=
  evaluation.result = .fail ∨ evaluation.result = .error

instance (evaluation : Evaluation) :
    Decidable (Failed evaluation) := by
  unfold Failed
  infer_instance

/- No evaluation of the rule on the event is newer. -/
def Latest
    (records : Records)
    (evaluation : Evaluation) : Prop :=
  ∀ other ∈ records.evaluations,
    other.eventId = evaluation.eventId →
    other.ruleId = evaluation.ruleId →
    other.evaluatedAt ≤ evaluation.evaluatedAt

instance (records : Records) (evaluation : Evaluation) :
    Decidable (Latest records evaluation) := by
  unfold Latest
  infer_instance

/- The case names the event and the evaluation. -/
def RaisedFor
    (exception : ExceptionCase)
    (evaluation : Evaluation) : Prop :=
  evaluation.eventId ∈ exception.linkedEventIds ∧
    evaluation.evaluationId ∈
      exception.linkedRuleEvaluationIds

instance
    (exception : ExceptionCase)
    (evaluation : Evaluation) :
    Decidable (RaisedFor exception evaluation) := by
  unfold RaisedFor
  infer_instance

/-
  Every critical evaluation in scope whose latest result is a
  failure or an error has a case that was raised for it and is
  resolved or waived.
-/
def FailuresCleared
    (rules : List RuleDefinition)
    (records : Records)
    (scope : Scope) : Prop :=
  ∀ evaluation ∈ records.evaluations,
    evaluation.eventId ∈ getScopeEventIds records scope →
    Critical rules evaluation →
    Latest records evaluation →
    Failed evaluation →
    ∃ x ∈ records.exceptions,
      RaisedFor x evaluation ∧ x.Cleared

instance
    (rules : List RuleDefinition)
    (records : Records)
    (scope : Scope) :
    Decidable (FailuresCleared rules records scope) := by
  unfold FailuresCleared
  infer_instance

/- A case for the evaluation that blocks until it is cleared. -/
def Covered
    (exceptions : List ExceptionCase)
    (evaluation : Evaluation) : Prop :=
  ∃ x ∈ exceptions, RaisedFor x evaluation ∧
    (x.severity = .critical ∨ x.Cleared)

/-
  When the gate is passed, the failures are cleared exactly
  when each has a case of its own that is critical or cleared:
  an open critical case would have blocked.
-/
theorem failuresCleared_iff
    {records : Records}
    {requestCaseId : String}
    {scope : Scope}
    {signoffs : List SignoffType}
    {faults : GateFaults}
    (hSubmit :
      (checkBlockingDefects rules records requestCaseId scope
        signoffs faults).canSubmit = true) :
    FailuresCleared rules records scope ↔
      ∀ evaluation ∈ records.evaluations,
        evaluation.eventId ∈ getScopeEventIds records scope →
        Critical rules evaluation →
        Latest records evaluation →
        Failed evaluation →
        Covered records.exceptions evaluation := by
  constructor
  · intro hCleared evaluation hMem hScope hCritical hLatest
      hFailed
    rcases hCleared evaluation hMem hScope hCritical hLatest
        hFailed with ⟨x, hMemX, hRaised, hX⟩
    exact ⟨x, hMemX, hRaised, .inr hX⟩
  · intro hCovered evaluation hMem hScope hCritical hLatest
      hFailed
    rcases hCovered evaluation hMem hScope hCritical hLatest
        hFailed with ⟨x, hMemX, hRaised, hSevere | hX⟩
    · exact ⟨x, hMemX, hRaised,
        cleared_of_canSubmit hSubmit hMemX hSevere hRaised.1
          hScope⟩
    · exact ⟨x, hMemX, hRaised, hX⟩

--------
-- Guarded Failures
--------

open ExceptionQueue

variable {before after : List ExceptionCase}

/- No cleared case names the event. -/
def Unmasked
    (exceptions : List ExceptionCase)
    (eventId : String) : Prop :=
  ∀ x ∈ exceptions, x.Cleared → eventId ∉ x.linkedEventIds

instance
    (exceptions : List ExceptionCase)
    (eventId : String) :
    Decidable (Unmasked exceptions eventId) := by
  unfold Unmasked
  infer_instance

/-
  What keeps a failure from slipping through: a case of its
  own, or that the gate still sees it.
-/
def Guarded
    (exceptions : List ExceptionCase)
    (evaluation : Evaluation) : Prop :=
  Covered exceptions evaluation ∨
    evaluation.result = .fail ∧
      Unmasked exceptions evaluation.eventId

/- Every critical failure on record is guarded. -/
def AllGuarded
    (rules : List RuleDefinition)
    (records : Records) : Prop :=
  ∀ evaluation ∈ records.evaluations,
    Critical rules evaluation → Failed evaluation →
    Guarded records.exceptions evaluation

variable {evaluation : Evaluation} {outcomes : List RuleOutcome}

theorem Covered.progress
    {settled : String → Prop}
    (hProgress : Progress settled before after)
    (hCovered : Covered before evaluation) :
    Covered after evaluation := by
  rcases hCovered with ⟨x, hMem, hRaised, hSevere⟩
  rcases hProgress.kept x hMem with ⟨y, hMemY, hXY⟩
  refine ⟨y, hMemY, ?_, ?_⟩
  · rw [RaisedFor, hXY.events, hXY.evaluations]
    exact hRaised
  · rcases hSevere with hSevere | hCleared
    · exact .inl (hXY.severity.trans hSevere)
    · exact .inr (hXY.cleared hCleared)

/- Operations that clear no case keep a failure guarded. -/
theorem Guarded.progress
    (hProgress : Progress (fun _ => False) before after)
    (hGuarded : Guarded before evaluation) :
    Guarded after evaluation := by
  rcases hGuarded with hCovered | ⟨hFail, hUnmasked⟩
  · exact .inl (hCovered.progress hProgress)
  · refine .inr ⟨hFail, ?_⟩
    intro y hMem hCleared
    rcases hProgress.cleared y hMem hCleared with
      ⟨x, hMemX, hXY, hX⟩
    rw [hXY.events]
    exact hUnmasked x hMemX (hX.resolve_right not_false)

/- A case for the evaluation, or the one being cleared. -/
def CoveredBy
    (exceptions : List ExceptionCase)
    (caseId : String)
    (evaluation : Evaluation) : Prop :=
  ∃ y ∈ exceptions, RaisedFor y evaluation ∧
    (y.severity = .critical ∨ y.Cleared ∨ y.caseId = caseId)

instance
    (exceptions : List ExceptionCase)
    (caseId : String)
    (evaluation : Evaluation) :
    Decidable (CoveredBy exceptions caseId evaluation) := by
  unfold CoveredBy
  infer_instance

/-
  A case may be cleared when every critical failure of its
  events has a case of its own, which may be this one.
-/
def MayClear
    (rules : List RuleDefinition)
    (records : Records)
    (caseId : String) : Prop :=
  ∀ x ∈ records.exceptions,
    x.caseId = caseId → ¬ x.Cleared →
    ∀ evaluation ∈ records.evaluations,
      evaluation.eventId ∈ x.linkedEventIds →
      Critical rules evaluation → Failed evaluation →
      CoveredBy records.exceptions caseId evaluation

instance
    (rules : List RuleDefinition)
    (records : Records)
    (caseId : String) :
    Decidable (MayClear rules records caseId) := by
  unfold MayClear
  infer_instance

/-
  What an action must observe. An evaluation stores no error
  of a critical rule, and it raises cases for a critical
  failure of an event that has a cleared case; a case is
  cleared when it may be.
-/
def Accounted
    (rules : List RuleDefinition)
    (s : Workflow) : Action → Prop
| .records (.evaluate eventId outcomes deadlettered raises) =>
    eventId ≠ "" →
    ∀ row ∈ storedRows eventId (resultsOf rules outcomes)
        deadlettered s.clock,
      Critical rules row →
      row.result ≠ .error ∧
        (row.result = .fail →
          raises.isSome = true ∨
            Unmasked s.records.exceptions eventId)
| .records (.resolveException caseId _) =>
    MayClear rules s.records caseId
| .records (.waiveException caseId _ _) =>
    MayClear rules s.records caseId
| _ => True

instance
    (rules : List RuleDefinition)
    (s : Workflow)
    (action : Action) :
    Decidable (Accounted rules s action) := by
  unfold Accounted
  split <;> infer_instance

variable {caseId : String} {deadlettered : List String}
variable {eventId : String} {s : Workflow}

/- A case that is settled with a verdict is cleared. -/
theorem exists_settled
    {exceptions : List ExceptionCase}
    {change : ExceptionCase → ExceptionCase}
    (hLinks :
      ∀ x, (change x).linkedEventIds = x.linkedEventIds ∧
        (change x).linkedRuleEvaluationIds =
          x.linkedRuleEvaluationIds)
    (hCleared : ∀ x, (change x).Cleared)
    {x : ExceptionCase}
    (hMem : x ∈ exceptions)
    (hCase : x.caseId = caseId)
    (hRaised : RaisedFor x evaluation) :
    Covered (settle exceptions caseId change) evaluation := by
  by_cases hX : x.Cleared
  · refine ⟨x, List.mem_map.mpr ⟨x, hMem, ?_⟩, hRaised,
      .inr hX⟩
    exact if_neg (fun h => h.2 hX)
  · refine ⟨change x, List.mem_map.mpr ⟨x, hMem, ?_⟩, ?_,
      .inr (hCleared x)⟩
    · exact if_pos ⟨hCase, hX⟩
    · rw [RaisedFor, (hLinks x).1, (hLinks x).2]
      exact hRaised

/- A case that may be cleared leaves every failure guarded. -/
theorem allGuarded_settle
    {records : Records}
    (hGuarded : AllGuarded rules records)
    (hMay : MayClear rules records caseId)
    {status : ExceptionStatus}
    (hStatus : status = .resolved ∨ status = .waived)
    {change : ExceptionCase → ExceptionCase}
    (hChange :
      ∀ x, (change x).caseId = x.caseId ∧
        (change x).severity = x.severity ∧
        (change x).linkedEventIds = x.linkedEventIds ∧
        (change x).linkedRuleEvaluationIds =
          x.linkedRuleEvaluationIds ∧
        (change x).status = status) :
    AllGuarded rules
      { records with
        exceptions :=
          settle records.exceptions caseId change } := by
  have hProgress :=
    progress_settle records.exceptions caseId status hChange
  have hCleared : ∀ x, (change x).Cleared := by
    intro x
    rw [ExceptionCase.Cleared, (hChange x).2.2.2.2]
    exact hStatus
  intro evaluation hMem hCritical hFailed
  rcases hGuarded evaluation hMem hCritical hFailed with
    hCovered | ⟨hFail, hUnmasked⟩
  · exact .inl (hCovered.progress hProgress)
  · -- the failure is masked only by the case being cleared
    by_cases hNamed :
        ∃ x ∈ records.exceptions, x.caseId = caseId ∧
          ¬ x.Cleared ∧ evaluation.eventId ∈ x.linkedEventIds
    · rcases hNamed with ⟨x, hMemX, hCase, hOpen, hEvent⟩
      rcases hMay x hMemX hCase hOpen evaluation hMem hEvent
          hCritical hFailed with ⟨y, hMemY, hRaised, hSevere⟩
      refine .inl ?_
      rcases hSevere with hSevere | hY | hSame
      · exact Covered.progress hProgress
          ⟨y, hMemY, hRaised, .inl hSevere⟩
      · exact Covered.progress hProgress
          ⟨y, hMemY, hRaised, .inr hY⟩
      · refine exists_settled ?_ hCleared hMemY hSame hRaised
        intro x
        exact ⟨(hChange x).2.2.1, (hChange x).2.2.2.1⟩
    · refine .inr ⟨hFail, ?_⟩
      intro y hMemY hY hEvent
      rcases hProgress.cleared y hMemY hY with
        ⟨x, hMemX, hXY, hX⟩
      rw [hXY.events] at hEvent
      by_cases hOpen : x.Cleared
      · exact hUnmasked x hMemX hOpen hEvent
      · exact hNamed ⟨x, hMemX,
          (hX.resolve_left hOpen).1, hOpen, hEvent⟩

/- The result behind a stored row. -/
theorem mem_storedRows
    {results : List (String × RuleEvaluationResult)}
    {now : Int}
    {row : Evaluation}
    (hMem : row ∈ storedRows eventId results deadlettered now) :
    row.eventId = eventId ∧
      ∃ evaluation ∈ results,
        row.evaluationId = evaluation.1 ∧
        row.ruleId = evaluation.2.ruleId ∧
        row.ruleVersion = evaluation.2.ruleVersion ∧
        row.result = evaluation.2.result := by
  rcases List.mem_map.mp hMem with ⟨evaluation, hIn, rfl⟩
  exact ⟨rfl, evaluation, (List.mem_filter.mp hIn).1, rfl, rfl,
    rfl, rfl⟩

/- The results of an evaluation are those of known rules. -/
theorem mem_resultsOf
    {evaluation : String × RuleEvaluationResult}
    (hMem : evaluation ∈ resultsOf rules outcomes) :
    ∃ rule ∈ rules, ∃ outcome,
      evaluation = (outcome.evaluationId,
        resultOf rule outcome) := by
  rcases List.mem_filterMap.mp hMem with
    ⟨outcome, -, hFind⟩
  rcases Option.map_eq_some_iff.mp hFind with
    ⟨rule, hRule, hEq⟩
  exact ⟨rule, List.mem_of_find?_eq_some hRule, outcome,
    hEq.symm⟩

/- A stored row of a critical rule comes of a critical result. -/
theorem severity_of_critical
    (hKeys : (rules.map (·.ruleId)).Nodup)
    {evaluation : String × RuleEvaluationResult}
    (hMem : evaluation ∈ resultsOf rules outcomes)
    {row : Evaluation}
    (hRule : row.ruleId = evaluation.2.ruleId)
    (hCritical : Critical rules row) :
    evaluation.2.severity = .critical := by
  rcases mem_resultsOf hMem with ⟨rule, hMemRule, outcome, rfl⟩
  rcases hCritical with ⟨other, hOther, hSevere⟩
  rcases List.mem_filter.mp hOther with ⟨hMemOther, hSame⟩
  have hId : other.ruleId = rule.ruleId := by
    have hBoth := of_decide_eq_true hSame
    exact hBoth.1.trans hRule
  rw [List.inj_on_of_nodup_map hKeys hMemOther hMemRule hId]
    at hSevere
  exact hSevere

/- Raising cases clears none. -/
theorem progress_raiseExceptions
    (exceptions : List ExceptionCase)
    (raises : Option (String → String))
    (eventId : String)
    (results : List (String × RuleEvaluationResult)) :
    Progress (fun _ => False) exceptions
      (raiseExceptions exceptions raises eventId results) := by
  cases raises with
  | none => exact Progress.refl _ exceptions
  | some caseIds =>
      exact progress_foldl_createException caseIds _ _
        exceptions

/- An evaluation that is accounted for. -/
theorem allGuarded_evaluate
    (hKeys : (rules.map (·.ruleId)).Nodup)
    (hGuarded : AllGuarded rules s.records)
    {raises : Option (String → String)}
    (hAccounted :
      Accounted rules s
        (.records
          (.evaluate eventId outcomes deadlettered raises))) :
    AllGuarded rules
      (evaluate rules s.records s.clock eventId outcomes
        deadlettered raises) := by
  unfold evaluate
  by_cases hEvent : eventId = ""
  · rw [if_pos hEvent]
    exact hGuarded
  rw [if_neg hEvent]
  have hProgress :=
    progress_raiseExceptions s.records.exceptions raises eventId
      (resultsOf rules outcomes)
  intro evaluation hMem hCritical hFailed
  rcases List.mem_append.mp hMem with hOld | hNew
  · exact (hGuarded evaluation hOld hCritical
      hFailed).progress hProgress
  · rcases hAccounted hEvent evaluation hNew hCritical with
      ⟨hNoError, hFailure⟩
    have hFail : evaluation.result = .fail :=
      hFailed.resolve_right hNoError
    rcases mem_storedRows hNew with
      ⟨rfl, result, hResult, hId, hRule, -, hOutcome⟩
    cases raises with
    | none =>
        refine .inr ⟨hFail, ?_⟩
        exact (hFailure hFail).resolve_left (by simp)
    | some caseIds =>
        rcases exists_raised s.records.exceptions caseIds
            hEvent none none hResult (hOutcome ▸ hFail)
            (severity_of_critical hKeys hResult hRule
              hCritical) with ⟨x, hMemX, hSevere, hIn, hEval⟩
        refine .inl ⟨x, hMemX, ⟨hIn, ?_⟩, .inl hSevere⟩
        rw [hId]
        exact hEval

/- The records after an operation that is accounted for. -/
theorem allGuarded_apply
    (hKeys : (rules.map (·.ruleId)).Nodup)
    (op : RecordsOp)
    (hGuarded : AllGuarded rules s.records)
    (hAccounted : Accounted rules s (.records op)) :
    AllGuarded rules (s.records.apply rules s.clock op) := by
  cases op with
  | persistEvents events => exact hGuarded
  | changeIdentity identity => exact hGuarded
  | evaluate eventId outcomes deadlettered raises =>
      exact allGuarded_evaluate hKeys hGuarded hAccounted
  | createException caseId new =>
      intro evaluation hMem hCritical hFailed
      exact (hGuarded evaluation hMem hCritical
        hFailed).progress
        (progress_createException _ caseId new)
  | assignOwner caseId ownerUserId =>
      intro evaluation hMem hCritical hFailed
      exact (hGuarded evaluation hMem hCritical
        hFailed).progress
        (progress_assignOwner _ caseId ownerUserId)
  | resolveException caseId resolutionSummary =>
      exact allGuarded_settle hGuarded hAccounted (.inl rfl)
        (fun _ => ⟨rfl, rfl, rfl, rfl, rfl⟩)
  | waiveException caseId waiverReason waiverApprovedBy =>
      exact allGuarded_settle hGuarded hAccounted (.inr rfl)
        (fun _ => ⟨rfl, rfl, rfl, rfl, rfl⟩)
  | mirrorException caseId mirrored =>
      intro evaluation hMem hCritical hFailed
      exact (hGuarded evaluation hMem hCritical
        hFailed).progress
        (progress_mirrorUpdate _ caseId mirrored)

/- An action that is accounted for keeps failures guarded. -/
theorem step_allGuarded
    (hKeys : (rules.map (·.ruleId)).Nodup)
    (s : Workflow)
    (action : Action)
    (hGuarded : AllGuarded rules s.records)
    (hAccounted : Accounted rules s action) :
    AllGuarded rules (step rules s action).records := by
  rcases perform_records rules s action with
    ⟨op, rfl⟩ | hSame
  · exact allGuarded_apply hKeys op hGuarded hAccounted
  · change AllGuarded rules (perform rules s action).1.records
    rw [hSame]
    exact hGuarded

/-
  In every state of a run whose actions are accounted for, the
  gate is only passed, with the scope of any case, when the
  critical failures in scope are cleared.
-/
theorem run_failuresCleared
    (rules : List RuleDefinition)
    (hKeys : (rules.map (·.ruleId)).Nodup)
    (actions : List Action)
    (hMeets :
      Machine.Meets (Machine.total (step rules))
        (Accounted rules) start actions)
    (request : RequestCase)
    (faults : GateFaults)
    (hSubmit :
      ((run rules actions).gate rules request
        faults).canSubmit = true) :
    FailuresCleared rules (run rules actions).records
      request.scope := by
  have hGuarded : AllGuarded rules (run rules actions).records := by
    refine Machine.foldl_invariant
      (fun s action => step_allGuarded hKeys s action) ?_ hMeets
    intro evaluation hMem
    cases hMem
  refine (failuresCleared_iff hSubmit).mpr ?_
  intro evaluation hMem hScope hCritical hLatest hFailed
  rcases hGuarded evaluation hMem hCritical hFailed with
    hCovered | ⟨hFail, hUnmasked⟩
  · exact hCovered
  · rcases hCritical with ⟨rule, hRule, hSevere⟩
    rcases hasClearedException_of_canSubmit hSubmit hMem hScope
        hFail hRule hSevere with ⟨x, hMemX, hEvent, hCleared⟩
    exact absurd hEvent (hUnmasked x hMemX hCleared)

def criticalRule (ruleId category : String) : RuleDefinition :=
  { ruleId := ruleId
    ruleVersion := 1
    title := "TLC required"
    description := none
    severity := .critical
    category := category
    applicabilityConditions := []
    citationReference := none
    evaluationLogic := []
    failureReasonTemplate := "Rule evaluation failed"
    remediationSuggestion := none }

def twoRules : List RuleDefinition :=
  [criticalRule "tlc" "kde_presence",
    criticalRule "link" "lot_linkage"]

/- An event and a new case that has it in scope. -/
def received : List Action :=
  [.records (.persistEvents
      [{ eventId := "e"
         eventType := "receiving"
         active := true
         productReference := none
         lotReference := none
         traceabilityLotCode := "TLC-1"
         fromFacilityReference := none
         toFacilityReference := none
         createdAt := 0
         amendedAt := none }]),
    .createRequestCase "c" {} .clean]

/- One rule has an outcome on the event. -/
def outcomeOn
    (evaluationId ruleId : String)
    (result : RuleResult)
    (raises : Option (String → String)) : Action :=
  .records (.evaluate "e" [⟨evaluationId, ruleId, result, none⟩]
    [] raises)

/- The required signoffs. -/
def approvals : List Action :=
  [.addSignoff .scopeApproval "qa" none .clean,
    .addSignoff .finalApproval "qa" none .clean]

/- A failure that has its case, which is then resolved. -/
def resolvedRun : List Action :=
  received ++
    [outcomeOn "v" "tlc" .fail (some (fun _ => "x")),
      .records (.resolveException "x" "supplied")] ++
    approvals

def crashedRun : List Action :=
  received ++ [outcomeOn "v" "tlc" .error none] ++ approvals

/- A second failure of an event whose first one is resolved. -/
def maskedRun : List Action :=
  received ++
    [outcomeOn "v" "tlc" .fail (some (fun _ => "x")),
      .records (.resolveException "x" "supplied"),
      outcomeOn "w" "link" .fail none] ++
    approvals

theorem run_failuresCleared_resolvedRun :
    ∃ request,
      (run twoRules resolvedRun).request = some request ∧
        ((run twoRules resolvedRun).gate twoRules request
          ⟨false, false⟩).canSubmit = true ∧
        FailuresCleared twoRules
          (run twoRules resolvedRun).records request.scope := by
  have hGate :
      (run twoRules resolvedRun).request.map (fun request =>
        ((run twoRules resolvedRun).gate twoRules request
          ⟨false, false⟩).canSubmit) = some true := by
    decide
  rcases Option.map_eq_some_iff.mp hGate with
    ⟨request, hRequest, hSubmit⟩
  exact ⟨request, hRequest, hSubmit,
    run_failuresCleared twoRules (by decide) resolvedRun
      (by decide) request _ hSubmit⟩

/- An error and a masked failure are let through. -/
theorem not_failuresCleared_masked :
    (∃ request,
      (run twoRules crashedRun).request = some request ∧
        ((run twoRules crashedRun).gate twoRules request
          ⟨false, false⟩).canSubmit = true ∧
        ¬ FailuresCleared twoRules
          (run twoRules crashedRun).records request.scope) ∧
    ∃ request,
      (run twoRules maskedRun).request = some request ∧
        ((run twoRules maskedRun).gate twoRules request
          ⟨false, false⟩).canSubmit = true ∧
        ¬ FailuresCleared twoRules
          (run twoRules maskedRun).records request.scope := by
  have hRun : ∀ actions ∈ [crashedRun, maskedRun],
      (run twoRules actions).request.map (fun request =>
        (((run twoRules actions).gate twoRules request
            ⟨false, false⟩).canSubmit,
          decide (FailuresCleared twoRules
            (run twoRules actions).records
            request.scope))) = some (true, false) := by
    decide
  have hPassed : ∀ actions ∈ [crashedRun, maskedRun],
      ∃ request,
        (run twoRules actions).request = some request ∧
          ((run twoRules actions).gate twoRules request
            ⟨false, false⟩).canSubmit = true ∧
          ¬ FailuresCleared twoRules
            (run twoRules actions).records request.scope := by
    intro actions hMem
    rcases Option.map_eq_some_iff.mp (hRun actions hMem) with
      ⟨request, hRequest, hPair⟩
    rw [Prod.mk.injEq] at hPair
    exact ⟨request, hRequest, hPair.1,
      of_decide_eq_false hPair.2⟩
  exact ⟨hPassed crashedRun (by simp), hPassed maskedRun (by simp)⟩

end RequestWorkflow

end RegEngine
