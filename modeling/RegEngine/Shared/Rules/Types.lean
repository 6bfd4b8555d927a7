import RegEngine.Library.Value

/-
  The data of the rules engine: a versioned rule, the result
  of a rule on an event, and the summary of an event with its
  verdict (`shared/rules/types.py`).

  Main declarations:
    * `RuleDefinition`
    * `RuleEvaluationResult`
    * `EvaluationSummary`
    * `EvaluationSummary.verdict`
-/

--------
-- Rules and Results
--------

namespace RegEngine

open Python (Dict)

inductive Severity where
  | critical
  | warning
  | info
  deriving DecidableEq

/- A versioned compliance rule. -/
structure RuleDefinition where
  ruleId : String
  ruleVersion : Int
  title : String
  description : Option String
  severity : Severity
  category : String
  applicabilityConditions : Dict
  citationReference : Option String
  evaluationLogic : Dict
  failureReasonTemplate : String
  remediationSuggestion : Option String

/- The outcome of a rule on an event. -/
inductive RuleResult where
  | pass
  | fail
  | warn
  | skip
  | notFtlScoped
  | error
  deriving DecidableEq

namespace RuleResult

def text : RuleResult → String
| .pass => "pass"
| .fail => "fail"
| .warn => "warn"
| .skip => "skip"
| .notFtlScoped => "not_ftl_scoped"
| .error => "error"

end RuleResult

/-
  The result of a rule on an event, without the random
  identifier that it is stored under.
-/
structure RuleEvaluationResult where
  ruleId : String := ""
  ruleVersion : Int := 1
  ruleTitle : String := ""
  severity : Severity := .warning
  result : RuleResult := .pass
  whyFailed : Option String := none
  evidenceFieldsInspected : List Dict := []
  confidence : Python.Float := ⟨"1.0", Python.isFloatRepr_one⟩
  citationReference : Option String := none
  remediationSuggestion : Option String := none
  category : String := "kde_presence"

--------
-- Summaries
--------

/- The summary of all rules on one event. -/
structure EvaluationSummary where
  eventId : String := ""
  totalRules : Nat := 0
  passed : Nat := 0
  failed : Nat := 0
  warned : Nat := 0
  skipped : Nat := 0
  errored : Nat := 0
  notFtlScoped : Nat := 0
  noVerdictReason : Option String := none
  results : List RuleEvaluationResult := []
  criticalFailures : List RuleEvaluationResult := []

/- The verdict that is stamped on an event. -/
inductive Verdict where
  | pass
  | fail
  | noVerdict
  deriving DecidableEq

namespace Verdict

def text : Verdict → String
| .pass => "pass"
| .fail => "fail"
| .noVerdict => "no_verdict"

end Verdict

namespace EvaluationSummary

/- `if self.no_verdict_reason`. -/
def hasNoVerdictReason (summary : EvaluationSummary) : Bool :=
  match summary.noVerdictReason with
  | some reason => reason != ""
  | none => false

/- `compliant`: yes, no, or no verdict. -/
def compliant (summary : EvaluationSummary) : Option Bool :=
  if summary.totalRules = 0 then
    none
  else if summary.hasNoVerdictReason then
    none
  else if summary.totalRules ≤ summary.notFtlScoped then
    none
  else
    some (summary.failed == 0 && summary.errored == 0)

/- `verdict`. -/
def verdict (summary : EvaluationSummary) : Verdict :=
  match summary.compliant with
  | some true => .pass
  | some false => .fail
  | none => .noVerdict

/- `verdict_reason`: why there is no verdict. -/
def verdictReason (summary : EvaluationSummary) :
    Option String :=
  if summary.compliant.isSome then
    none
  else if summary.hasNoVerdictReason then
    summary.noVerdictReason
  else if summary.totalRules = 0 then
    some "nothing_evaluated"
  else
    some "not_ftl_scoped"

end EvaluationSummary

end RegEngine
