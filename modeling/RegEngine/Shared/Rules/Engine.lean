import RegEngine.Shared.Rules.Ftl
import RegEngine.Shared.Rules.Types

/-
  The versioned rules engine: which rules apply to an event,
  how a rule is dispatched to its evaluator, and the summaries
  of one event and of a batch (`shared/rules/engine.py`). The
  evaluators themselves are a parameter.

  Main declarations:
    * `RulesEngine`
    * `RulesEngine.getApplicableRules`
    * `RulesEngine.evaluateSingleRule`
    * `RulesEngine.evaluateEvent`
-/

--------
-- Applicable Rules
--------

namespace RegEngine

open Python (Value Dict)

/- A raised exception: the name of its type and its text. -/
structure Raised where
  typeName : String
  text : String
  deriving DecidableEq

namespace Rules

def typeName : Value → String
| .none => "NoneType"
| .bool _ => "bool"
| .int _ => "int"
| .float _ => "float"
| .str _ => "str"
| .list _ => "list"
| .dict _ => "dict"
| .object _ => "object"

/- `text in container`. -/
def isIn (text : String) (container : Value) :
    Except Raised Bool :=
  match container with
  | .list items =>
      .ok (items.any (fun item => item.str? == some text))
  | .dict entries => .ok (Dict.has entries text)
  | .str whole => .ok (Python.contains whole text)
  | other =>
      .error ⟨"TypeError",
        "argument of type '" ++ typeName other ++
          "' is not iterable"⟩

/- The items of `value or []`. -/
def itemsOf (value : Value) : Except Raised (List Value) :=
  if value.truthy then
    match value with
    | .list items => .ok items
    | .dict entries =>
        .ok (entries.map (fun entry => .str entry.1))
    | .str text =>
        .ok (text.toList.map (fun c =>
          .str (String.singleton c)))
    | other =>
        .error ⟨"TypeError",
          "'" ++ typeName other ++ "' object is not iterable"⟩
  else
    .ok []

/-
  `text.upper()`, exact for a test on the words `ANY` and
  `NON_FTL`: no other letter has theirs as its capital.
-/
def upper (text : String) : String :=
  String.ofList (text.toList.map Char.toUpper)

/- Whether the event type is one of the rule. -/
def cteMatch (conditions : Dict) (eventType : String) :
    Except Raised Bool :=
  let cteTypes := Dict.get conditions "cte_types"
  if cteTypes.truthy then do
    if ← isIn eventType cteTypes then
      return true
    else
      isIn "all" cteTypes
  else
    .ok true

/- The words of `ftl_scope`, in capitals. -/
def scopeTokens (conditions : Dict) :
    Except Raised (List String) := do
  let items ← itemsOf (Dict.get conditions "ftl_scope")
  return items.filterMap (fun item =>
    match item with
    | .str text =>
        if Python.strip text = "" then none
        else some (upper (Python.strip text))
    | _ => none)

/- `rule_applies_to_ftl_category`. -/
def ruleAppliesToFtlCategory
    (conditions : Dict)
    (eventFtlCategory : Option String) :
    Except Raised Bool := do
  let items ← itemsOf (Dict.get conditions "ftl_scope")
  let scope :=
    (items.filter Value.truthy).map (fun item =>
      (Ftl.normalize item).getD "")
  return items.isEmpty || scope.contains "all" ||
    eventFtlCategory.any scope.contains

/- Whether a rule applies to an event. -/
def ruleApplies
    (eventType : String)
    (eventFtlCategory : Option String)
    (eventIsFtl : Option Bool)
    (rule : RuleDefinition) :
    Except Raised Bool := do
  let conditions := rule.applicabilityConditions
  if ← cteMatch conditions eventType then
    let tokens ← scopeTokens conditions
    if tokens.contains "ANY" then
      return true
    else if tokens.contains "NON_FTL" &&
        eventIsFtl != some true then
      return true
    else if eventIsFtl = some true then
      ruleAppliesToFtlCategory conditions eventFtlCategory
    else
      return false
  else
    return false

/- `get_applicable_rules`, on the rules that are given. -/
def getApplicableRules
    (eventType : String)
    (eventFtlCategory : Option String)
    (eventIsFtl : Option Bool) :
    List RuleDefinition → Except Raised (List RuleDefinition)
| [] => .ok []
| rule :: rest => do
    let applies ←
      ruleApplies eventType eventFtlCategory eventIsFtl rule
    let later ←
      getApplicableRules eventType eventFtlCategory eventIsFtl
        rest
    return if applies then rule :: later else later

/- `event_data.get(key, "")`, for a text field. -/
def textField (eventData : Dict) (key : String) : String :=
  (Dict.get eventData key).str?.getD ""

/- The rules that apply to an event. -/
def applicableTo
    (eventData : Dict)
    (rules : List RuleDefinition) :
    Except Raised (List RuleDefinition) :=
  getApplicableRules (textField eventData "event_type")
    (Ftl.getFtlCategory (.dict eventData))
    (Ftl.isFtlFood (.dict eventData)) rules

end Rules

--------
-- One Rule
--------

/- What the engine reads from the database. -/
structure Session where
  activeRules : Except Raised (List RuleDefinition)
  fetchRelatedEvents :
    Value → String → Option String → Except Raised (List Dict)

/-
  The evaluators by their type: the stateless ones read the
  event, the relational ones also the events of its lot.
-/
structure Evaluators where
  stateless :
    String → Dict → Dict → RuleDefinition →
      Except Raised RuleEvaluationResult
  relational :
    String → Dict → Dict → RuleDefinition → Session →
      String → Option (List Dict) →
        Except Raised RuleEvaluationResult

/-
  An engine: its session, the rules in its cache while they
  are fresh, and the evaluators.
-/
structure RulesEngine where
  session : Option Session
  freshRules : Option (List RuleDefinition)
  evaluators : Evaluators

namespace Rules

/- The keys of `EVALUATORS`. -/
def statelessTypes : List String :=
  ["field_presence", "field_format", "multi_field_presence",
    "numeric_range", "gs1_check_digit"]

/- The keys of `RELATIONAL_EVALUATORS`. -/
def relationalTypes : List String :=
  ["temporal_order", "identity_consistency", "mass_balance"]

/-
  The type of a rule: a text, or another value that a
  dictionary can be asked for, known by its text.
-/
inductive EvalType where
  | named (name : String)
  | other (text : String)
  deriving DecidableEq

/- The type that `logic` names, as a dictionary key. -/
def evalKey : Value → Except Raised EvalType
| .str name => .ok (.named name)
| .none => .ok (.other "None")
| .bool true => .ok (.other "True")
| .bool false => .ok (.other "False")
| .int value => .ok (.other (toString value))
| .float value => .ok (.other value.repr)
| .object value => .ok (.other value.text)
| .list _ =>
    .error ⟨"TypeError", "unhashable type: 'list'"⟩
| .dict _ =>
    .error ⟨"TypeError", "unhashable type: 'dict'"⟩

/- `logic.get("type", "field_presence")`. -/
def evalType (logic : Dict) : Except Raised EvalType :=
  if Dict.has logic "type" then evalKey (Dict.get logic "type")
  else .ok (.named "field_presence")

/- The result of a rule that could not be evaluated. -/
def errorResult (rule : RuleDefinition) (whyFailed : String) :
    RuleEvaluationResult where
  ruleId := rule.ruleId
  ruleVersion := rule.ruleVersion
  ruleTitle := rule.title
  severity := rule.severity
  result := .error
  whyFailed := some whyFailed
  category := rule.category

/- The result of an evaluator, which may crash. -/
def caught
    (rule : RuleDefinition)
    (outcome : Except Raised RuleEvaluationResult) :
    RuleEvaluationResult :=
  match outcome with
  | .ok result => result
  | .error raised =>
      errorResult rule
        ("Evaluator crashed (" ++ raised.typeName ++ "): " ++
          raised.text)

/- The result of a rule of an unknown type. -/
def unknownType (rule : RuleDefinition) (text : String) :
    RuleEvaluationResult :=
  errorResult rule
    ("Unknown evaluation type '" ++ text ++
      "' — rule cannot be evaluated")

end Rules

namespace RulesEngine

open Rules

/- The dispatch of a relational rule. -/
def evaluateRelational
    (engine : RulesEngine)
    (eventData : Dict)
    (rule : RuleDefinition)
    (tenantId : Option String)
    (relatedEvents : Option (List Dict))
    (name : String) :
    RuleEvaluationResult :=
  match engine.session with
  | none =>
      errorResult rule
        ("Relational rule '" ++ name ++
          "' requires a DB session")
  | some session =>
      let tenant := tenantId.getD ""
      if tenant = "" then
        errorResult rule
          ("Relational rule '" ++ name ++
            "' requires an authenticated tenant_id from " ++
            "request context")
      else
        caught rule
          (engine.evaluators.relational name eventData
            rule.evaluationLogic rule session tenant
            relatedEvents)

/- `_evaluate_single_rule`. -/
def evaluateSingleRule
    (engine : RulesEngine)
    (eventData : Dict)
    (tenantId : Option String)
    (relatedEvents : Option (List Dict))
    (rule : RuleDefinition) :
    Except Raised RuleEvaluationResult := do
  match ← evalType rule.evaluationLogic with
  | .named name =>
      if statelessTypes.contains name then
        return caught rule
          (engine.evaluators.stateless name eventData
            rule.evaluationLogic rule)
      else if relationalTypes.contains name then
        return engine.evaluateRelational eventData rule tenantId
          relatedEvents name
      else
        return unknownType rule name
  | .other text => return unknownType rule text

/- Whether a rule is relational, as the prefetch asks it. -/
def isRelational (rule : RuleDefinition) :
    Except Raised Bool := do
  match ← evalKey (Dict.get rule.evaluationLogic "type") with
  | .named name => return relationalTypes.contains name
  | .other _ => return false

/- `any(… in RELATIONAL_EVALUATORS for rule in rules)`. -/
def anyRelational : List RuleDefinition → Except Raised Bool
| [] => .ok false
| rule :: rest => do
    if ← isRelational rule then
      return true
    else
      anyRelational rest

/- `_prefetch_related_events`. -/
def prefetchRelatedEvents
    (engine : RulesEngine)
    (eventData : Dict)
    (applicable : List RuleDefinition)
    (tenantId : Option String) :
    Except Raised (Option (List Dict)) :=
  match engine.session with
  | none => .ok none
  | some session =>
      let tenant := tenantId.getD ""
      let tlc := Dict.get eventData "traceability_lot_code"
      if tenant = "" then
        .ok none
      else if tlc.truthy then do
        if ← anyRelational applicable then
          let eventId := textField eventData "event_id"
          let excluded :=
            if eventId = "" then none else some eventId
          match session.fetchRelatedEvents tlc tenant
              excluded with
          | .ok related => return some related
          | .error _ => return none
        else
          return none
      else
        .ok none

end RulesEngine

end RegEngine

--------
-- Summaries
--------

namespace RegEngine

open Python (Value Dict)

namespace EvaluationSummary

/- `_tally_result`. -/
def tallyResult
    (summary : EvaluationSummary)
    (result : RuleEvaluationResult) :
    EvaluationSummary :=
  let critical :=
    if result.severity = .critical then
      summary.criticalFailures ++ [result]
    else
      summary.criticalFailures
  match result.result with
  | .pass => { summary with passed := summary.passed + 1 }
  | .fail =>
      { summary with
        failed := summary.failed + 1
        criticalFailures := critical }
  | .warn => { summary with warned := summary.warned + 1 }
  | .error =>
      { summary with
        errored := summary.errored + 1
        criticalFailures := critical }
  | .notFtlScoped =>
      { summary with notFtlScoped := summary.notFtlScoped + 1 }
  | .skip => { summary with skipped := summary.skipped + 1 }

/- A result is added to the summary and tallied. -/
def add
    (summary : EvaluationSummary)
    (result : RuleEvaluationResult) :
    EvaluationSummary :=
  tallyResult
    { summary with results := summary.results ++ [result] }
    result

end EvaluationSummary

namespace Rules

/- A failed check of operational quality is a warning. -/
def demote (result : RuleEvaluationResult) :
    RuleEvaluationResult :=
  if result.result = .fail ∧ result.severity = .warning ∧
      result.category = "operational_quality" then
    { result with result := .warn }
  else
    result

/- Why no rule applies to an event. -/
def noVerdictReason (eventData : Dict) : String :=
  if Ftl.isFtlFood (.dict eventData) = some false then
    "not_ftl_scoped"
  else if Ftl.eventHasFtlHint (.dict eventData) then
    "no_rules_loaded"
  else
    "ftl_classification_missing"

end Rules

namespace RulesEngine

open Rules

/- `load_active_rules`. -/
def loadActiveRules (engine : RulesEngine) :
    Except Raised (List RuleDefinition) :=
  match engine.session with
  | none =>
      .error ⟨"AttributeError",
        "'NoneType' object has no attribute 'execute'"⟩
  | some session => session.activeRules

/- The rules in the cache, or those of the table. -/
def currentRules (engine : RulesEngine) :
    Except Raised (List RuleDefinition) :=
  match engine.freshRules with
  | some rules => .ok rules
  | none => engine.loadActiveRules

/- The loop over the applicable rules of an event. -/
def evaluateRules
    (engine : RulesEngine)
    (eventData : Dict)
    (tenantId : Option String)
    (relatedEvents : Option (List Dict))
    (summary : EvaluationSummary)
    (applicable : List RuleDefinition) :
    Except Raised EvaluationSummary :=
  applicable.foldlM (fun current rule => do
    let result ←
      engine.evaluateSingleRule eventData tenantId relatedEvents
        rule
    return current.add (demote result)) summary

def startSummary
    (eventData : Dict)
    (applicable : List RuleDefinition) :
    EvaluationSummary :=
  { eventId := textField eventData "event_id"
    totalRules := applicable.length }

/- `evaluate_event`, up to the writes. -/
def evaluateEvent
    (engine : RulesEngine)
    (eventData : Dict)
    (tenantId : Option String) :
    Except Raised EvaluationSummary := do
  let rules ← engine.currentRules
  let applicable ← applicableTo eventData rules
  let summary := startSummary eventData applicable
  if applicable.isEmpty then
    return { summary with
      noVerdictReason := some (noVerdictReason eventData) }
  else
    let related ←
      engine.prefetchRelatedEvents eventData applicable tenantId
    let evaluated ←
      engine.evaluateRules eventData tenantId related summary
        applicable
    if Ftl.isFtlFood (.dict eventData) = some false then
      return { evaluated with
        noVerdictReason := some "not_ftl_scoped" }
    else
      return evaluated

/- One event of `evaluate_events_batch`. -/
def evaluateInBatch
    (engine : RulesEngine)
    (rules : List RuleDefinition)
    (tenantId : String)
    (eventData : Dict) :
    Except Raised EvaluationSummary := do
  let applicable ← applicableTo eventData rules
  let summary := startSummary eventData applicable
  if applicable.isEmpty then
    return { summary with
      noVerdictReason := some (noVerdictReason eventData) }
  else
    let related ←
      engine.prefetchRelatedEvents eventData applicable
        (some tenantId)
    engine.evaluateRules eventData (some tenantId) related
      summary applicable

/- `evaluate_events_batch`, up to the writes. -/
def evaluateEventsBatch
    (engine : RulesEngine)
    (events : List Dict)
    (tenantId : String) :
    Except Raised (List EvaluationSummary) :=
  if tenantId = "" then
    .error ⟨"ValueError",
      "tenant_id is required for batch evaluation"⟩
  else do
    let rules ← engine.loadActiveRules
    events.mapM (engine.evaluateInBatch rules tenantId)

end RulesEngine

end RegEngine
