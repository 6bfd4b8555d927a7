import RegEngine.Shared.Rules.Evaluation

/-
  The verdict that exports read back from the stored rows of
  an event (`shared/rules/verdict.py`), and how it agrees with
  the verdict of the summary the rows come from.

  Main declarations:
    * `Verdicts.classifyEventVerdict`
    * `Verdicts.ReadBack`
    * `Verdicts.evaluateEvent_readBack`
-/

--------
-- Classification of Stored Rows
--------

namespace RegEngine

open Python (Value Dict)

namespace Verdicts

/- The status of an event in an export. -/
inductive Status where
  | pass
  | fail
  | evaluationError
  | noVerdict
  | noRulesEvaluated
  deriving DecidableEq

/- `EventVerdict`. -/
structure EventVerdict where
  status : Status
  reason : Option String := none
  failed : List Dict := []
  errored : List Dict := []

/- `rule_result_token`. -/
def ruleResultToken (ruleResult : Dict) : String :=
  let legacy :=
    if (Dict.get ruleResult "passed").truthy then "pass"
    else "fail"
  match Dict.get ruleResult "result" with
  | .str raw => if raw = "" then legacy else Python.lower raw
  | _ => legacy

/- `classify_event_verdict`. -/
def classifyEventVerdict
    (rows : List Dict)
    (evaluationVerdict noVerdictReason : Option String) :
    EventVerdict :=
  let failed :=
    rows.filter (fun row => ruleResultToken row == "fail")
  let errored :=
    rows.filter (fun row => ruleResultToken row == "error")
  let verdict := Python.lower (evaluationVerdict.getD "")
  if !failed.isEmpty then
    { status := .fail, failed := failed, errored := errored }
  else if !errored.isEmpty then
    { status := .evaluationError, errored := errored }
  else if verdict = "fail" then
    { status := .fail, reason := some "persisted_verdict_fail" }
  else if verdict = "no_verdict" then
    { status := .noVerdict
      reason :=
        some (Python.orElse noVerdictReason "unspecified") }
  else if rows.isEmpty then
    { status := .noRulesEvaluated }
  else if rows.any (fun row =>
      ["pass", "warn"].contains (ruleResultToken row)) then
    { status := .pass }
  else
    { status := .noVerdict, reason := some "all_rules_skipped" }

--------
-- The Rows of a Summary
--------

/-
  The outcomes that `fsma.rule_evaluations` admits; a row with
  another one stays in the dead letters.
-/
def storable (result : RuleEvaluationResult) : Bool :=
  result.result != .notFtlScoped

/- A stored row as the exports read it. -/
def rowDict (result : RuleEvaluationResult) : Dict :=
  [("rule_name", .str result.ruleTitle),
    ("result", .str result.result.text),
    ("passed", .bool
      (result.result != .fail && result.result != .error)),
    ("why_failed", Value.ofOption result.whyFailed)]

/- The rows that are stored for a summary. -/
def persistedRows (summary : EvaluationSummary) : List Dict :=
  (summary.results.filter storable).map rowDict

/- The status that is read back from the rows of a summary. -/
def readStatus (summary : EvaluationSummary) : Status :=
  (classifyEventVerdict (persistedRows summary)
    (some summary.verdict.text) summary.verdictReason).status

/- Some result of a summary has a given outcome. -/
def Has (summary : EvaluationSummary) (outcome : RuleResult) :
    Prop :=
  ∃ result ∈ summary.results, result.result = outcome

/-
  What is read back of a summary. A failed row reads as a
  failure whatever the verdict is, a crashed evaluator has a
  status of its own, and an event passes that has the verdict
  and a rule that passed or warned.
-/
structure ReadBack (summary : EvaluationSummary) : Prop where
  fail : readStatus summary = .fail ↔ Has summary .fail
  verdictFail :
    summary.verdict = .fail ↔
      summary.noVerdictReason = none ∧
        (readStatus summary = .fail ∨
          readStatus summary = .evaluationError)
  pass :
    readStatus summary = .pass → summary.verdict = .pass
  verdictPass :
    Has summary .pass ∨ Has summary .warn →
      summary.verdict = .pass → readStatus summary = .pass

theorem text_ne_empty
    (outcome : RuleResult) :
    outcome.text ≠ "" := by
  cases outcome <;> decide

/- The text of an outcome is in lower case. -/
theorem lower_text
    (outcome : RuleResult) :
    Python.lower outcome.text = outcome.text := by
  cases outcome <;> decide

/- The token of a row is the text of its outcome. -/
theorem ruleResultToken_rowDict
    (result : RuleEvaluationResult) :
    ruleResultToken (rowDict result) = result.result.text := by
  have hGet :
      Dict.get (rowDict result) "result" =
        .str result.result.text := by
    simp [rowDict, Dict.get]
  unfold ruleResultToken
  rw [hGet]
  dsimp only
  rw [if_neg (text_ne_empty _), lower_text]

variable {outcome : RuleResult}

/- The rows with the token of an outcome that is stored. -/
theorem filter_token
    (hOutcome : outcome ≠ .notFtlScoped)
    (summary : EvaluationSummary) :
    ((persistedRows summary).filter (fun row =>
        ruleResultToken row == outcome.text)).isEmpty =
      false ↔ Has summary outcome := by
  rw [Bool.eq_false_iff, ne_eq, List.isEmpty_iff,
    List.filter_eq_nil_iff]
  unfold persistedRows Has
  push Not
  constructor
  · rintro ⟨row, hRow, hToken⟩
    rcases List.mem_map.mp hRow with ⟨result, hResult, hDict⟩
    rw [← hDict, ruleResultToken_rowDict] at hToken
    refine ⟨result, (List.mem_filter.mp hResult).1, ?_⟩
    revert hToken
    cases result.result <;> cases outcome <;> decide
  · rintro ⟨result, hResult, hIs⟩
    refine ⟨rowDict result, List.mem_map_of_mem ?_, ?_⟩
    · rw [List.mem_filter]
      exact ⟨hResult, by simp [storable, hIs, hOutcome]⟩
    · rw [ruleResultToken_rowDict, hIs, beq_self_eq_true]

variable {summary : EvaluationSummary}

/- A failed row reads as a failure. -/
theorem readStatus_of_fail
    (hFail : Has summary .fail) :
    readStatus summary = .fail := by
  have hRows := (filter_token (by simp) summary).mpr hFail
  unfold readStatus classifyEventVerdict
  dsimp only
  rw [if_pos (by simpa [RuleResult.text] using hRows)]

/- A crashed evaluator reads as one. -/
theorem readStatus_of_error
    (hFail : ¬ Has summary .fail)
    (hError : Has summary .error) :
    readStatus summary = .evaluationError := by
  have hNone := (filter_token (by simp) summary).not.mpr hFail
  have hRows := (filter_token (by simp) summary).mpr hError
  unfold readStatus classifyEventVerdict
  dsimp only
  rw [if_neg (by simpa [RuleResult.text] using hNone),
    if_pos (by simpa [RuleResult.text] using hRows)]

/- Without these the verdict is read, and then the rows. -/
theorem readStatus_of_clean
    (hFail : ¬ Has summary .fail)
    (hError : ¬ Has summary .error) :
    readStatus summary =
      match summary.verdict with
      | .fail => .fail
      | .noVerdict => .noVerdict
      | .pass =>
          if (persistedRows summary).isEmpty then
            .noRulesEvaluated
          else if (persistedRows summary).any (fun row =>
              ["pass", "warn"].contains
                (ruleResultToken row)) then
            .pass
          else
            .noVerdict := by
  have hNone := (filter_token (by simp) summary).not.mpr hFail
  have hClean := (filter_token (by simp) summary).not.mpr hError
  unfold readStatus classifyEventVerdict
  dsimp only
  rw [if_neg (by simpa [RuleResult.text] using hNone),
    if_neg (by simpa [RuleResult.text] using hClean)]
  cases summary.verdict with
  | fail => rfl
  | noVerdict => rfl
  | pass =>
      rw [if_neg (by decide), if_neg (by decide)]
      split
      · rfl
      · split <;> rfl

--------
-- Agreement
--------

open RulesEngine (stamp evaluateEvent_getD evaluateEvent_eq
  evaluateInBatch_cases)

/- What the summary of an event is known to be. -/
structure Counted (summary : EvaluationSummary) : Prop where
  tallied : summary.Tallied
  total : summary.totalRules = summary.results.length
  reason : summary.noVerdictReason ≠ some ""

/- The summary of an event counts its results. -/
theorem evaluateEvent_counted
    {engine : RulesEngine}
    {eventData : Dict}
    {tenantId : Option String}
    (hSummary :
      engine.evaluateEvent eventData tenantId = .ok summary) :
    Counted summary := by
  have hRules : ∃ rules, engine.currentRules = .ok rules := by
    unfold RulesEngine.evaluateEvent at hSummary
    rcases Outcome.bind_eq_ok.mp hSummary with
      ⟨rules, hRules, -⟩
    exact ⟨rules, hRules⟩
  rcases hRules with ⟨rules, hRules⟩
  rw [evaluateEvent_getD, evaluateEvent_eq hRules] at hSummary
  rcases Outcome.map_eq_ok.mp hSummary with
    ⟨unstamped, hBatch, hStamp⟩
  have hCounted : Counted unstamped := by
    rcases evaluateInBatch_cases hBatch with
      ⟨applicable, -, hTotal, hTallied,
        ⟨hNil, hResults, hReason⟩ |
          ⟨-, hReason, related, hAll⟩⟩
    · refine ⟨hTallied, ?_, ?_⟩
      · rw [hTotal, hNil, hResults]
        rfl
      · rw [hReason, Rules.noVerdictReason]
        split
        · simp
        · split <;> simp
    · refine ⟨hTallied, ?_, ?_⟩
      · rw [hTotal]
        exact hAll.length_eq
      · rw [hReason]
        simp
  rw [← hStamp, stamp]
  split
  · refine ⟨⟨hCounted.tallied.failed, hCounted.tallied.errored,
      hCounted.tallied.notFtlScoped⟩, hCounted.total, ?_⟩
    simp
  · exact hCounted

/- A counter is positive when a result has its outcome. -/
theorem countOf_ne_zero
    (summary : EvaluationSummary)
    (outcome : RuleResult) :
    summary.countOf outcome ≠ 0 ↔ Has summary outcome := by
  unfold EvaluationSummary.countOf Has
  rw [← Nat.pos_iff_ne_zero, List.countP_pos_iff]
  simp

/- Some result is not scoped out. -/
theorem Counted.scoped_lt
    (hCounted : Counted summary)
    (hOutcome : outcome ≠ .notFtlScoped)
    (hHas : Has summary outcome) :
    summary.notFtlScoped < summary.totalRules := by
  rw [hCounted.tallied.notFtlScoped, hCounted.total]
  refine lt_of_le_of_ne List.countP_le_length ?_
  intro hAll
  rcases hHas with ⟨result, hResult, hIs⟩
  have hScoped := List.countP_eq_length.mp hAll result hResult
  rw [hIs] at hScoped
  exact hOutcome (by simpa using hScoped)

theorem Counted.verdict_eq_fail
    (hCounted : Counted summary) :
    summary.verdict = .fail ↔
      summary.noVerdictReason = none ∧
        (Has summary .fail ∨ Has summary .error) := by
  have hBad :
      (summary.failed == 0 && summary.errored == 0) = false ↔
        Has summary .fail ∨ Has summary .error := by
    rw [← countOf_ne_zero, ← countOf_ne_zero,
      ← hCounted.tallied.failed, ← hCounted.tallied.errored]
    simp only [Bool.and_eq_false_iff, beq_eq_false_iff_ne]
  have hReason :
      summary.hasNoVerdictReason = true ↔
        summary.noVerdictReason ≠ none := by
    have hText := hCounted.reason
    unfold EvaluationSummary.hasNoVerdictReason
    cases hValue : summary.noVerdictReason with
    | none => simp
    | some reason =>
        rw [hValue] at hText
        simpa using hText
  unfold EvaluationSummary.verdict EvaluationSummary.compliant
  constructor
  · intro hVerdict
    split at hVerdict
    · simp at hVerdict
    · rename_i hCompliant
      split at hCompliant
      · simp at hCompliant
      · split at hCompliant
        · simp at hCompliant
        · rename_i hNone
          split at hCompliant
          · simp at hCompliant
          · rw [Option.some.injEq, hBad] at hCompliant
            exact ⟨not_not.mp (hReason.not.mp hNone),
              hCompliant⟩
    · simp at hVerdict
  · rintro ⟨hNone, hSome⟩
    have hLess : summary.notFtlScoped < summary.totalRules := by
      rcases hSome with hFail | hError
      · exact hCounted.scoped_lt (by simp) hFail
      · exact hCounted.scoped_lt (by simp) hError
    rw [if_neg (by omega), if_neg (by simp [hReason, hNone]),
      if_neg (by omega), hBad.mpr hSome]

/- A counted summary that passes has no failure. -/
theorem Counted.clean_of_pass
    (hCounted : Counted summary)
    (hPass : summary.verdict = .pass) :
    ¬ Has summary .fail ∧ ¬ Has summary .error := by
  rw [← countOf_ne_zero, ← countOf_ne_zero,
    ← hCounted.tallied.failed, ← hCounted.tallied.errored]
  unfold EvaluationSummary.verdict EvaluationSummary.compliant
    at hPass
  split at hPass
  · rename_i hCompliant
    split at hCompliant
    · simp at hCompliant
    · split at hCompliant
      · simp at hCompliant
      · split at hCompliant
        · simp at hCompliant
        · simpa using hCompliant
  · simp at hPass
  · simp at hPass

/- A row that passed or warned is found. -/
theorem any_affirmative
    (hHas : Has summary .pass ∨ Has summary .warn) :
    (persistedRows summary).any (fun row =>
      ["pass", "warn"].contains (ruleResultToken row)) =
        true := by
  rw [List.any_eq_true]
  rcases hHas with ⟨result, hResult, hIs⟩ | ⟨result, hResult, hIs⟩
  all_goals
    refine ⟨rowDict result, ?_, ?_⟩
    · refine List.mem_map_of_mem (List.mem_filter.mpr ?_)
      exact ⟨hResult, by simp [storable, hIs]⟩
    · rw [ruleResultToken_rowDict, hIs]
      decide

/- Exports read back what a summary of an event says. -/
theorem evaluateEvent_readBack
    (engine : RulesEngine)
    (eventData : Dict)
    (tenantId : Option String)
    (summary : EvaluationSummary)
    (hSummary :
      engine.evaluateEvent eventData tenantId = .ok summary) :
    ReadBack summary := by
  have hCounted := evaluateEvent_counted hSummary
  have hVerdict := hCounted.verdict_eq_fail
  by_cases hFail : Has summary .fail
  · have hStatus := readStatus_of_fail hFail
    refine ⟨by simp [hStatus, hFail], ?_, by simp [hStatus], ?_⟩
    · rw [hVerdict, hStatus]
      simp [hFail]
    · intro _ hPass
      exact absurd hFail (hCounted.clean_of_pass hPass).1
  · by_cases hError : Has summary .error
    · have hStatus := readStatus_of_error hFail hError
      refine ⟨by simp [hStatus, hFail], ?_, by simp [hStatus], ?_⟩
      · rw [hVerdict, hStatus]
        simp [hError]
      · intro _ hPass
        exact absurd hError (hCounted.clean_of_pass hPass).2
    · have hStatus := readStatus_of_clean hFail hError
      have hNotFail : summary.verdict ≠ .fail := by
        rw [ne_eq, hVerdict]
        simp [hFail, hError]
      cases hCase : summary.verdict with
      | fail => exact absurd hCase hNotFail
      | noVerdict =>
          rw [hCase] at hStatus
          refine ⟨?_, ?_, ?_, ?_⟩ <;>
            simp [hStatus, hCase, hFail]
      | pass =>
          rw [hCase] at hStatus
          dsimp only at hStatus
          have hOther :
              readStatus summary ≠ .fail ∧
                readStatus summary ≠ .evaluationError := by
            rw [hStatus]
            split
            · simp
            · split <;> simp
          refine ⟨?_, ?_, fun _ => hCase, ?_⟩
          · simp [hOther.1, hFail]
          · simp [hOther.1, hOther.2, hCase]
          · intro hHas _
            have hAny := any_affirmative hHas
            rw [hStatus, if_neg ?_, if_pos hAny]
            intro hEmpty
            rw [List.isEmpty_iff.mp hEmpty] at hAny
            simp at hAny

/- The summary of an event whose only rule passes. -/
theorem evaluateEvent_readBack_passing :
    ∃ summary,
      RulesEngine.classificationEngine.evaluateEvent
          [("event_type", .str "receiving")]
          (some "tenant-1") = .ok summary ∧
        ReadBack summary ∧ summary.verdict = .pass ∧
        readStatus summary = .pass := by
  have hVerdicts :
      (RulesEngine.classificationEngine.evaluateEvent
          [("event_type", .str "receiving")]
          (some "tenant-1")).toOption.map (fun summary =>
            (summary.verdict, readStatus summary)) =
        some (.pass, .pass) := by
    decide
  cases hSummary :
      RulesEngine.classificationEngine.evaluateEvent
        [("event_type", .str "receiving")]
        (some "tenant-1") with
  | error raised =>
      rw [hSummary] at hVerdicts
      simp [Except.toOption] at hVerdicts
  | ok summary =>
      rw [hSummary] at hVerdicts
      simp only [Except.toOption, Option.map_some,
        Option.some.injEq, Prod.mk.injEq] at hVerdicts
      exact ⟨summary, rfl,
        evaluateEvent_readBack _ _ _ _ hSummary, hVerdicts.1,
        hVerdicts.2⟩

/- A rule whose type has a slip of the pen. -/
def misspeltEngine : RulesEngine where
  session := some
    ⟨.ok
      [{ RulesEngine.eventTypeRule with
        evaluationLogic := [("type", .str "field_presense")] }],
      fun _ _ _ => .ok []⟩
  freshRules := none
  evaluators := RulesEngine.passing

/- The status that is read back is the verdict. -/
def Agrees (summary : EvaluationSummary) : Prop :=
  (summary.verdict = .pass ↔ readStatus summary = .pass) ∧
    (summary.verdict = .fail ↔ readStatus summary = .fail)

/- Its event fails, and reads as an evaluator that crashed. -/
theorem not_agrees_misspelt :
    ∃ summary,
      misspeltEngine.evaluateEvent
          [("event_type", .str "receiving"),
            ("ftl_covered", .bool true)]
          (some "tenant-1") = .ok summary ∧
        ¬ Agrees summary := by
  have hVerdicts :
      (misspeltEngine.evaluateEvent
          [("event_type", .str "receiving"),
            ("ftl_covered", .bool true)]
          (some "tenant-1")).toOption.map (fun summary =>
            (summary.verdict, readStatus summary)) =
        some (.fail, .evaluationError) := by
    decide
  cases hSummary :
      misspeltEngine.evaluateEvent
        [("event_type", .str "receiving"),
          ("ftl_covered", .bool true)]
        (some "tenant-1") with
  | error raised =>
      rw [hSummary] at hVerdicts
      simp [Except.toOption] at hVerdicts
  | ok summary =>
      rw [hSummary] at hVerdicts
      simp only [Except.toOption, Option.map_some,
        Option.some.injEq, Prod.mk.injEq] at hVerdicts
      refine ⟨summary, rfl, ?_⟩
      intro hAgrees
      have hStatus := hAgrees.2.mp hVerdicts.1
      rw [hVerdicts.2] at hStatus
      simp at hStatus

end Verdicts

end RegEngine
