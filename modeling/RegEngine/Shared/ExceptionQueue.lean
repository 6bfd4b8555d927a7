import Mathlib.Data.List.Basic
import RegEngine.Library.Python
import RegEngine.Shared.Rules.Types

/-
  The exception cases of a tenant
  (`services/shared/exception_queue.py`), and the mirror of a
  remediation case on its exception
  (`ingestion/app/remediation/state.py`).

  Main declarations:
    * `ExceptionCase`
    * `ExceptionQueue.createException`
    * `ExceptionQueue.waiveException`
-/

--------
-- Exception Cases
--------

namespace RegEngine

/- The statuses of `fsma.exception_cases`. -/
inductive ExceptionStatus where
  | opened
  | inReview
  | awaitingSupplier
  | resolved
  | waived
  deriving DecidableEq, Repr

/- `fsma.exception_cases`, without its dates. -/
structure ExceptionCase where
  caseId : String
  severity : Severity
  status : ExceptionStatus
  linkedEventIds : List String
  linkedRuleEvaluationIds : List String
  ownerUserId : Option String
  sourceSupplier : Option String
  sourceFacilityReference : Option String
  ruleCategory : Option String
  recommendedRemediation : Option String
  resolutionSummary : Option String
  waiverReason : Option String
  waiverApprovedBy : Option String
  requestCaseId : Option String
  deriving DecidableEq

namespace ExceptionCase

/- `status IN ('resolved', 'waived')`. -/
def Cleared (exception : ExceptionCase) : Prop :=
  exception.status = .resolved ∨ exception.status = .waived

instance (exception : ExceptionCase) :
    Decidable exception.Cleared := by
  unfold Cleared
  infer_instance

end ExceptionCase

end RegEngine

--------
-- Creating Cases
--------

namespace RegEngine

namespace ExceptionQueue

/- The arguments of `create_exception`. -/
structure NewException where
  severity : Severity
  ruleCategory : Option String
  recommendedRemediation : Option String := none
  linkedEventIds : List String := []
  linkedRuleEvaluationIds : List String := []
  sourceSupplier : Option String := none
  sourceFacilityReference : Option String := none
  requestCaseId : Option String := none
  deriving DecidableEq

/- `create_exception`, with the `uuid4` it draws. -/
def createException
    (exceptions : List ExceptionCase)
    (caseId : String)
    (new : NewException) : List ExceptionCase :=
  exceptions ++
    [{ caseId := caseId
       severity := new.severity
       status := .opened
       linkedEventIds := new.linkedEventIds
       linkedRuleEvaluationIds := new.linkedRuleEvaluationIds
       ownerUserId := none
       sourceSupplier := new.sourceSupplier
       sourceFacilityReference := new.sourceFacilityReference
       ruleCategory := new.ruleCategory
       recommendedRemediation := new.recommendedRemediation
       resolutionSummary := none
       waiverReason := none
       waiverApprovedBy := none
       requestCaseId := new.requestCaseId }]

/- `_highest_severity`, of a group that is not empty. -/
def highestSeverity (severities : List Severity) : Severity :=
  if .critical ∈ severities then
    .critical
  else if .warning ∈ severities then
    .warning
  else
    .info

/- The suggestion for a failure, when it has one. -/
def remediationPart
    (failure : RuleEvaluationResult) : Option String :=
  match Python.orSome failure.remediationSuggestion
      failure.whyFailed with
  | none => none
  | some text =>
      if text = "" then
        none
      else
        some ("[" ++ failure.ruleTitle ++ "] " ++ text)

/- The suggestions of a group, a line each. -/
def recommendedRemediation
    (failures : List RuleEvaluationResult) : Option String :=
  match failures.filterMap remediationPart with
  | [] => none
  | parts => some ("\n".intercalate parts)

def ofCategory
    (failures : List (String × RuleEvaluationResult))
    (category : String) :
    List (String × RuleEvaluationResult) :=
  failures.filter (fun failure =>
    failure.2.category = category)

/- The case of the failures of a category. -/
def categoryException
    (eventId : String)
    (sourceSupplier sourceFacilityReference : Option String)
    (failures : List (String × RuleEvaluationResult))
    (category : String) : NewException :=
  let group := ofCategory failures category
  { severity := highestSeverity (group.map (·.2.severity))
    ruleCategory := some category
    recommendedRemediation :=
      recommendedRemediation (group.map (·.2))
    linkedEventIds := if eventId = "" then [] else [eventId]
    linkedRuleEvaluationIds := group.map (·.1)
    sourceSupplier := sourceSupplier
    sourceFacilityReference := sourceFacilityReference }

/- `result == "fail"`: an error makes no case. -/
def failuresOf
    (results : List (String × RuleEvaluationResult)) :
    List (String × RuleEvaluationResult) :=
  results.filter (fun evaluation =>
    evaluation.2.result = .fail)

/-
  `create_exceptions_from_evaluation`. A result comes with the
  id it is stored under, and `caseIds` stands for the `uuid4`
  of the case of a category.
-/
def createExceptionsFromEvaluation
    (exceptions : List ExceptionCase)
    (caseIds : String → String)
    (eventId : String)
    (results : List (String × RuleEvaluationResult))
    (sourceSupplier sourceFacilityReference : Option String) :
    List ExceptionCase :=
  let failures := failuresOf results
  let categories := (failures.map (·.2.category)).eraseDups
  categories.foldl (fun exceptions category =>
    createException exceptions (caseIds category)
      (categoryException eventId sourceSupplier
        sourceFacilityReference failures category)) exceptions

--------
-- Working on Cases
--------

/- `assign_owner`. -/
def assignOwner
    (exceptions : List ExceptionCase)
    (caseId ownerUserId : String) : List ExceptionCase :=
  exceptions.map (fun exception =>
    if exception.caseId = caseId then
      { exception with
        ownerUserId := some ownerUserId
        status :=
          if exception.status = .opened then
            .inReview
          else
            exception.status }
    else
      exception)

/-
  An update of the case with an id, unless the case is
  resolved or waived already.
-/
def settle
    (exceptions : List ExceptionCase)
    (caseId : String)
    (change : ExceptionCase → ExceptionCase) :
    List ExceptionCase :=
  exceptions.map (fun exception =>
    if exception.caseId = caseId ∧ ¬ exception.Cleared then
      change exception
    else
      exception)

/- `resolve_exception`. -/
def resolveException
    (exceptions : List ExceptionCase)
    (caseId resolutionSummary : String) :
    List ExceptionCase :=
  settle exceptions caseId (fun exception =>
    { exception with
      status := .resolved
      resolutionSummary := some resolutionSummary })

/- `waive_exception`. -/
def waiveException
    (exceptions : List ExceptionCase)
    (caseId waiverReason waiverApprovedBy : String) :
    List ExceptionCase :=
  settle exceptions caseId (fun exception =>
    { exception with
      status := .waived
      waiverReason := some waiverReason
      waiverApprovedBy := some waiverApprovedBy })

/- The values of `_EXCEPTION_MIRROR`. -/
inductive Mirrored where
  | awaitingSupplier
  | inReview
  deriving DecidableEq, Repr

/- The status that a remediation case is mirrored as. -/
def Mirrored.status : Mirrored → ExceptionStatus
| .awaitingSupplier => .awaitingSupplier
| .inReview => .inReview

/- `_mirror_update`. -/
def mirrorUpdate
    (exceptions : List ExceptionCase)
    (caseId : String)
    (mirrored : Mirrored) : List ExceptionCase :=
  settle exceptions caseId (fun exception =>
    { exception with status := mirrored.status })

--------
-- Progress
--------

/- A case later on: its links stay, and so does a verdict. -/
structure Continues (before after : ExceptionCase) : Prop where
  caseId : after.caseId = before.caseId
  severity : after.severity = before.severity
  events : after.linkedEventIds = before.linkedEventIds
  evaluations :
    after.linkedRuleEvaluationIds =
      before.linkedRuleEvaluationIds
  cleared : before.Cleared → after.Cleared

theorem Continues.refl (exception : ExceptionCase) :
    Continues exception exception :=
  ⟨rfl, rfl, rfl, rfl, id⟩

theorem Continues.trans
    {first second third : ExceptionCase}
    (hFirst : Continues first second)
    (hSecond : Continues second third) :
    Continues first third where
  caseId := hSecond.caseId.trans hFirst.caseId
  severity := hSecond.severity.trans hFirst.severity
  events := hSecond.events.trans hFirst.events
  evaluations := hSecond.evaluations.trans hFirst.evaluations
  cleared := fun hCleared =>
    hSecond.cleared (hFirst.cleared hCleared)

/-
  What an operation does to the cases: none is lost, and only
  a case whose id is among the settled ones gets cleared.
-/
structure Progress
    (settled : String → Prop)
    (before after : List ExceptionCase) : Prop where
  kept : ∀ x ∈ before, ∃ y ∈ after, Continues x y
  cleared :
    ∀ y ∈ after, y.Cleared →
      ∃ x ∈ before, Continues x y ∧
        (x.Cleared ∨ settled x.caseId)

theorem Progress.refl
    (settled : String → Prop)
    (exceptions : List ExceptionCase) :
    Progress settled exceptions exceptions where
  kept := fun x hMem => ⟨x, hMem, Continues.refl x⟩
  cleared := fun y hMem hCleared =>
    ⟨y, hMem, Continues.refl y, .inl hCleared⟩

/- Operations that clear nothing, one after the other. -/
theorem Progress.trans
    {first second third : List ExceptionCase}
    (hFirst : Progress (fun _ => False) first second)
    (hSecond : Progress (fun _ => False) second third) :
    Progress (fun _ => False) first third where
  kept := by
    intro x hMem
    rcases hFirst.kept x hMem with ⟨y, hMemY, hXY⟩
    rcases hSecond.kept y hMemY with ⟨z, hMemZ, hYZ⟩
    exact ⟨z, hMemZ, hXY.trans hYZ⟩
  cleared := by
    intro z hMem hCleared
    rcases hSecond.cleared z hMem hCleared with
      ⟨y, hMemY, hYZ, hClearedY⟩
    rcases hFirst.cleared y hMemY
        (hClearedY.resolve_right not_false) with
      ⟨x, hMemX, hXY, hClearedX⟩
    exact ⟨x, hMemX, hXY.trans hYZ, hClearedX⟩

/- An update row by row, each row being continued. -/
theorem progress_map
    (settled : String → Prop)
    (exceptions : List ExceptionCase)
    {change : ExceptionCase → ExceptionCase}
    (hContinues : ∀ x, Continues x (change x))
    (hCleared :
      ∀ x, (change x).Cleared → x.Cleared ∨ settled x.caseId) :
    Progress settled exceptions (exceptions.map change) where
  kept := fun x hMem =>
    ⟨change x, List.mem_map_of_mem hMem, hContinues x⟩
  cleared := by
    intro y hMem hClearedY
    rcases List.mem_map.mp hMem with ⟨x, hMemX, rfl⟩
    exact ⟨x, hMemX, hContinues x, hCleared x hClearedY⟩

theorem progress_createException
    (exceptions : List ExceptionCase)
    (caseId : String)
    (new : NewException) :
    Progress (fun _ => False) exceptions
      (createException exceptions caseId new) where
  kept := fun x hMem =>
    ⟨x, List.mem_append_left _ hMem, Continues.refl x⟩
  cleared := by
    intro y hMem hCleared
    rcases List.mem_append.mp hMem with hOld | hNew
    · exact ⟨y, hOld, Continues.refl y, .inl hCleared⟩
    · rw [List.mem_singleton] at hNew
      subst hNew
      simp [ExceptionCase.Cleared] at hCleared

theorem progress_assignOwner
    (exceptions : List ExceptionCase)
    (caseId ownerUserId : String) :
    Progress (fun _ => False) exceptions
      (assignOwner exceptions caseId ownerUserId) := by
  refine progress_map _ exceptions ?_ ?_
  · intro x
    by_cases hCase : x.caseId = caseId
    · rw [if_pos hCase]
      refine ⟨rfl, rfl, rfl, rfl, ?_⟩
      intro hCleared
      have hOpen : x.status ≠ .opened := by
        rcases hCleared with h | h <;> simp [h]
      simpa [ExceptionCase.Cleared, hOpen] using hCleared
    · rw [if_neg hCase]
      exact Continues.refl x
  · intro x hCleared
    refine .inl ?_
    by_cases hCase : x.caseId = caseId
    · rw [if_pos hCase] at hCleared
      by_cases hOpen : x.status = .opened
      · simp [ExceptionCase.Cleared, hOpen] at hCleared
      · simpa [ExceptionCase.Cleared, hOpen] using hCleared
    · rwa [if_neg hCase] at hCleared

/-
  A settled case is one with the given id; a change that gives
  no verdict settles none.
-/
theorem progress_settle
    (exceptions : List ExceptionCase)
    (caseId : String)
    (status : ExceptionStatus)
    {change : ExceptionCase → ExceptionCase}
    (hChange :
      ∀ x, (change x).caseId = x.caseId ∧
        (change x).severity = x.severity ∧
        (change x).linkedEventIds = x.linkedEventIds ∧
        (change x).linkedRuleEvaluationIds =
          x.linkedRuleEvaluationIds ∧
        (change x).status = status) :
    Progress
      (fun id => id = caseId ∧
        (status = .resolved ∨ status = .waived))
      exceptions (settle exceptions caseId change) := by
  refine progress_map _ exceptions ?_ ?_
  · intro x
    by_cases hCase : x.caseId = caseId ∧ ¬ x.Cleared
    · rw [if_pos hCase]
      rcases hChange x with ⟨hId, hSev, hEvents, hEvals, -⟩
      exact ⟨hId, hSev, hEvents, hEvals,
        fun hCleared => absurd hCleared hCase.2⟩
    · rw [if_neg hCase]
      exact Continues.refl x
  · intro x hCleared
    by_cases hCase : x.caseId = caseId ∧ ¬ x.Cleared
    · rw [if_pos hCase, ExceptionCase.Cleared,
        (hChange x).2.2.2.2] at hCleared
      exact .inr ⟨hCase.1, hCleared⟩
    · rw [if_neg hCase] at hCleared
      exact .inl hCleared

theorem progress_mirrorUpdate
    (exceptions : List ExceptionCase)
    (caseId : String)
    (mirrored : Mirrored) :
    Progress (fun _ => False) exceptions
      (mirrorUpdate exceptions caseId mirrored) := by
  have hProgress :
      Progress
        (fun id => id = caseId ∧
          (mirrored.status = .resolved ∨
            mirrored.status = .waived))
        exceptions (mirrorUpdate exceptions caseId mirrored) :=
    progress_settle exceptions caseId mirrored.status
      (fun _ => ⟨rfl, rfl, rfl, rfl, rfl⟩)
  refine ⟨hProgress.kept, ?_⟩
  intro y hMem hCleared
  rcases hProgress.cleared y hMem hCleared with
    ⟨x, hMemX, hXY, hX⟩
  refine ⟨x, hMemX, hXY, ?_⟩
  rcases hX with hX | ⟨-, hStatus⟩
  · exact .inl hX
  · cases mirrored <;> rcases hStatus with h | h <;> cases h

--------
-- Raised Cases
--------

/- Cases created one after the other. -/
theorem progress_foldl_createException
    (caseIds : String → String)
    (new : String → NewException)
    (categories : List String)
    (exceptions : List ExceptionCase) :
    Progress (fun _ => False) exceptions
      (categories.foldl (fun exceptions category =>
        createException exceptions (caseIds category)
          (new category)) exceptions) := by
  induction categories generalizing exceptions with
  | nil => exact Progress.refl _ exceptions
  | cons category rest ih =>
      exact (progress_createException exceptions _ _).trans
        (ih _)

/- The case of each category is among the created ones. -/
theorem exists_foldl_createException
    (caseIds : String → String)
    (new : String → NewException)
    {categories : List String}
    {category : String}
    (hMem : category ∈ categories)
    (exceptions : List ExceptionCase) :
    ∃ x ∈ categories.foldl (fun exceptions category =>
        createException exceptions (caseIds category)
          (new category)) exceptions,
      x.severity = (new category).severity ∧
      x.linkedEventIds = (new category).linkedEventIds ∧
      x.linkedRuleEvaluationIds =
        (new category).linkedRuleEvaluationIds := by
  induction categories generalizing exceptions with
  | nil => cases hMem
  | cons first rest ih =>
      rcases List.mem_cons.mp hMem with rfl | hRest
      · -- the new case is kept by the creations that follow
        have hNew :
            ∃ x ∈ createException exceptions
                (caseIds category) (new category),
              x.severity = (new category).severity ∧
              x.linkedEventIds =
                (new category).linkedEventIds ∧
              x.linkedRuleEvaluationIds =
                (new category).linkedRuleEvaluationIds :=
          ⟨_, List.mem_append_right _
            (List.mem_singleton_self _), rfl, rfl, rfl⟩
        rcases hNew with ⟨x, hMemX, hSev, hEvents, hEvals⟩
        rcases (progress_foldl_createException caseIds new rest
            _).kept x hMemX with ⟨y, hMemY, hXY⟩
        exact ⟨y, hMemY, hXY.severity.trans hSev,
          hXY.events.trans hEvents,
          hXY.evaluations.trans hEvals⟩
      · exact ih hRest _

/-
  A critical failure of an evaluation gets a critical case
  that names the event and the evaluation.
-/
theorem exists_raised
    (exceptions : List ExceptionCase)
    (caseIds : String → String)
    {eventId : String}
    (hEvent : eventId ≠ "")
    {results : List (String × RuleEvaluationResult)}
    (sourceSupplier sourceFacilityReference : Option String)
    {evaluation : String × RuleEvaluationResult}
    (hMem : evaluation ∈ results)
    (hFail : evaluation.2.result = .fail)
    (hCritical : evaluation.2.severity = .critical) :
    ∃ x ∈ createExceptionsFromEvaluation exceptions caseIds
        eventId results sourceSupplier
        sourceFacilityReference,
      x.severity = .critical ∧
      eventId ∈ x.linkedEventIds ∧
      evaluation.1 ∈ x.linkedRuleEvaluationIds := by
  have hFailure : evaluation ∈ failuresOf results := by
    simp [failuresOf, hMem, hFail]
  have hGroup :
      evaluation ∈ ofCategory (failuresOf results)
        evaluation.2.category := by
    simp [ofCategory, hFailure]
  have hCategory :
      evaluation.2.category ∈
        ((failuresOf results).map (·.2.category)).eraseDups := by
    rw [List.mem_eraseDups]
    exact List.mem_map_of_mem hFailure
  rcases exists_foldl_createException caseIds
      (categoryException eventId sourceSupplier
        sourceFacilityReference (failuresOf results))
      hCategory exceptions with
    ⟨x, hMemX, hSev, hEvents, hEvals⟩
  refine ⟨x, hMemX, ?_, ?_, ?_⟩
  · have hIn :
        Severity.critical ∈
          (ofCategory (failuresOf results)
            evaluation.2.category).map (·.2.severity) :=
      List.mem_map.mpr ⟨evaluation, hGroup, hCritical⟩
    rw [hSev]
    exact if_pos hIn
  · rw [hEvents]
    simp [categoryException, hEvent]
  · rw [hEvals]
    exact List.mem_map.mpr ⟨evaluation, hGroup, rfl⟩

end ExceptionQueue

end RegEngine
