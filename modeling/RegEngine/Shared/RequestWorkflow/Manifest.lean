import Mathlib.Data.List.Dedup
import RegEngine.Library.Value.Str
import RegEngine.Shared.RequestWorkflow.Workflow

/-
  The contents of a response package, and their comparison
  with the version before (`assemble_response_package` in
  `shared/request_workflow/assembly.py`, `_compute_diff` in
  `shared/request_workflow/utils.py`).

  The query selects the `case_id` of an exception case; the
  exception and waiver states read its `exception_id`.

  Main declarations:
    * `RequestWorkflow.packageContents`
    * `RequestWorkflow.computeDiff`
    * `RequestWorkflow.package_exact_iff`
-/

--------
-- Rows
--------

namespace RegEngine

namespace RequestWorkflow

open Python (Dict Reprs Value)

/- The texts of the column `status`. -/
def statusText : ExceptionStatus → String
| .opened => "open"
| .inReview => "in_review"
| .awaitingSupplier => "awaiting_supplier"
| .resolved => "resolved"
| .waived => "waived"

/- The texts of the column `severity`. -/
def severityText : Severity → String
| .critical => "critical"
| .warning => "warning"
| .info => "info"

/- A row of the exception query, without its dates. -/
def exceptionRow (exception : ExceptionCase) : Dict :=
  [("case_id", .str exception.caseId),
    ("severity", .str (severityText exception.severity)),
    ("status", .str (statusText exception.status)),
    ("source_supplier", .ofOption exception.sourceSupplier),
    ("source_facility_reference",
      .ofOption exception.sourceFacilityReference),
    ("rule_category", .ofOption exception.ruleCategory),
    ("recommended_remediation",
      .ofOption exception.recommendedRemediation),
    ("resolution_summary",
      .ofOption exception.resolutionSummary),
    ("waiver_reason", .ofOption exception.waiverReason),
    ("waiver_approved_by",
      .ofOption exception.waiverApprovedBy),
    ("owner_user_id", .ofOption exception.ownerUserId)]

/- The exception cases of a request and of its events. -/
def scopeExceptions
    (records : Records)
    (request : RequestCase) : List ExceptionCase :=
  records.exceptions.filter (fun exception =>
    concerns exception request.requestCaseId
      (getScopeEventIds records request.scope))

def ruleEvaluations
    (rules : List RuleDefinition)
    (records : Records)
    (eventIds : List String) :
    List (Evaluation × RuleDefinition) :=
  (records.evaluations.filter (fun evaluation =>
    decide (evaluation.eventId ∈ eventIds))).flatMap
      (fun evaluation =>
        (definitionsOf rules evaluation).map (fun rule =>
          (evaluation, rule)))

/- `e.get("status") in ("resolved", "waived")`. -/
def rowCleared (row : Dict) : Bool :=
  (row.get "status").isText "resolved" ||
    (row.get "status").isText "waived"

--------
-- Manifests
--------

/-
  `package_contents`. Left out are the tenant, the time, the
  hash, the gap analysis, and the states of the rules, the
  entities and the signoffs.
-/
structure Manifest where
  requestCaseId : String
  versionNumber : Nat
  generatedBy : Option String
  scopedEventIds : List String
  ruleEvaluationIds : List String
  exceptionState : Dict
  waiverState : List String
  scopeType : String
  scopeDescription : Option String
  scope : Scope
  eventIds : List String
  traceData : List EventRow
  ruleEvaluations : List (Evaluation × RuleDefinition)
  exceptionCases : List Dict
  summary : List (String × Nat)

/- `exception_state`. -/
def exceptionStateOf (r : Reprs) (rows : List Dict) : Dict :=
  rows.foldl
    (fun state row =>
      if (row.get "exception_id").truthy then
        state.set ((row.get "exception_id").toStr r)
          (.dict
            [("status", row.get "status"),
              ("resolution", row.get "resolution_summary")])
      else
        state)
    []

/- `waiver_state`. -/
def waiverStateOf (r : Reprs) (rows : List Dict) :
    List String :=
  (rows.filter (fun row =>
    (row.get "status").isText "waived")).map (fun row =>
      (row.get "exception_id").toStr r)

/- `sorted(ids)`. -/
def sortedIds (ids : List String) : List String :=
  ids.mergeSort (fun x y => x ≤ y)

/- The manifest that `assemble_response_package` builds. -/
def packageContents
    (r : Reprs)
    (rules : List RuleDefinition)
    (s : Workflow)
    (request : RequestCase)
    (generatedBy : Option String) : Manifest :=
  let ids := getScopeEventIds s.records request.scope
  let events := eventsData s.records ids
  let evaluations := ruleEvaluations rules s.records ids
  let rows :=
    (scopeExceptions s.records request).map exceptionRow
  { requestCaseId := request.requestCaseId
    versionNumber := maxVersion s.packages + 1
    generatedBy := generatedBy
    scopedEventIds := sortedIds ids
    ruleEvaluationIds :=
      sortedIds (evaluations.map (·.1.evaluationId))
    exceptionState := exceptionStateOf r rows
    waiverState := waiverStateOf r rows
    scopeType := request.scopeType
    scopeDescription := request.scopeDescription
    scope := request.scope
    eventIds := sortedIds ids
    traceData := events
    ruleEvaluations := evaluations
    exceptionCases := rows
    summary :=
      [("total_events", events.length),
        ("total_rule_evaluations", evaluations.length),
        ("failed_evaluations",
          evaluations.countP (·.1.result = .fail)),
        ("warned_evaluations",
          evaluations.countP (·.1.result = .warn)),
        ("total_exceptions", rows.length),
        ("open_exceptions",
          rows.countP (fun row => !rowCleared row))] }

/- The stored package has the counts of its manifest. -/
theorem packages_assembleResponsePackage
    (r : Reprs)
    (rules : List RuleDefinition)
    (s : Workflow)
    (packageId : String)
    (generatedBy : Option String)
    (fault : Fault) :
    ∀ package ∈
        (assembleResponsePackage s packageId generatedBy
          fault).1.packages,
      package ∈ s.packages ∨
        ∃ request, s.request = some request ∧
          package.versionNumber =
            (packageContents r rules s request
              generatedBy).versionNumber ∧
          package.totalEvents =
            (packageContents r rules s request
              generatedBy).traceData.length := by
  intro package hMem
  unfold assembleResponsePackage inStages at hMem
  cases hRequest : s.request with
  | none =>
      rw [hRequest] at hMem
      exact .inl hMem
  | some request =>
      simp only [hRequest] at hMem
      split at hMem
      · split at hMem
        · exact .inl hMem
        · cases fault with
          | beforeCommit => exact .inl hMem
          | clean | afterCommit =>
              rcases List.mem_append.mp hMem with hOld | hNew
              · exact .inl hOld
              · cases List.mem_singleton.mp hNew
                exact .inr ⟨request, rfl, rfl, rfl⟩
      · exact .inl hMem

--------
-- Exact Manifests
--------

/- The manifest lists the cases and the events of the scope. -/
structure ManifestExact
    (records : Records)
    (request : RequestCase)
    (manifest : Manifest) : Prop where
  exceptions :
    (manifest.exceptionState.map (·.1)).Perm
      ((scopeExceptions records request).map (·.caseId))
  waived :
    manifest.waiverState.Perm
      (((scopeExceptions records request).filter
        (·.status = .waived)).map (·.caseId))
  events :
    ∀ id, id ∈ manifest.scopedEventIds ↔
      id ∈ manifest.traceData.map (·.eventId)

theorem mem_sortedIds {ids : List String} {id : String} :
    id ∈ sortedIds ids ↔ id ∈ ids :=
  (List.mergeSort_perm _ _).mem_iff

/- No row has the key that the states are built by. -/
theorem exceptionId_exceptionRow (exception : ExceptionCase) :
    (exceptionRow exception).get "exception_id" = .none :=
  rfl

theorem exceptionStateOf_exceptionRows
    (r : Reprs)
    (exceptions : List ExceptionCase) :
    exceptionStateOf r (exceptions.map exceptionRow) = [] := by
  unfold exceptionStateOf
  induction exceptions with
  | nil => rfl
  | cons exception rest ih =>
      rw [List.map_cons, List.foldl_cons,
        exceptionId_exceptionRow]
      exact ih

/- The traced events are the events of the scope. -/
theorem mem_eventsData_iff
    (records : Records)
    (scope : Scope)
    (id : String) :
    id ∈ (eventsData records
        (getScopeEventIds records scope)).map (·.eventId) ↔
      id ∈ getScopeEventIds records scope := by
  constructor
  · intro hTraced
    rcases List.mem_map.mp hTraced with ⟨event, hEvent, rfl⟩
    have hKept := (List.mem_filter.mp hEvent).2
    rw [Bool.and_eq_true, decide_eq_true_eq] at hKept
    exact hKept.1
  · intro hId
    rcases List.mem_map.mp hId with ⟨event, hEvent, rfl⟩
    rcases List.mem_filter.mp hEvent with ⟨hMem, hScope⟩
    have hActive : event.active = true := by
      simp only [inScope, Bool.and_eq_true] at hScope
      exact hScope.1.1.1
    refine List.mem_map.mpr ⟨event, ?_, rfl⟩
    exact List.mem_filter.mpr ⟨hMem, by simp [hId, hActive]⟩

/- A manifest is exact when its scope has no exception case. -/
theorem manifestExact_iff
    (r : Reprs)
    (rules : List RuleDefinition)
    (s : Workflow)
    (request : RequestCase)
    (generatedBy : Option String) :
    ManifestExact s.records request
        (packageContents r rules s request generatedBy) ↔
      scopeExceptions s.records request = [] := by
  constructor
  · intro hExact
    have hCases := hExact.exceptions
    rw [packageContents, exceptionStateOf_exceptionRows]
      at hCases
    exact List.map_eq_nil_iff.mp hCases.nil_eq.symm
  · intro hNone
    refine ⟨?_, ?_, fun id => ?_⟩
    · rw [packageContents, hNone]
      exact .nil
    · rw [packageContents, hNone]
      exact .nil
    · exact mem_sortedIds.trans
        (mem_eventsData_iff s.records request.scope id).symm

--------
-- Differences
--------

/- `str(e.get("case_id", ""))`. -/
def rowCaseId (r : Reprs) (row : Dict) : String :=
  if row.has "case_id" then (row.get "case_id").toStr r
  else ""

def caseIds (r : Reprs) (manifest : Manifest) : List String :=
  manifest.exceptionCases.map (rowCaseId r)

/- `sorted(set(ids) - set(others))`. -/
def sortedDifference (ids others : List String) :
    List String :=
  sortedIds (ids.filter (fun id => decide (id ∉ others))).dedup

theorem mem_sortedDifference
    {ids others : List String}
    {id : String} :
    id ∈ sortedDifference ids others ↔
      id ∈ ids ∧ id ∉ others := by
  rw [sortedDifference, mem_sortedIds, List.mem_dedup,
    List.mem_filter, decide_eq_true_eq]

/- What `_compute_diff` returns, without the prior hash. -/
structure PackageDiff where
  priorVersion : Nat
  eventsAdded : List String
  eventsRemoved : List String
  exceptionsAdded : List String
  exceptionsResolved : List String
  summaryChanges : List (String × Option Nat × Option Nat)

/- `_compute_diff`, of a prior version that is found. -/
def computeDiff
    (r : Reprs)
    (priorVersion : Nat)
    (prior new : Manifest) : PackageDiff :=
  { priorVersion := priorVersion
    eventsAdded := sortedDifference new.eventIds prior.eventIds
    eventsRemoved :=
      sortedDifference prior.eventIds new.eventIds
    exceptionsAdded :=
      sortedDifference (caseIds r new) (caseIds r prior)
    exceptionsResolved :=
      sortedDifference (caseIds r prior) (caseIds r new)
    summaryChanges :=
      (((prior.summary ++ new.summary).map (·.1)).dedup.map
        (fun key =>
          (key, prior.summary.lookup key,
            new.summary.lookup key))).filter
              (fun change => change.2.1 ≠ change.2.2) }

/- A case that the manifest lists as open. -/
def OpenIn (r : Reprs) (manifest : Manifest) (id : String) :
    Prop :=
  ∃ row ∈ manifest.exceptionCases,
    rowCaseId r row = id ∧ rowCleared row = false

/- A case that the manifest lists as resolved or waived. -/
def ClearedIn (r : Reprs) (manifest : Manifest) (id : String) :
    Prop :=
  ∃ row ∈ manifest.exceptionCases,
    rowCaseId r row = id ∧ rowCleared row = true

/- The difference leads from the one manifest to the other. -/
structure DiffExact
    (r : Reprs)
    (prior new : Manifest)
    (diff : PackageDiff) : Prop where
  events :
    ∀ id, id ∈ new.eventIds ↔
      (id ∈ prior.eventIds ∧ id ∉ diff.eventsRemoved) ∨
        id ∈ diff.eventsAdded
  resolved :
    ∀ id, id ∈ diff.exceptionsResolved ↔
      OpenIn r prior id ∧ ClearedIn r new id

theorem ClearedIn.mem
    {r : Reprs}
    {manifest : Manifest}
    {id : String}
    (hCleared : ClearedIn r manifest id) :
    id ∈ caseIds r manifest := by
  rcases hCleared with ⟨row, hMem, hId, -⟩
  exact List.mem_map.mpr ⟨row, hMem, hId⟩

/-
  The resolved cases of a difference are those that have left
  the list: they are the cleared ones when there are neither.
-/
theorem diffExact_iff
    (r : Reprs)
    (priorVersion : Nat)
    (prior new : Manifest) :
    DiffExact r prior new
        (computeDiff r priorVersion prior new) ↔
      (∀ id ∈ caseIds r prior, id ∈ caseIds r new) ∧
        ∀ id, OpenIn r prior id → ¬ ClearedIn r new id := by
  constructor
  · intro hExact
    refine ⟨fun id hPrior => ?_, fun id hOpen hCleared => ?_⟩
    · by_contra hNew
      have hResolved :=
        (hExact.resolved id).mp
          (mem_sortedDifference.mpr ⟨hPrior, hNew⟩)
      exact hNew hResolved.2.mem
    · have hResolved :=
        (hExact.resolved id).mpr ⟨hOpen, hCleared⟩
      exact (mem_sortedDifference.mp hResolved).2 hCleared.mem
  · rintro ⟨hKept, hSettled⟩
    refine ⟨fun id => ?_, fun id => ?_⟩
    · simp only [computeDiff, mem_sortedDifference]
      tauto
    · constructor
      · intro hResolved
        rcases mem_sortedDifference.mp hResolved with
          ⟨hPrior, hNew⟩
        exact absurd (hKept id hPrior) hNew
      · rintro ⟨hOpen, hCleared⟩
        exact absurd hCleared (hSettled id hOpen)

/-
  A manifest is exact when its scope has no exception case,
  and a difference when no case leaves the list or is cleared.
-/
theorem package_exact_iff
    (r : Reprs)
    (rules : List RuleDefinition)
    (s : Workflow)
    (request : RequestCase)
    (generatedBy : Option String)
    (priorVersion : Nat)
    (prior new : Manifest) :
    (ManifestExact s.records request
        (packageContents r rules s request generatedBy) ↔
      scopeExceptions s.records request = []) ∧
    (DiffExact r prior new
        (computeDiff r priorVersion prior new) ↔
      (∀ id ∈ caseIds r prior, id ∈ caseIds r new) ∧
        ∀ id, OpenIn r prior id → ¬ ClearedIn r new id) :=
  ⟨manifestExact_iff r rules s request generatedBy,
    diffExact_iff r priorVersion prior new⟩

/- A request without a scope, in triage. -/
def triageRequest : RequestCase :=
  { requestCaseId := "c"
    requestingParty := none
    requestChannel := "email"
    scopeType := "custom"
    scopeDescription := none
    scope :=
      { affectedProducts := []
        affectedLots := []
        affectedFacilities := [] }
    packageStatus := .exceptionTriage
    reviewer := none
    finalApprover := none
    submissionTimestamp := none
    submissionNotes := none
    activeExceptionCount := 1
    totalRecords := 0
    gapCount := 0 }

/- The state with one exception case of the request. -/
def triaged (status : ExceptionStatus) : Workflow :=
  { start with
    request := some triageRequest
    records :=
      { start.records with
        exceptions :=
          [{ caseId := "x"
             severity := .critical
             status := status
             linkedEventIds := []
             linkedRuleEvaluationIds := []
             ownerUserId := none
             sourceSupplier := none
             sourceFacilityReference := none
             ruleCategory := none
             recommendedRemediation := none
             resolutionSummary := none
             waiverReason := none
             waiverApprovedBy := none
             requestCaseId := some "c" }] } }

def triagePackage (r : Reprs) (status : ExceptionStatus) :
    Manifest :=
  packageContents r [] (triaged status) triageRequest none

/-
  A waived case is missing in the states of its package, and a
  case that is waived between two packages is not reported.
-/
theorem not_package_exact_waived :
    let r : Reprs := ⟨fun _ => true, (·.text)⟩
    ¬ ManifestExact (triaged .waived).records triageRequest
        (triagePackage r .waived) ∧
      ¬ DiffExact r (triagePackage r .opened)
        (triagePackage r .waived)
        (computeDiff r 1 (triagePackage r .opened)
          (triagePackage r .waived)) := by
  intro r
  refine ⟨fun hExact => ?_, fun hExact => ?_⟩
  · have hNone := (manifestExact_iff _ _ _ _ _).mp hExact
    cases hNone
  · refine ((diffExact_iff _ _ _ _).mp hExact).2 "x" ?_ ?_
    · exact ⟨_, List.mem_singleton_self _, rfl, rfl⟩
    · exact ⟨_, List.mem_singleton_self _, rfl, rfl⟩

end RequestWorkflow

end RegEngine
