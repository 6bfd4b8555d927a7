import RegEngine.Library.Machine
import RegEngine.Shared.RequestWorkflow.BlockingDefects

/-
  The request cases of the FDA workflow
  (`services/shared/request_workflow`): intake, collection,
  assembly, signoffs, submission and amendment of one case,
  next to the writers of the records that the checks read.

  Every operation commits its own writes. A fault says where
  an operation breaks off: before a commit, whose writes are
  then rolled back, or after it. The clock counts operations.

  Main declarations:
    * `RequestWorkflow.Workflow`
    * `RequestWorkflow.createAmendment`
    * `RequestWorkflow.step`
-/

--------
-- State
--------

namespace RegEngine

namespace RequestWorkflow

/- `WORKFLOW_STAGES`. -/
inductive Stage where
  | intake
  | scoping
  | collecting
  | gapAnalysis
  | exceptionTriage
  | assembling
  | internalReview
  | ready
  | submitted
  | amended
  deriving DecidableEq, Repr

/- `fsma.request_cases`, without its due and audit dates. -/
structure RequestCase where
  requestCaseId : String
  requestingParty : Option String
  requestChannel : String
  scopeType : String
  scopeDescription : Option String
  scope : Scope
  packageStatus : Stage
  reviewer : Option String
  finalApprover : Option String
  submissionTimestamp : Option Int
  submissionNotes : Option String
  activeExceptionCount : Nat
  totalRecords : Nat
  gapCount : Nat
  deriving DecidableEq, Repr

/-
  `fsma.response_packages`. Of the contents it has the number
  of events, which a submission reads.
-/
structure Package where
  packageId : String
  versionNumber : Nat
  totalEvents : Nat
  generatedAt : Int
  generatedBy : Option String
  deriving DecidableEq, Repr

/- `fsma.request_signoffs`. -/
structure Signoff where
  signoffType : SignoffType
  signedBy : String
  signedAt : Int
  notes : Option String
  deriving DecidableEq, Repr

/- `fsma.submission_log`. -/
structure Submission where
  packageId : String
  submissionType : String
  submittedTo : String
  submittedBy : String
  submissionMethod : String
  submissionNotes : Option String
  recordCount : Nat
  submittedAt : Int
  deriving DecidableEq, Repr

/- A case with its rows, and the records of its tenant. -/
structure Workflow where
  records : Records
  request : Option RequestCase
  packages : List Package
  signoffs : List Signoff
  submissionLog : List Submission
  clock : Int

/- Why an operation raises. -/
inductive WorkflowError where
  | invalidArgument
  | notFound
  | wrongStatus (status : Stage)
  | blocked (blockers : List Blocker)
  | packageNotFound
  | integrityError
  | fault
  deriving DecidableEq

/- Where an operation breaks off, if it does. -/
inductive Fault where
  | clean
  | beforeCommit
  | afterCommit
  deriving DecidableEq, Repr

/- The state an operation leaves, and how it raises. -/
abbrev Result := Workflow × Option WorkflowError

/- The writes of an operation and its `_safe_commit`. -/
def commit (fault : Fault) (s s' : Workflow) : Result :=
  match fault with
  | .clean => (s', none)
  | .beforeCommit => (s, some .fault)
  | .afterCommit => (s', some .fault)

/- `_get_case`, and the check of the stage that follows it. -/
def inStages
    (s : Workflow)
    (allowed : List Stage)
    (operation : RequestCase → Result) : Result :=
  match s.request with
  | none => (s, some .notFound)
  | some request =>
      if request.packageStatus ∈ allowed then
        operation request
      else
        (s, some (.wrongStatus request.packageStatus))

--------
-- Intake
--------

/- `VALID_REQUEST_CHANNELS`. -/
def validRequestChannels : List String :=
  ["email", "phone", "portal", "letter", "drill", "other"]

/- `VALID_SCOPE_TYPES`. -/
def validScopeTypes : List String :=
  ["tlc_trace", "product_recall", "facility_audit",
    "date_range", "custom"]

/- The arguments of `create_request_case`. -/
structure NewRequest where
  requestingParty : String := "FDA"
  requestChannel : String := "email"
  scopeType : String := "tlc_trace"
  scopeDescription : Option String := none
  affectedProducts : List String := []
  affectedLots : List String := []
  affectedFacilities : List String := []
  reviewer : Option String := none
  finalApprover : Option String := none
  deriving DecidableEq, Repr

/- `create_request_case`, with the `uuid4` it draws. -/
def createRequestCase
    (s : Workflow)
    (requestCaseId : String)
    (new : NewRequest)
    (fault : Fault) : Result :=
  if new.requestChannel ∉ validRequestChannels then
    (s, some .invalidArgument)
  else if new.scopeType ∉ validScopeTypes then
    (s, some .invalidArgument)
  else if s.request.isSome then
    (s, some .integrityError)
  else
    commit fault s
      { s with
        request :=
          some
            { requestCaseId := requestCaseId
              requestingParty := some new.requestingParty
              requestChannel := new.requestChannel
              scopeType := new.scopeType
              scopeDescription := new.scopeDescription
              scope :=
                { affectedProducts := new.affectedProducts
                  affectedLots := new.affectedLots
                  affectedFacilities :=
                    new.affectedFacilities }
              packageStatus := .intake
              reviewer := new.reviewer
              finalApprover := new.finalApprover
              submissionTimestamp := none
              submissionNotes := none
              activeExceptionCount := 0
              totalRecords := 0
              gapCount := 0 } }

/- The arguments of `update_scope`. -/
structure ScopeUpdate where
  affectedProducts : Option (List String) := none
  affectedLots : Option (List String) := none
  affectedFacilities : Option (List String) := none
  scopeType : Option String := none
  scopeDescription : Option String := none
  deriving DecidableEq, Repr

/-
  `update_scope`. An empty scope type passes the check of the
  argument, and then the constraint of the column refuses it.
-/
def updateScope
    (s : Workflow)
    (update : ScopeUpdate)
    (fault : Fault) : Result :=
  if ∃ scopeType ∈ update.scopeType,
      scopeType ≠ "" ∧ scopeType ∉ validScopeTypes then
    (s, some .invalidArgument)
  else
    inStages s [.intake, .scoping] (fun request =>
      if update.scopeType = some "" then
        (s, some .integrityError)
      else
        commit fault s
          { s with
            request :=
              some
                { request with
                  packageStatus := .scoping
                  scope :=
                    { affectedProducts :=
                        update.affectedProducts.getD
                          request.scope.affectedProducts
                      affectedLots :=
                        update.affectedLots.getD
                          request.scope.affectedLots
                      affectedFacilities :=
                        update.affectedFacilities.getD
                          request.scope.affectedFacilities }
                  scopeType :=
                    update.scopeType.getD request.scopeType
                  scopeDescription :=
                    update.scopeDescription.or
                      request.scopeDescription } })

--------
-- Collection
--------

/- `collect_records`. -/
def collectRecords (s : Workflow) (fault : Fault) : Result :=
  inStages s [.scoping, .collecting] (fun request =>
    commit fault s
      { s with
        request :=
          some
            { request with
              packageStatus := .collecting
              totalRecords :=
                (getScopeEventIds s.records
                  request.scope).length } })

/- Events of the scope without any rule evaluation. -/
def missingEvaluations
    (records : Records)
    (eventIds : List String) : List String :=
  eventIds.filter (fun eventId =>
    !records.evaluations.any (fun evaluation =>
      evaluation.eventId == eventId))

/- The failed and warned evaluations of the scope. -/
def failedRules
    (rules : List RuleDefinition)
    (records : Records)
    (eventIds : List String) :
    List (Evaluation × RuleDefinition) :=
  records.evaluations.flatMap (fun evaluation =>
    ((definitionsOf rules evaluation).filter (fun _ =>
      decide (evaluation.eventId ∈ eventIds) &&
      (decide (evaluation.result = .fail) ||
        decide (evaluation.result = .warn)))).map
        (fun rule => (evaluation, rule)))

/- The open cases of the request or of one of its events. -/
def unresolvedExceptions
    (records : Records)
    (requestCaseId : String)
    (eventIds : List String) : List ExceptionCase :=
  records.exceptions.filter (fun exception =>
    concerns exception requestCaseId eventIds &&
    !decide exception.Cleared)

/- `run_gap_analysis`. -/
def runGapAnalysis
    (rules : List RuleDefinition)
    (s : Workflow)
    (fault : Fault) : Result :=
  inStages s [.collecting, .gapAnalysis] (fun request =>
    let eventIds := getScopeEventIds s.records request.scope
    let unresolved :=
      unresolvedExceptions s.records request.requestCaseId
        eventIds
    commit fault s
      { s with
        request :=
          some
            { request with
              packageStatus := .gapAnalysis
              gapCount :=
                (missingEvaluations s.records
                    eventIds).length +
                  (failedRules rules s.records
                    eventIds).length +
                  unresolved.length
              activeExceptionCount := unresolved.length } })

--------
-- Assembly and Signoffs
--------

/- `COALESCE(MAX(version_number), 0)`. -/
def maxVersion (packages : List Package) : Nat :=
  (packages.map (·.versionNumber)).foldl max 0

/- The events of the scope that a package holds. -/
def eventsData
    (records : Records)
    (eventIds : List String) : List EventRow :=
  records.events.filter (fun event =>
    decide (event.eventId ∈ eventIds) && event.active)

/- The stages that a package can be assembled in. -/
def assemblyStages : List Stage :=
  [.gapAnalysis, .exceptionTriage, .assembling,
    .internalReview]

/-
  `assemble_response_package`, with the `uuid4` it draws. The
  contents of a package other than its events are left out.
-/
def assembleResponsePackage
    (s : Workflow)
    (packageId : String)
    (generatedBy : Option String)
    (fault : Fault) : Result :=
  inStages s assemblyStages (fun request =>
    let events :=
      eventsData s.records
        (getScopeEventIds s.records request.scope)
    if packageId ∈ s.packages.map (·.packageId) then
      (s, some .integrityError)
    else
      commit fault s
        { s with
          packages :=
            s.packages ++
              [{ packageId := packageId
                 versionNumber := maxVersion s.packages + 1
                 totalEvents := events.length
                 generatedAt := s.clock
                 generatedBy := generatedBy }]
          request :=
            some
              { request with
                packageStatus := .assembling
                totalRecords := events.length } })

/- The stage that a signoff advances the case to. -/
def statusTransition : SignoffType → Stage
| .scopeApproval => .exceptionTriage
| .packageReview => .internalReview
| .finalApproval => .ready
| .submissionAuthorization => .ready

/- `ON CONFLICT (..., signoff_type) DO NOTHING`. -/
def insertSignoff
    (signoffs : List Signoff)
    (signoff : Signoff) : List Signoff :=
  if signoff.signoffType ∈ signoffs.map (·.signoffType) then
    signoffs
  else
    signoffs ++ [signoff]

/- `add_signoff`: it is allowed in every stage. -/
def addSignoff
    (s : Workflow)
    (signoffType : SignoffType)
    (signedBy : String)
    (notes : Option String)
    (fault : Fault) : Result :=
  match s.request with
  | none => (s, some .notFound)
  | some request =>
      commit fault s
        { s with
          signoffs :=
            insertSignoff s.signoffs
              { signoffType := signoffType
                signedBy := signedBy
                signedAt := s.clock
                notes := notes }
          request :=
            some
              { request with
                packageStatus := statusTransition signoffType
                reviewer :=
                  if signoffType = .packageReview then
                    some signedBy
                  else
                    request.reviewer
                finalApprover :=
                  if signoffType = .finalApproval then
                    some signedBy
                  else
                    request.finalApprover } }

--------
-- Submission and Amendment
--------

/- `VALID_SUBMISSION_TYPES`. -/
def validSubmissionTypes : List String :=
  ["initial", "amendment", "supplement", "correction"]

/- `VALID_SUBMISSION_METHODS`. -/
def validSubmissionMethods : List String :=
  ["export", "email", "portal", "mail", "other"]

/- The arguments of `submit_package`. -/
structure NewSubmission where
  packageId : String
  submittedBy : String
  submittedTo : Option String := none
  submissionMethod : String := "export"
  submissionNotes : Option String := none
  submissionType : String := "initial"
  force : Bool := false
  deriving DecidableEq, Repr

/- `check_blocking_defects`, called on the case of a state. -/
def Workflow.gate
    (rules : List RuleDefinition)
    (s : Workflow)
    (request : RequestCase)
    (faults : GateFaults) : DefectCheck :=
  checkBlockingDefects rules s.records request.requestCaseId
    request.scope (s.signoffs.map (·.signoffType)) faults

/- `submit_package`. -/
def submitPackage
    (rules : List RuleDefinition)
    (s : Workflow)
    (new : NewSubmission)
    (gateFaults : GateFaults)
    (fault : Fault) : Result :=
  if new.submissionType ∉ validSubmissionTypes then
    (s, some .invalidArgument)
  else if new.submissionMethod ∉ validSubmissionMethods then
    (s, some .invalidArgument)
  else
    inStages s [.ready, .submitted, .amended] (fun request =>
      let check := s.gate rules request gateFaults
      if check.canSubmit = false ∧ new.force = false then
        (s, some (.blocked check.blockers))
      else
        match s.packages.find? (fun package =>
            package.packageId = new.packageId) with
        | none => (s, some .packageNotFound)
        | some package =>
            commit fault s
              { s with
                submissionLog :=
                  s.submissionLog ++
                    [{ packageId := new.packageId
                       submissionType := new.submissionType
                       submittedTo :=
                         Python.orElse new.submittedTo
                           (Python.orElse
                             request.requestingParty "FDA")
                       submittedBy := new.submittedBy
                       submissionMethod :=
                         new.submissionMethod
                       submissionNotes := new.submissionNotes
                       recordCount := package.totalEvents
                       submittedAt := s.clock }]
                request :=
                  some
                    { request with
                      packageStatus := .submitted
                      submissionTimestamp := some s.clock
                      submissionNotes :=
                        new.submissionNotes } })

/- The stage of a case is set and committed. -/
def setStatus
    (s : Workflow)
    (request : RequestCase)
    (status : Stage)
    (fault : Fault) : Result :=
  commit fault s
    { s with
      request := some { request with packageStatus := status } }

/- The faults at the commits of `create_amendment`. -/
structure AmendFaults where
  opening : Fault := .clean
  assembly : Fault := .clean
  revert : Fault := .clean
  closing : Fault := .clean
  deriving DecidableEq, Repr

/- The stage after an assembly that failed. -/
def revertedStatus (prior : Stage) : Stage :=
  if prior = .assembling then .amended else prior

/-
  The assembly in `create_amendment`, and the commit after it:
  back to the prior stage when it failed.
-/
def amendOpened
    (s : Workflow)
    (prior : Stage)
    (packageId : String)
    (generatedBy : Option String)
    (faults : AmendFaults) : Result :=
  match assembleResponsePackage s packageId generatedBy
      faults.assembly with
  | (s', raised) =>
      match s'.request with
      | none => (s', raised)
      | some request =>
          match raised with
          | some error =>
              ((setStatus s' request (revertedStatus prior)
                faults.revert).1, some error)
          | none =>
              setStatus s' request .amended faults.closing

/-
  The stages that an amendment can be made in. `assembling` is
  for an attempt that broke off.
-/
def amendmentStages : List Stage :=
  [.submitted, .amended, .assembling]

/- `create_amendment`. -/
def createAmendment
    (s : Workflow)
    (packageId : String)
    (generatedBy : Option String)
    (faults : AmendFaults) : Result :=
  inStages s amendmentStages (fun request =>
    match setStatus s request .assembling faults.opening with
    | (s', some error) => (s', some error)
    | (s', none) =>
        amendOpened s' request.packageStatus packageId
          generatedBy faults)

--------
-- Records
--------

/- The outcome of a rule on an event, with its `uuid4`. -/
structure RuleOutcome where
  evaluationId : String
  ruleId : String
  result : RuleResult
  whyFailed : Option String
  deriving DecidableEq

/- The result of a rule, with the fields of its definition. -/
def resultOf
    (rule : RuleDefinition)
    (outcome : RuleOutcome) : RuleEvaluationResult :=
  { ruleId := rule.ruleId
    ruleVersion := rule.ruleVersion
    ruleTitle := rule.title
    severity := rule.severity
    result := outcome.result
    whyFailed := outcome.whyFailed
    citationReference := rule.citationReference
    remediationSuggestion := rule.remediationSuggestion
    category := rule.category }

/- The results of an evaluation, of the rules there are. -/
def resultsOf
    (rules : List RuleDefinition)
    (outcomes : List RuleOutcome) :
    List (String × RuleEvaluationResult) :=
  outcomes.filterMap (fun outcome =>
    (rules.find? (·.ruleId == outcome.ruleId)).map
      (fun rule =>
        (outcome.evaluationId, resultOf rule outcome)))

/-
  The rows that are stored for the results: none for an
  outcome that the table does not admit, and none for a row
  that was moved to the dead letters.
-/
def storedRows
    (eventId : String)
    (results : List (String × RuleEvaluationResult))
    (deadlettered : List String)
    (evaluatedAt : Int) : List Evaluation :=
  (results.filter (fun evaluation =>
    decide (evaluation.2.result ≠ .notFtlScoped) &&
    decide (evaluation.1 ∉ deadlettered))).map
      (fun evaluation =>
        { evaluationId := evaluation.1
          eventId := eventId
          ruleId := evaluation.2.ruleId
          ruleVersion := evaluation.2.ruleVersion
          result := evaluation.2.result
          whyFailed := evaluation.2.whyFailed
          evaluatedAt := evaluatedAt })

/-
  The operations on the records of a tenant. An evaluation
  raises exceptions when its caller does so, as the webhook
  does; `raises` then names the new cases. Events and
  identities change in any way.
-/
inductive RecordsOp where
  | persistEvents (events : List EventRow)
  | changeIdentity (identity : Identity)
  | evaluate
      (eventId : String)
      (outcomes : List RuleOutcome)
      (deadlettered : List String)
      (raises : Option (String → String))
  | createException
      (caseId : String)
      (new : ExceptionQueue.NewException)
  | assignOwner (caseId ownerUserId : String)
  | resolveException (caseId resolutionSummary : String)
  | waiveException
      (caseId waiverReason waiverApprovedBy : String)
  | mirrorException
      (caseId : String)
      (mirrored : ExceptionQueue.Mirrored)

/- The cases after an evaluation whose caller may raise. -/
def raiseExceptions
    (exceptions : List ExceptionCase)
    (raises : Option (String → String))
    (eventId : String)
    (results : List (String × RuleEvaluationResult)) :
    List ExceptionCase :=
  match raises with
  | none => exceptions
  | some caseIds =>
      ExceptionQueue.createExceptionsFromEvaluation exceptions
        caseIds eventId results none none

/- An event without an id has no rows. -/
def evaluate
    (rules : List RuleDefinition)
    (records : Records)
    (now : Int)
    (eventId : String)
    (outcomes : List RuleOutcome)
    (deadlettered : List String)
    (raises : Option (String → String)) : Records :=
  if eventId = "" then
    records
  else
    let results := resultsOf rules outcomes
    { records with
      evaluations :=
        records.evaluations ++
          storedRows eventId results deadlettered now
      exceptions :=
        raiseExceptions records.exceptions raises eventId
          results }

def Records.apply
    (rules : List RuleDefinition)
    (records : Records)
    (now : Int) : RecordsOp → Records
| .persistEvents events => { records with events := events }
| .changeIdentity identity =>
    { records with identity := identity }
| .evaluate eventId outcomes deadlettered raises =>
    RequestWorkflow.evaluate rules records now eventId outcomes
      deadlettered raises
| .createException caseId new =>
    { records with
      exceptions :=
        ExceptionQueue.createException records.exceptions
          caseId new }
| .assignOwner caseId ownerUserId =>
    { records with
      exceptions :=
        ExceptionQueue.assignOwner records.exceptions caseId
          ownerUserId }
| .resolveException caseId resolutionSummary =>
    { records with
      exceptions :=
        ExceptionQueue.resolveException records.exceptions
          caseId resolutionSummary }
| .waiveException caseId waiverReason waiverApprovedBy =>
    { records with
      exceptions :=
        ExceptionQueue.waiveException records.exceptions caseId
          waiverReason waiverApprovedBy }
| .mirrorException caseId mirrored =>
    { records with
      exceptions :=
        ExceptionQueue.mirrorUpdate records.exceptions caseId
          mirrored }

--------
-- Steps
--------

/- A call of the workflow, or a write of its records. -/
inductive Action where
  | createRequestCase
      (requestCaseId : String)
      (new : NewRequest)
      (fault : Fault)
  | updateScope (update : ScopeUpdate) (fault : Fault)
  | collectRecords (fault : Fault)
  | runGapAnalysis (fault : Fault)
  | assembleResponsePackage
      (packageId : String)
      (generatedBy : Option String)
      (fault : Fault)
  | addSignoff
      (signoffType : SignoffType)
      (signedBy : String)
      (notes : Option String)
      (fault : Fault)
  | submitPackage
      (new : NewSubmission)
      (gateFaults : GateFaults)
      (fault : Fault)
  | createAmendment
      (packageId : String)
      (generatedBy : Option String)
      (faults : AmendFaults)
  | records (op : RecordsOp)

/- The state an action leaves, and how it raises. -/
def perform
    (rules : List RuleDefinition)
    (s : Workflow) : Action → Result
| .createRequestCase requestCaseId new fault =>
    RequestWorkflow.createRequestCase s requestCaseId new fault
| .updateScope update fault =>
    RequestWorkflow.updateScope s update fault
| .collectRecords fault =>
    RequestWorkflow.collectRecords s fault
| .runGapAnalysis fault =>
    RequestWorkflow.runGapAnalysis rules s fault
| .assembleResponsePackage packageId generatedBy fault =>
    RequestWorkflow.assembleResponsePackage s packageId
      generatedBy fault
| .addSignoff signoffType signedBy notes fault =>
    RequestWorkflow.addSignoff s signoffType signedBy notes
      fault
| .submitPackage new gateFaults fault =>
    RequestWorkflow.submitPackage rules s new gateFaults fault
| .createAmendment packageId generatedBy faults =>
    RequestWorkflow.createAmendment s packageId generatedBy
      faults
| .records op =>
    ({ s with records := s.records.apply rules s.clock op },
      none)

/- An action, and the tick of the clock. -/
def step
    (rules : List RuleDefinition)
    (s : Workflow)
    (action : Action) : Workflow :=
  let s' := (perform rules s action).1
  { s' with clock := s.clock + 1 }

/- Nothing is stored yet. -/
def start : Workflow :=
  { records :=
      { events := []
        evaluations := []
        exceptions := []
        identity := Identity.empty }
    request := none
    packages := []
    signoffs := []
    submissionLog := []
    clock := 0 }

/- The state after a run from the start. -/
def run
    (rules : List RuleDefinition)
    (actions : List Action) : Workflow :=
  actions.foldl (step rules) start

--------
-- Frame
--------

theorem commit_records
    {s s' : Workflow}
    (fault : Fault)
    (hSame : s'.records = s.records) :
    (commit fault s s').1.records = s.records := by
  cases fault with
  | clean => exact hSame
  | beforeCommit => rfl
  | afterCommit => exact hSame

theorem inStages_records
    {s : Workflow}
    (allowed : List Stage)
    {operation : RequestCase → Result}
    (hSame :
      ∀ request, (operation request).1.records = s.records) :
    (inStages s allowed operation).1.records = s.records := by
  unfold inStages
  cases s.request with
  | none => rfl
  | some request =>
      by_cases hAllowed : request.packageStatus ∈ allowed
      · simp only [if_pos hAllowed]
        exact hSame request
      · simp only [if_neg hAllowed]

theorem assembleResponsePackage_records
    (s : Workflow)
    (packageId : String)
    (generatedBy : Option String)
    (fault : Fault) :
    (assembleResponsePackage s packageId generatedBy
      fault).1.records = s.records := by
  refine inStages_records _ ?_
  intro request
  simp only
  split
  · rfl
  · exact commit_records fault rfl

theorem setStatus_records
    (s : Workflow)
    (request : RequestCase)
    (status : Stage)
    (fault : Fault) :
    (setStatus s request status fault).1.records = s.records :=
  commit_records fault rfl

theorem amendOpened_records
    (s : Workflow)
    (prior : Stage)
    (packageId : String)
    (generatedBy : Option String)
    (faults : AmendFaults) :
    (amendOpened s prior packageId generatedBy
      faults).1.records = s.records := by
  have hAssembled :=
    assembleResponsePackage_records s packageId generatedBy
      faults.assembly
  unfold amendOpened
  split
  rename_i s' raised hEq
  rw [hEq] at hAssembled
  split
  · exact hAssembled
  · split
    · exact (setStatus_records s' _ _ _).trans hAssembled
    · exact (setStatus_records s' _ _ _).trans hAssembled

/- Only the writers of the records change them. -/
theorem perform_records
    (rules : List RuleDefinition)
    (s : Workflow)
    (action : Action) :
    (∃ op, action = .records op) ∨
      (perform rules s action).1.records = s.records := by
  cases action with
  | records op => exact .inl ⟨op, rfl⟩
  | createRequestCase requestCaseId new fault =>
      refine .inr ?_
      simp only [perform, createRequestCase]
      split
      · rfl
      split
      · rfl
      split
      · rfl
      exact commit_records fault rfl
  | updateScope update fault =>
      refine .inr ?_
      simp only [perform, updateScope]
      split
      · rfl
      refine inStages_records _ ?_
      intro request
      split
      · rfl
      · exact commit_records fault rfl
  | collectRecords fault =>
      refine .inr (inStages_records _ ?_)
      exact fun request => commit_records fault rfl
  | runGapAnalysis fault =>
      refine .inr (inStages_records _ ?_)
      exact fun request => commit_records fault rfl
  | assembleResponsePackage packageId generatedBy fault =>
      exact .inr
        (assembleResponsePackage_records s packageId
          generatedBy fault)
  | addSignoff signoffType signedBy notes fault =>
      refine .inr ?_
      simp only [perform, addSignoff]
      split
      · rfl
      · exact commit_records fault rfl
  | submitPackage new gateFaults fault =>
      refine .inr ?_
      simp only [perform, submitPackage]
      split
      · rfl
      split
      · rfl
      refine inStages_records _ ?_
      intro request
      split
      · rfl
      split
      · rfl
      · exact commit_records fault rfl
  | createAmendment packageId generatedBy faults =>
      refine .inr (inStages_records _ ?_)
      intro request
      have hOpened :=
        setStatus_records s request .assembling faults.opening
      split
      · rename_i s' error hEq
        rw [hEq] at hOpened
        exact hOpened
      · rename_i s' hEq
        rw [hEq] at hOpened
        exact (amendOpened_records s' _ packageId generatedBy
          faults).trans hOpened

end RequestWorkflow

end RegEngine
