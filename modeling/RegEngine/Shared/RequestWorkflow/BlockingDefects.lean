import RegEngine.Shared.ExceptionQueue
import RegEngine.Shared.IdentityResolution.Merging

/-
  The defects that block the submission of a response package
  (`check_blocking_defects` in
  `services/shared/request_workflow/assembly.py`).

  The tables hold the rows of one tenant: every query is
  filtered by it.

  Main declarations:
    * `RequestWorkflow.Records`
    * `RequestWorkflow.getScopeEventIds`
    * `RequestWorkflow.reported_after_merge`
-/

--------
-- Tables
--------

namespace RegEngine

namespace RequestWorkflow

section

/- `fsma.traceability_events`, as far as it is read here. -/
structure EventRow where
  eventId : String
  eventType : String
  active : Bool
  productReference : Option String
  lotReference : Option String
  traceabilityLotCode : String
  fromFacilityReference : Option String
  toFacilityReference : Option String
  createdAt : Int
  amendedAt : Option Int
  deriving DecidableEq, Repr

/- `fsma.rule_evaluations`, as far as it is read here. -/
structure Evaluation where
  evaluationId : String
  eventId : String
  ruleId : String
  ruleVersion : Int
  result : RuleResult
  whyFailed : Option String
  evaluatedAt : Int
  deriving DecidableEq

/- The tables that the checks of a request read. -/
structure Records where
  events : List EventRow
  evaluations : List Evaluation
  exceptions : List ExceptionCase
  identity : Identity

/- `VALID_SIGNOFF_TYPES`. -/
inductive SignoffType where
  | scopeApproval
  | packageReview
  | finalApproval
  | submissionAuthorization
  deriving DecidableEq, Repr

/- The lists that limit the events of a request. -/
structure Scope where
  affectedProducts : List String
  affectedLots : List String
  affectedFacilities : List String
  deriving DecidableEq, Repr

/- A column is one of the listed values. -/
def anyOf (column : Option String) (values : List String) :
    Bool :=
  match column with
  | none => false
  | some value => decide (value ∈ values)

/- An empty list limits nothing. -/
def inScope (scope : Scope) (event : EventRow) : Bool :=
  event.active &&
  (scope.affectedProducts.isEmpty ||
    anyOf event.productReference scope.affectedProducts) &&
  (scope.affectedLots.isEmpty ||
    anyOf event.lotReference scope.affectedLots ||
    anyOf (some event.traceabilityLotCode)
      scope.affectedLots) &&
  (scope.affectedFacilities.isEmpty ||
    anyOf event.fromFacilityReference
      scope.affectedFacilities ||
    anyOf event.toFacilityReference scope.affectedFacilities)

/- `_get_scope_event_ids`. -/
def getScopeEventIds
    (records : Records)
    (scope : Scope) : List String :=
  (records.events.filter (inScope scope)).map (·.eventId)

--------
-- Blockers
--------

/- Why an evaluation is stale. -/
inductive StaleReason where
  | eventModified
  | ruleVersionChanged
  deriving DecidableEq, Repr

/- A stale evaluation, as it is reported. -/
structure StaleDetail where
  eventId : String
  ruleId : String
  reason : StaleReason
  deriving DecidableEq, Repr

/- What blocks a submission, without the message texts. -/
inductive Blocker where
  | criticalRuleFailure
      (eventId ruleId ruleTitle : String)
      (citation whyFailed : Option String)
  | unresolvedCriticalException
      (exceptionId : String)
      (supplier ruleCategory : Option String)
  | unevaluatedEvent (eventId eventType tlc : String)
  | missingSignoff (signoffType : SignoffType)
  | identityAmbiguity
      (reviewId entityA entityB : String)
      (similarity : Rat)
  | staleEvaluations (details : List StaleDetail)
  deriving DecidableEq

inductive Warning where
  | nonCriticalFailures (count : Nat)
  deriving DecidableEq, Repr

/- The definitions of the version a result was given by. -/
def definitionsOf
    (rules : List RuleDefinition)
    (evaluation : Evaluation) : List RuleDefinition :=
  rules.filter (fun rule =>
    rule.ruleId = evaluation.ruleId ∧
      rule.ruleVersion = evaluation.ruleVersion)

/- A resolved or waived case names the event. -/
def hasClearedException
    (exceptions : List ExceptionCase)
    (eventId : String) : Bool :=
  exceptions.any (fun exception =>
    decide (eventId ∈ exception.linkedEventIds) &&
      decide exception.Cleared)

/- 1. Critical failures without waiver or resolution. -/
def criticalFailures
    (rules : List RuleDefinition)
    (records : Records)
    (eventIds : List String) : List Blocker :=
  records.evaluations.flatMap (fun evaluation =>
    ((definitionsOf rules evaluation).filter (fun rule =>
      decide (evaluation.eventId ∈ eventIds) &&
      decide (evaluation.result = .fail) &&
      decide (rule.severity = .critical) &&
      !hasClearedException records.exceptions
        evaluation.eventId)).map (fun rule =>
          .criticalRuleFailure evaluation.eventId
            evaluation.ruleId rule.title
            rule.citationReference evaluation.whyFailed))

/- A case of the request or of one of its events. -/
def concerns
    (exception : ExceptionCase)
    (requestCaseId : String)
    (eventIds : List String) : Bool :=
  decide (exception.requestCaseId = some requestCaseId) ||
    exception.linkedEventIds.any (· ∈ eventIds)

def criticalExceptions
    (records : Records)
    (requestCaseId : String)
    (eventIds : List String) : List Blocker :=
  (records.exceptions.filter (fun exception =>
    concerns exception requestCaseId eventIds &&
    !decide exception.Cleared &&
    decide (exception.severity = .critical))).map
      (fun exception =>
        .unresolvedCriticalException exception.caseId
          exception.sourceSupplier exception.ruleCategory)

/- 3. Events with zero rule evaluations. -/
def unevaluatedEvents
    (records : Records)
    (eventIds : List String) : List Blocker :=
  (records.events.filter (fun event =>
    decide (event.eventId ∈ eventIds) &&
    event.active &&
    !records.evaluations.any (fun evaluation =>
      evaluation.eventId == event.eventId))).map
        (fun event =>
          .unevaluatedEvent event.eventId event.eventType
            event.traceabilityLotCode)

/- `REQUIRED_SIGNOFF_TYPES`, sorted by their names. -/
def requiredSignoffTypes : List SignoffType :=
  [.finalApproval, .scopeApproval]

/- 4. Missing required signoff types. -/
def missingSignoffs
    (existing : List SignoffType) : List Blocker :=
  (requiredSignoffTypes.filter (fun signoffType =>
    decide (signoffType ∉ existing))).map .missingSignoff

/- The double that `0.85` is read as. -/
def ambiguityThreshold : Rat :=
  7656119366529843 / 9007199254740992

/- A pending review of two entities that are alike. -/
def isAmbiguous
    (identity : Identity)
    (review : IdentityReview) : Bool :=
  decide (identity.Exists review.entityAId) &&
  decide (identity.Exists review.entityBId) &&
  decide (review.status = .pending) &&
  decide (ambiguityThreshold ≤ review.matchConfidence)

/- The reviews the identity check finds, before its limit. -/
def identityAmbiguities
    (identity : Identity) : List IdentityReview :=
  identity.reviews.filter (isAmbiguous identity)

def nameOf (identity : Identity) (entityId : String) : String :=
  match identity.entities.find? (·.entityId == entityId) with
  | none => ""
  | some entity => entity.canonicalName

/- 5. Pending identity reviews, at most twenty of them. -/
def identityIssues (identity : Identity) : List Blocker :=
  ((identityAmbiguities identity).take 20).map (fun review =>
    .identityAmbiguity review.reviewId
      (nameOf identity review.entityAId)
      (nameOf identity review.entityBId)
      review.matchConfidence)

/- `COALESCE(e.amended_at, e.created_at)`. -/
def EventRow.modifiedAt (event : EventRow) : Int :=
  event.amendedAt.getD event.createdAt

/- The stale evaluations of the events in scope. -/
def staleDetails
    (rules : List RuleDefinition)
    (records : Records)
    (eventIds : List String) : List StaleDetail :=
  records.evaluations.flatMap (fun evaluation =>
    (records.events.filter (fun event =>
      decide (event.eventId = evaluation.eventId) &&
      decide (evaluation.eventId ∈ eventIds))).flatMap
        (fun event =>
          (rules.filter (fun rule =>
            decide (rule.ruleId = evaluation.ruleId) &&
            (decide
                (evaluation.evaluatedAt < event.modifiedAt) ||
              decide
                (rule.ruleVersion ≠
                  evaluation.ruleVersion)))).map
            (fun _ =>
              { eventId := evaluation.eventId
                ruleId := evaluation.ruleId
                reason :=
                  if evaluation.evaluatedAt <
                      event.modifiedAt then
                    .eventModified
                  else
                    .ruleVersionChanged })))

def staleEvaluations
    (rules : List RuleDefinition)
    (records : Records)
    (eventIds : List String) : List Blocker :=
  match staleDetails rules records eventIds with
  | [] => []
  | details => [.staleEvaluations details]

/- 7. Failures of rules of severity warning. -/
def nonCriticalWarnings
    (rules : List RuleDefinition)
    (records : Records)
    (eventIds : List String) : List Warning :=
  let count :=
    (records.evaluations.flatMap (fun evaluation =>
      (definitionsOf rules evaluation).filter (fun rule =>
        decide (evaluation.eventId ∈ eventIds) &&
        decide (evaluation.result = .fail) &&
        decide (rule.severity = .warning)))).length
  if 0 < count then [.nonCriticalFailures count] else []

/- The queries that are skipped because they raise. -/
structure GateFaults where
  identity : Bool
  stale : Bool
  deriving DecidableEq, Repr

/- What `check_blocking_defects` returns. -/
structure DefectCheck where
  canSubmit : Bool
  blockers : List Blocker
  warnings : List Warning
  deriving DecidableEq

/- `check_blocking_defects`, of a case that exists. -/
def checkBlockingDefects
    (rules : List RuleDefinition)
    (records : Records)
    (requestCaseId : String)
    (scope : Scope)
    (signoffs : List SignoffType)
    (faults : GateFaults) : DefectCheck :=
  let eventIds := getScopeEventIds records scope
  let blockers :=
    (if eventIds.isEmpty then []
      else criticalFailures rules records eventIds) ++
    criticalExceptions records requestCaseId eventIds ++
    (if eventIds.isEmpty then []
      else unevaluatedEvents records eventIds) ++
    missingSignoffs signoffs ++
    (if faults.identity then []
      else identityIssues records.identity) ++
    (if eventIds.isEmpty ∨ faults.stale then []
      else staleEvaluations rules records eventIds)
  { canSubmit := blockers.isEmpty
    blockers := blockers
    warnings :=
      if eventIds.isEmpty then []
      else nonCriticalWarnings rules records eventIds }

--------
-- What the Gate Lets Through
--------

variable
    {rules : List RuleDefinition}
    {records : Records}
    {requestCaseId : String}
    {scope : Scope}
    {signoffs : List SignoffType}
    {faults : GateFaults}

/- A submission may go ahead when every query comes up empty. -/
theorem canSubmit_iff :
    (checkBlockingDefects rules records requestCaseId scope
      signoffs faults).canSubmit = true ↔
    (getScopeEventIds records scope ≠ [] →
      criticalFailures rules records
        (getScopeEventIds records scope) = []) ∧
    criticalExceptions records requestCaseId
      (getScopeEventIds records scope) = [] ∧
    (getScopeEventIds records scope ≠ [] →
      unevaluatedEvents records
        (getScopeEventIds records scope) = []) ∧
    missingSignoffs signoffs = [] ∧
    (faults.identity = false →
      identityIssues records.identity = []) ∧
    (getScopeEventIds records scope ≠ [] →
      faults.stale = false →
      staleEvaluations rules records
        (getScopeEventIds records scope) = []) := by
  cases hIds : getScopeEventIds records scope <;>
    cases hIdentity : faults.identity <;>
    cases hStale : faults.stale <;>
    simp [checkBlockingDefects, hIds, hIdentity, hStale]

/- A critical failure in scope has a cleared case of its event. -/
theorem hasClearedException_of_canSubmit
    (hSubmit :
      (checkBlockingDefects rules records requestCaseId scope
        signoffs faults).canSubmit = true)
    {evaluation : Evaluation}
    (hMem : evaluation ∈ records.evaluations)
    (hScope :
      evaluation.eventId ∈ getScopeEventIds records scope)
    (hFail : evaluation.result = .fail)
    {rule : RuleDefinition}
    (hRule : rule ∈ definitionsOf rules evaluation)
    (hCritical : rule.severity = .critical) :
    ∃ x ∈ records.exceptions,
      evaluation.eventId ∈ x.linkedEventIds ∧ x.Cleared := by
  rw [canSubmit_iff] at hSubmit
  have hNil := hSubmit.1 (List.ne_nil_of_mem hScope)
  rw [criticalFailures, List.flatMap_eq_nil_iff] at hNil
  have hNone := hNil evaluation hMem
  rw [List.map_eq_nil_iff, List.filter_eq_nil_iff] at hNone
  simpa [hScope, hFail, hCritical, hasClearedException] using
    hNone rule hRule

/- A critical case of an event in scope is cleared. -/
theorem cleared_of_canSubmit
    (hSubmit :
      (checkBlockingDefects rules records requestCaseId scope
        signoffs faults).canSubmit = true)
    {exception : ExceptionCase}
    (hMem : exception ∈ records.exceptions)
    (hCritical : exception.severity = .critical)
    {eventId : String}
    (hLinked : eventId ∈ exception.linkedEventIds)
    (hScope : eventId ∈ getScopeEventIds records scope) :
    exception.Cleared := by
  rw [canSubmit_iff] at hSubmit
  have hNil := hSubmit.2.1
  rw [criticalExceptions, List.map_eq_nil_iff,
    List.filter_eq_nil_iff] at hNil
  have hConcerns :
      concerns exception requestCaseId
        (getScopeEventIds records scope) = true := by
    rw [concerns, Bool.or_eq_true, List.any_eq_true]
    exact .inr ⟨eventId, hLinked, decide_eq_true hScope⟩
  simpa [hConcerns, hCritical] using hNil exception hMem

/- The required signoffs are all there. -/
theorem signed_of_canSubmit
    (hSubmit :
      (checkBlockingDefects rules records requestCaseId scope
        signoffs faults).canSubmit = true)
    {signoffType : SignoffType}
    (hRequired : signoffType ∈ requiredSignoffTypes) :
    signoffType ∈ signoffs := by
  rw [canSubmit_iff] at hSubmit
  have hNil := hSubmit.2.2.2.1
  rw [missingSignoffs, List.map_eq_nil_iff,
    List.filter_eq_nil_iff] at hNil
  simpa using hNil signoffType hRequired

end

--------
-- Identity Ambiguities after a Merge
--------

/- A review with a merged entity on either side. -/
def Touches
    (sourceEntityIds : List String)
    (review : IdentityReview) : Prop :=
  review.entityAId ∈ sourceEntityIds ∨
    review.entityBId ∈ sourceEntityIds

instance
    (sourceEntityIds : List String)
    (review : IdentityReview) :
    Decidable (Touches sourceEntityIds review) := by
  unfold Touches
  infer_instance

def Blocker.isIdentityAmbiguity : Blocker → Bool
| .identityAmbiguity .. => true
| _ => false

/- The identity ambiguities among the reported blockers. -/
def DefectCheck.identityAmbiguities
    (check : DefectCheck) : List Blocker :=
  check.blockers.filter Blocker.isIdentityAmbiguity

/- A review as the identity check reports it. -/
def reported
    (identity : Identity)
    (review : IdentityReview) : Blocker :=
  .identityAmbiguity review.reviewId
    (nameOf identity review.entityAId)
    (nameOf identity review.entityBId)
    review.matchConfidence

/- The other queries report no identity ambiguity. -/
theorem identityAmbiguities_checkBlockingDefects
    (rules : List RuleDefinition)
    (records : Records)
    (requestCaseId : String)
    (scope : Scope)
    (signoffs : List SignoffType)
    (stale : Bool) :
    (checkBlockingDefects rules records requestCaseId scope
      signoffs ⟨false, stale⟩).identityAmbiguities =
    ((identityAmbiguities records.identity).take 20).map
      (reported records.identity) := by
  have hFailures : ∀ eventIds,
      (criticalFailures rules records eventIds).filter
        Blocker.isIdentityAmbiguity = [] := by
    intro eventIds
    rw [List.filter_eq_nil_iff]
    intro blocker hMem
    rcases List.mem_flatMap.mp hMem with ⟨evaluation, -, hRow⟩
    rcases List.mem_map.mp hRow with ⟨rule, -, rfl⟩
    exact Bool.false_ne_true
  have hExceptions : ∀ eventIds,
      (criticalExceptions records requestCaseId
        eventIds).filter Blocker.isIdentityAmbiguity = [] := by
    intro eventIds
    rw [List.filter_eq_nil_iff]
    intro blocker hMem
    rcases List.mem_map.mp hMem with ⟨exception, -, rfl⟩
    exact Bool.false_ne_true
  have hUnevaluated : ∀ eventIds,
      (unevaluatedEvents records eventIds).filter
        Blocker.isIdentityAmbiguity = [] := by
    intro eventIds
    rw [List.filter_eq_nil_iff]
    intro blocker hMem
    rcases List.mem_map.mp hMem with ⟨event, -, rfl⟩
    exact Bool.false_ne_true
  have hSignoffs :
      (missingSignoffs signoffs).filter
        Blocker.isIdentityAmbiguity = [] := by
    rw [List.filter_eq_nil_iff]
    intro blocker hMem
    rcases List.mem_map.mp hMem with ⟨signoffType, -, rfl⟩
    exact Bool.false_ne_true
  have hStale : ∀ eventIds,
      (staleEvaluations rules records eventIds).filter
        Blocker.isIdentityAmbiguity = [] := by
    intro eventIds
    unfold staleEvaluations
    split <;> rfl
  have hIssues :
      (identityIssues records.identity).filter
          Blocker.isIdentityAmbiguity =
        identityIssues records.identity := by
    rw [List.filter_eq_self]
    intro blocker hMem
    rcases List.mem_map.mp hMem with ⟨review, -, rfl⟩
    rfl
  simp only [DefectCheck.identityAmbiguities,
    checkBlockingDefects, List.filter_append, hExceptions,
    hSignoffs, hIssues, apply_ite
      (List.filter Blocker.isIdentityAmbiguity),
    hFailures, hUnevaluated, hStale, List.filter_nil,
    ite_self, List.nil_append, List.append_nil]
  rfl

variable
    {s s' : Identity}
    {mergeId targetEntityId : String}
    {sourceEntityIds : List String}

/- A merge renames no entity. -/
theorem nameOf_merged
    (hMerged :
      Identity.Merged s s' mergeId sourceEntityIds
        targetEntityId)
    (entityId : String) :
    nameOf s' entityId = nameOf s entityId := by
  have hSame : ∀ entity : CanonicalEntity,
      (if entity.entityId ∈ sourceEntityIds then
        { entity with isActive := false } else
        entity).entityId = entity.entityId := by
    intro entity
    split <;> rfl
  unfold nameOf
  rw [hMerged.entities, Identity.setActive, List.find?_map]
  simp only [Function.comp_def, hSame]
  cases s.entities.find? (·.entityId == entityId) with
  | none => rfl
  | some entity =>
      simp only [Option.map_some]
      split <;> rfl

/-
  What a merge does to the review queue: every pending review
  with a source on either side is closed, whoever stands on
  the other side, and no other review changes.
-/
structure ClosesTouched
    (sourceEntityIds : List String)
    (before after : IdentityReview) : Prop where
  closed :
    before.status = .pending →
      Touches sourceEntityIds before →
      after = { before with status := .confirmedMatch }
  kept :
    ¬ (before.status = .pending ∧
        Touches sourceEntityIds before) →
      after = before

def closeReview
    (sourceEntityIds : List String)
    (review : IdentityReview) : IdentityReview :=
  if review.status = .pending ∧
      Touches sourceEntityIds review then
    { review with status := .confirmedMatch }
  else
    review

theorem closesTouched_closeReview
    (sourceEntityIds : List String)
    (review : IdentityReview) :
    ClosesTouched sourceEntityIds review
      (closeReview sourceEntityIds review) where
  closed := fun hPending hTouches =>
    if_pos ⟨hPending, hTouches⟩
  kept := fun hNot => if_neg hNot

/- An ambiguous review stays so when no source is in it. -/
theorem isAmbiguous_closeReview
    (hMerged :
      Identity.Merged s s' mergeId sourceEntityIds
        targetEntityId)
    (review : IdentityReview) :
    isAmbiguous s' (closeReview sourceEntityIds review) =
      (isAmbiguous s review &&
        decide (¬ Touches sourceEntityIds review)) := by
  have hCloses :=
    closesTouched_closeReview sourceEntityIds review
  simp only [isAmbiguous,
    Identity.exists_setActive hMerged.entities]
  by_cases hPending : review.status = .pending
  · by_cases hTouches : Touches sourceEntityIds review
    · rw [hCloses.closed hPending hTouches]
      simp [hTouches]
    · rw [hCloses.kept (fun h => hTouches h.2)]
      simp [hTouches]
  · rw [hCloses.kept (fun h => hPending h.1)]
    simp [hPending]

/- The reviews that stay ambiguous are the untouched ones. -/
theorem identityAmbiguities_merged
    (hMerged :
      Identity.Merged s s' mergeId sourceEntityIds
        targetEntityId) :
    identityAmbiguities s' =
      (identityAmbiguities s).filter (fun review =>
        decide (¬ Touches sourceEntityIds review)) := by
  have hUntouched : ∀ review ∈ s.reviews.filter
      (fun review => isAmbiguous s review &&
        decide (¬ Touches sourceEntityIds review)),
      closeReview sourceEntityIds review = review := by
    intro review hMem
    have hNot : ¬ Touches sourceEntityIds review :=
      of_decide_eq_true
        (Bool.and_eq_true_iff.mp (List.mem_filter.mp hMem).2).2
    exact if_neg (fun h => hNot h.2)
  calc identityAmbiguities s'
      = (s.reviews.filter (fun review =>
          isAmbiguous s' (closeReview sourceEntityIds
            review))).map (closeReview sourceEntityIds) := by
        rw [identityAmbiguities, hMerged.reviews]
        exact List.filter_map
    _ = (s.reviews.filter (fun review =>
          isAmbiguous s review &&
            decide (¬ Touches sourceEntityIds review))).map
          (closeReview sourceEntityIds) := by
        simp only [isAmbiguous_closeReview hMerged]
    _ = s.reviews.filter (fun review =>
          isAmbiguous s review &&
            decide (¬ Touches sourceEntityIds review)) :=
        (List.map_congr_left hUntouched).trans
          (List.map_id _)
    _ = (identityAmbiguities s).filter (fun review =>
          decide (¬ Touches sourceEntityIds review)) := by
        rw [identityAmbiguities, List.filter_filter]
        simp only [Bool.and_comm]

/-
  A merge closes the pending reviews of its sources, and the
  identity check then reports the first twenty of the pending
  reviews that name no source.
-/
theorem reported_after_merge
    {performedBy : Option String}
    (hMerge :
      s.mergeEntitiesBulk mergeId sourceEntityIds
        targetEntityId performedBy = .ok s')
    (rules : List RuleDefinition)
    (records : Records)
    (hRecords : records.identity = s')
    (requestCaseId : String)
    (scope : Scope)
    (signoffs : List SignoffType)
    (stale : Bool) :
    List.Forall₂ (ClosesTouched sourceEntityIds)
      s.reviews s'.reviews ∧
    (checkBlockingDefects rules records requestCaseId scope
      signoffs ⟨false, stale⟩).identityAmbiguities =
    (((identityAmbiguities s).filter (fun review =>
      decide (¬ Touches sourceEntityIds review))).take
        20).map (reported s) := by
  have hMerged := Identity.mergeEntitiesBulk_spec hMerge
  constructor
  · rw [hMerged.reviews, Identity.closeReviews,
      List.forall₂_map_right_iff, List.forall₂_same]
    intro review _
    exact closesTouched_closeReview sourceEntityIds review
  · rw [identityAmbiguities_checkBlockingDefects, hRecords,
      identityAmbiguities_merged hMerged]
    refine List.map_congr_left ?_
    intro review _
    simp only [reported, nameOf_merged hMerged]

/-
  A pending review of a source with an entity that is neither
  a source nor the target is left open.
-/
def UnrelatedStayOpen
    (s s' : Identity)
    (sourceEntityIds : List String)
    (targetEntityId : String) : Prop :=
  ∀ review ∈ s.reviews, review.status = .pending →
    ∀ source other,
      (review.entityAId = source ∧ review.entityBId = other ∨
        review.entityAId = other ∧
          review.entityBId = source) →
      source ∈ sourceEntityIds →
      other ∉ sourceEntityIds → other ≠ targetEntityId →
      review ∈ s'.reviews

def facility (entityId canonicalName : String) :
    CanonicalEntity :=
  { entityId := entityId
    entityType := "facility"
    canonicalName := canonicalName
    gln := none
    gtin := none
    fdaRegistration := none
    internalId := none
    isActive := true }

/- Two reviews wait: of a and x, and of x and y. -/
def twoReviews : Records :=
  { events := []
    evaluations := []
    exceptions := []
    identity :=
      { entities :=
          [facility "a" "North Dock", facility "t" "Dock North",
            facility "x" "North Docks", facility "y" "N. Docks"]
        aliases := Owners.empty
        history := []
        reviews :=
          [⟨"r", "a", "x", 9 / 10, .pending⟩,
            ⟨"q", "x", "y", 9 / 10, .pending⟩] } }

theorem reported_after_merge_twoReviews :
    ∃ s',
      twoReviews.identity.mergeEntitiesBulk "m" ["a"] "t"
          (some "ops") = .ok s' ∧
        (checkBlockingDefects []
          { twoReviews with identity := s' } "c" ⟨[], [], []⟩
          [] ⟨false, false⟩).identityAmbiguities =
          [.identityAmbiguity "q" "North Docks" "N. Docks"
            (9 / 10)] := by
  have hRun :
      (twoReviews.identity.mergeEntitiesBulk "m" ["a"] "t"
        (some "ops")).toOption.isSome = true := by
    decide
  cases hMerge : twoReviews.identity.mergeEntitiesBulk "m"
      ["a"] "t" (some "ops") with
  | error failure => simp [hMerge, Except.toOption] at hRun
  | ok s' =>
      refine ⟨s', rfl, ?_⟩
      rw [(reported_after_merge hMerge []
        { twoReviews with identity := s' } rfl "c"
        ⟨[], [], []⟩ [] false).2]
      decide +kernel

/- The merge of a into t closes the review of a and x. -/
theorem not_unrelatedStayOpen_twoReviews :
    ∃ s',
      twoReviews.identity.mergeEntitiesBulk "m" ["a"] "t"
          (some "ops") = .ok s' ∧
        ¬ UnrelatedStayOpen twoReviews.identity s' ["a"] "t" := by
  have hRun :
      (do
        let s' ←
          twoReviews.identity.mergeEntitiesBulk "m" ["a"] "t"
            (some "ops")
        .ok s'.reviews) =
        (.ok
          [⟨"r", "a", "x", 9 / 10, .confirmedMatch⟩,
            ⟨"q", "x", "y", 9 / 10, .pending⟩] :
          Except IdentityFailure (List IdentityReview)) := by
    decide +kernel
  rcases Outcome.bind_eq_ok.mp hRun with ⟨s', hMerge, hReviews⟩
  rw [Except.ok.injEq] at hReviews
  refine ⟨s', hMerge, ?_⟩
  intro hOpen
  have hStill :=
    hOpen ⟨"r", "a", "x", 9 / 10, .pending⟩ (by simp [twoReviews])
      rfl "a" "x" (.inl ⟨rfl, rfl⟩) (by simp) (by decide)
      (by decide)
  rw [hReviews] at hStill
  revert hStill
  decide +kernel

end RequestWorkflow

end RegEngine
