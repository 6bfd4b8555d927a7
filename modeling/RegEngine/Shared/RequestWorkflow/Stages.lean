import RegEngine.Shared.RequestWorkflow.Workflow

/-
  The stages of a request case over whole runs of the
  workflow: what the stages `ready`, `submitted` and `amended`
  say about the rows of the case, and that a submitted case
  stays submitted.

  Main declarations:
    * `RequestWorkflow.Regular`
    * `RequestWorkflow.Orderly`
    * `RequestWorkflow.regular_iff_orderly`
-/

--------
-- Effects of Operations
--------

namespace RegEngine

namespace RequestWorkflow

section

variable {rules : List RuleDefinition} {s s' : Workflow}

/- The stage of the case, when there is one. -/
def Workflow.status (s : Workflow) : Option Stage :=
  s.request.map (·.packageStatus)

/- The types that the case has a signoff of. -/
def Workflow.signed (s : Workflow) : List SignoffType :=
  s.signoffs.map (·.signoffType)

/- Only writes that are not rolled back are seen. -/
theorem commit_fst (fault : Fault) (s s' : Workflow) :
    (commit fault s s').1 =
      if fault = .beforeCommit then s else s' := by
  cases fault <;> rfl

/- An operation that is refused changes nothing. -/
theorem inStages_cases
    (s : Workflow)
    (allowed : List Stage)
    (operation : RequestCase → Result) :
    (∃ error,
      inStages s allowed operation = (s, some error)) ∨
    ∃ request, s.request = some request ∧
      request.packageStatus ∈ allowed ∧
      inStages s allowed operation = operation request := by
  unfold inStages
  cases hRequest : s.request with
  | none => exact .inl ⟨_, rfl⟩
  | some request =>
      by_cases hAllowed : request.packageStatus ∈ allowed
      · refine .inr ⟨request, rfl, hAllowed, ?_⟩
        exact if_pos hAllowed
      · exact .inl ⟨_, if_neg hAllowed⟩

/- The stages before the first assembly. -/
def earlyStages : List Stage :=
  [.intake, .scoping, .collecting, .gapAnalysis]

/- The case moves between early stages. -/
def Restaged (s s' : Workflow) : Prop :=
  ∃ request request',
    s.request = some request ∧
    request.packageStatus ∈ earlyStages ∧
    request'.packageStatus ∈ earlyStages ∧
    s' = { s with request := some request' }

/- An operation of an early stage, with one commit. -/
theorem inStages_restaged
    {allowed : List Stage}
    {fault : Fault}
    {change : RequestCase → RequestCase}
    (hAllowed : ∀ stage ∈ allowed, stage ∈ earlyStages)
    (hChange :
      ∀ request,
        (change request).packageStatus ∈ earlyStages) :
    (inStages s allowed (fun request =>
      commit fault s
        { s with request := some (change request) })).1 = s ∨
    Restaged s
      (inStages s allowed (fun request =>
        commit fault s
          { s with request := some (change request) })).1 := by
  rcases inStages_cases s allowed (fun request =>
      commit fault s
        { s with request := some (change request) }) with
    ⟨error, hError⟩ | ⟨request, hRequest, hStage, hEq⟩
  · rw [hError]
    exact .inl rfl
  · rw [hEq, commit_fst]
    by_cases hFault : fault = .beforeCommit
    · rw [if_pos hFault]
      exact .inl rfl
    · rw [if_neg hFault]
      exact .inr ⟨request, change request, hRequest,
        hAllowed _ hStage, hChange request, rfl⟩

theorem updateScope_cases
    (s : Workflow)
    (update : ScopeUpdate)
    (fault : Fault) :
    (updateScope s update fault).1 = s ∨
      Restaged s (updateScope s update fault).1 := by
  unfold updateScope
  split
  · exact .inl rfl
  · rcases inStages_cases s [.intake, .scoping] _ with
      ⟨error, hError⟩ | ⟨request, hRequest, hStage, hEq⟩
    · rw [hError]
      exact .inl rfl
    · rw [hEq]
      split
      · exact .inl rfl
      · rw [commit_fst]
        split
        · exact .inl rfl
        · refine .inr ⟨request, _, hRequest, ?_, ?_, rfl⟩
          · revert hStage
            cases request.packageStatus <;> decide
          · simp [earlyStages]

theorem collectRecords_cases
    (s : Workflow)
    (fault : Fault) :
    (collectRecords s fault).1 = s ∨
      Restaged s (collectRecords s fault).1 :=
  inStages_restaged (by decide) (by simp [earlyStages])

theorem runGapAnalysis_cases
    (rules : List RuleDefinition)
    (s : Workflow)
    (fault : Fault) :
    (runGapAnalysis rules s fault).1 = s ∨
      Restaged s (runGapAnalysis rules s fault).1 :=
  inStages_restaged (by decide) (by simp [earlyStages])

/- A case is created in the first stage. -/
theorem createRequestCase_cases
    (s : Workflow)
    (requestCaseId : String)
    (new : NewRequest)
    (fault : Fault) :
    (createRequestCase s requestCaseId new fault).1 = s ∨
    s.request = none ∧
      ∃ request, request.packageStatus = .intake ∧
        (createRequestCase s requestCaseId new fault).1 =
          { s with request := some request } := by
  unfold createRequestCase
  split
  · exact .inl rfl
  · split
    · exact .inl rfl
    · split
      · exact .inl rfl
      · rename_i hNone
        rw [commit_fst]
        split
        · exact .inl rfl
        · refine .inr ⟨?_, _, rfl, rfl⟩
          simpa using hNone

/- A new package of the case, made at the time of the clock. -/
structure Assembled
    (s s' : Workflow)
    (packageId : String) : Prop where
  allowed :
    ∃ request, s.request = some request ∧
      request.packageStatus ∈ assemblyStages
  fresh : packageId ∉ s.packages.map (·.packageId)
  status : s'.status = some .assembling
  packages :
    ∃ package, package.packageId = packageId ∧
      package.generatedAt = s.clock ∧
      s'.packages = s.packages ++ [package]
  signoffs : s'.signoffs = s.signoffs
  submissionLog : s'.submissionLog = s.submissionLog
  clock : s'.clock = s.clock

/-
  The result of an assembly: it raises and leaves the state,
  or the package is stored, whether or not it raises then.
-/
theorem assembleResponsePackage_cases
    (s : Workflow)
    (packageId : String)
    (generatedBy : Option String)
    (fault : Fault) :
    (∃ error,
      assembleResponsePackage s packageId generatedBy fault =
        (s, some error) ∧
      ((∃ request, s.request = some request ∧
          request.packageStatus ∈ assemblyStages) →
        packageId ∈ s.packages.map (·.packageId) ∨
          fault = .beforeCommit)) ∨
    fault ≠ .beforeCommit ∧
      Assembled s
        (assembleResponsePackage s packageId generatedBy
          fault).1 packageId ∧
      ((assembleResponsePackage s packageId generatedBy
        fault).2 = none ↔ fault = .clean) := by
  unfold assembleResponsePackage inStages
  cases hRequest : s.request with
  | none =>
      refine .inl ⟨_, rfl, ?_⟩
      rintro ⟨request, hSome, -⟩
      cases hSome
  | some request =>
      simp only
      by_cases hStage :
          request.packageStatus ∈ assemblyStages
      · rw [if_pos hStage]
        by_cases hFresh :
            packageId ∈ s.packages.map (·.packageId)
        · rw [if_pos hFresh]
          exact .inl ⟨_, rfl, fun _ => .inl hFresh⟩
        · rw [if_neg hFresh]
          cases fault with
          | beforeCommit =>
              exact .inl ⟨_, rfl, fun _ => .inr rfl⟩
          | clean =>
              refine .inr ⟨by decide, ?_, by simp [commit]⟩
              exact ⟨⟨request, hRequest, hStage⟩, hFresh, rfl,
                ⟨_, rfl, rfl, rfl⟩, rfl, rfl, rfl⟩
          | afterCommit =>
              refine .inr ⟨by decide, ?_, by simp [commit]⟩
              exact ⟨⟨request, hRequest, hStage⟩, hFresh, rfl,
                ⟨_, rfl, rfl, rfl⟩, rfl, rfl, rfl⟩
      · rw [if_neg hStage]
        refine .inl ⟨_, rfl, ?_⟩
        rintro ⟨other, hSome, hOther⟩
        rw [Option.some.injEq] at hSome
        subst hSome
        exact absurd hOther hStage

/- A signoff of the case at the time of the clock. -/
structure Signed
    (s s' : Workflow)
    (signoffType : SignoffType) : Prop where
  status : s'.status = some (statusTransition signoffType)
  packages : s'.packages = s.packages
  signoffs :
    ∃ signoff, signoff.signoffType = signoffType ∧
      signoff.signedAt = s.clock ∧
      s'.signoffs = insertSignoff s.signoffs signoff
  submissionLog : s'.submissionLog = s.submissionLog
  clock : s'.clock = s.clock

/- Whether a signoff of the case is stored. -/
def signs (s : Workflow) (fault : Fault) : Bool :=
  s.request.isSome && decide (fault ≠ .beforeCommit)

theorem addSignoff_cases
    (s : Workflow)
    (signoffType : SignoffType)
    (signedBy : String)
    (notes : Option String)
    (fault : Fault) :
    signs s fault = false ∧
      (addSignoff s signoffType signedBy notes fault).1 = s ∨
    signs s fault = true ∧
      Signed s
        (addSignoff s signoffType signedBy notes fault).1
        signoffType := by
  unfold addSignoff signs
  cases hRequest : s.request with
  | none => exact .inl ⟨rfl, rfl⟩
  | some request =>
      cases fault with
      | beforeCommit => exact .inl ⟨rfl, rfl⟩
      | clean =>
          exact .inr ⟨rfl, rfl, rfl, ⟨_, rfl, rfl, rfl⟩, rfl,
            rfl⟩
      | afterCommit =>
          exact .inr ⟨rfl, rfl, rfl, ⟨_, rfl, rfl, rfl⟩, rfl,
            rfl⟩

/- A submission of a package of the case. -/
structure SubmittedOf
    (rules : List RuleDefinition)
    (s s' : Workflow)
    (new : NewSubmission)
    (gateFaults : GateFaults) : Prop where
  request :
    ∃ request, s.request = some request ∧
      request.packageStatus ∈
        [Stage.ready, .submitted, .amended] ∧
      (new.force = false →
        (s.gate rules request gateFaults).canSubmit = true)
  package :
    ∃ package ∈ s.packages, package.packageId = new.packageId
  status : s'.status = some .submitted
  packages : s'.packages = s.packages
  signoffs : s'.signoffs = s.signoffs
  submissionLog :
    ∃ row, s'.submissionLog = s.submissionLog ++ [row]
  clock : s'.clock = s.clock

theorem submitPackage_cases
    (rules : List RuleDefinition)
    (s : Workflow)
    (new : NewSubmission)
    (gateFaults : GateFaults)
    (fault : Fault) :
    (∃ error,
      submitPackage rules s new gateFaults fault =
        (s, some error)) ∨
    SubmittedOf rules s
      (submitPackage rules s new gateFaults fault).1 new
      gateFaults := by
  unfold submitPackage
  split
  · exact .inl ⟨_, rfl⟩
  split
  · exact .inl ⟨_, rfl⟩
  rcases inStages_cases s [.ready, .submitted, .amended] _ with
    ⟨error, hError⟩ | ⟨request, hRequest, hStage, hEq⟩
  · exact .inl ⟨error, hError⟩
  · rw [hEq]
    simp only
    split
    · exact .inl ⟨_, rfl⟩
    rename_i hGate
    split
    · exact .inl ⟨_, rfl⟩
    rename_i package hFind
    have hPass : new.force = false →
        (s.gate rules request gateFaults).canSubmit = true := by
      intro hForce
      rw [← Bool.not_eq_false]
      exact fun hBlocked => hGate ⟨hBlocked, hForce⟩
    have hPackage :
        ∃ package ∈ s.packages,
          package.packageId = new.packageId :=
      ⟨package, List.mem_of_find?_eq_some hFind,
        by simpa using List.find?_some hFind⟩
    cases fault with
    | beforeCommit => exact .inl ⟨_, rfl⟩
    | clean =>
        exact .inr ⟨⟨request, hRequest, hStage, hPass⟩,
          hPackage, rfl, rfl, rfl, ⟨_, rfl⟩, rfl⟩
    | afterCommit =>
        exact .inr ⟨⟨request, hRequest, hStage, hPass⟩,
          hPackage, rfl, rfl, rfl, ⟨_, rfl⟩, rfl⟩

end

--------
-- Amendments
--------

section

variable {s s' : Workflow}

/- An amendment gets past its first commit. -/
def opens (s : Workflow) (faults : AmendFaults) : Prop :=
  (∃ request ∈ s.request,
    request.packageStatus ∈ amendmentStages) ∧
  faults.opening ≠ .beforeCommit

instance (s : Workflow) (faults : AmendFaults) :
    Decidable (opens s faults) := by
  unfold opens
  infer_instance

/-
  An amendment that was opened gets past its last commit: the
  one that closes it, or the one that takes it back.
-/
def settles
    (s : Workflow)
    (packageId : String)
    (faults : AmendFaults) : Prop :=
  faults.opening = .clean ∧
    if packageId ∉ s.packages.map (·.packageId) ∧
        faults.assembly = .clean then
      faults.closing ≠ .beforeCommit
    else
      faults.revert ≠ .beforeCommit

instance
    (s : Workflow)
    (packageId : String)
    (faults : AmendFaults) :
    Decidable (settles s packageId faults) := by
  unfold settles
  infer_instance

/- At most one package is added, at the time of the clock. -/
def Packed (s s' : Workflow) (packageId : String) : Prop :=
  s'.packages = s.packages ∨
    packageId ∉ s.packages.map (·.packageId) ∧
      ∃ package, package.packageId = packageId ∧
        package.generatedAt = s.clock ∧
        s'.packages = s.packages ++ [package]

/- What an amendment that was opened leaves. -/
structure AmendedOf
    (s s' : Workflow)
    (packageId : String)
    (faults : AmendFaults) : Prop where
  settled :
    settles s packageId faults →
      s'.status = some .submitted ∨ s'.status = some .amended
  stuck :
    ¬ settles s packageId faults →
      s'.status = some .assembling
  packed : Packed s s' packageId
  signoffs : s'.signoffs = s.signoffs
  submissionLog : s'.submissionLog = s.submissionLog
  clock : s'.clock = s.clock

variable {prior : Stage}

theorem revertedStatus_cases
    (hPrior : prior ∈ amendmentStages) :
    revertedStatus prior = .submitted ∨
      revertedStatus prior = .amended := by
  cases prior <;> revert hPrior <;> decide

theorem setStatus_fst
    (s : Workflow)
    (request : RequestCase)
    (status : Stage)
    (fault : Fault) :
    (setStatus s request status fault).1 =
      if fault = .beforeCommit then s else
        { s with
          request :=
            some { request with packageStatus := status } } :=
  commit_fst fault s _

variable {faults : AmendFaults} {packageId : String}
variable {request : RequestCase}

/- The last commit of an amendment settles its stage. -/
theorem amendedOf_setStatus
    {s₁ : Workflow}
    (hPacked : Packed s s₁ packageId)
    (hSignoffs : s₁.signoffs = s.signoffs)
    (hLog : s₁.submissionLog = s.submissionLog)
    (hClock : s₁.clock = s.clock)
    (hRequest : s₁.request = some request)
    (hStage : request.packageStatus = .assembling)
    {target : Stage}
    (hTarget : target = .submitted ∨ target = .amended)
    {fault : Fault}
    (hSettles :
      settles s packageId faults ↔ fault ≠ .beforeCommit) :
    AmendedOf s (setStatus s₁ request target fault).1
      packageId faults := by
  rw [setStatus_fst]
  by_cases hFault : fault = .beforeCommit
  · rw [if_pos hFault]
    refine ⟨?_, ?_, hPacked, hSignoffs, hLog, hClock⟩
    · exact fun h => absurd hFault (hSettles.mp h)
    · intro _
      simp [Workflow.status, hRequest, hStage]
  · rw [if_neg hFault]
    refine ⟨?_, ?_, hPacked, hSignoffs, hLog, hClock⟩
    · intro _
      simpa [Workflow.status] using hTarget
    · exact fun h => absurd (hSettles.mpr hFault) h

/- The stage in a state is the stage of its case. -/
theorem exists_request
    {stage : Stage}
    (hStatus : s.status = some stage) :
    ∃ request, s.request = some request ∧
      request.packageStatus = stage := by
  simpa [Workflow.status] using hStatus

/- The assembly of an amendment, from the opened case on. -/
theorem amendOpened_amendedOf
    (hPrior : prior ∈ amendmentStages)
    (hRequest : s.request = some request)
    (hStage : request.packageStatus = .assembling)
    (packageId : String)
    (generatedBy : Option String)
    (hClean : faults.opening = .clean) :
    AmendedOf s
      (amendOpened s prior packageId generatedBy faults).1
      packageId faults := by
  have hAllowed :
      ∃ request, s.request = some request ∧
        request.packageStatus ∈ assemblyStages := by
    refine ⟨request, hRequest, ?_⟩
    rw [hStage]
    decide
  have hReverts :
      ¬ (packageId ∉ s.packages.map (·.packageId) ∧
        faults.assembly = .clean) →
      (settles s packageId faults ↔
        faults.revert ≠ .beforeCommit) := by
    intro hFailed
    rw [settles, if_neg hFailed, and_iff_right hClean]
  unfold amendOpened
  rcases assembleResponsePackage_cases s packageId generatedBy
      faults.assembly with
    ⟨error, hEq, hWhy⟩ | ⟨hFault, hAssembled, hOk⟩
  · -- nothing was stored, and the stage is taken back
    have hFailed :
        ¬ (packageId ∉ s.packages.map (·.packageId) ∧
          faults.assembly = .clean) := by
      rintro ⟨hFresh, hAssembly⟩
      rcases hWhy hAllowed with hOld | hBefore
      · exact hFresh hOld
      · rw [hAssembly] at hBefore
        cases hBefore
    rw [hEq]
    simp only [hRequest]
    exact amendedOf_setStatus (.inl rfl) rfl rfl rfl hRequest
      hStage (revertedStatus_cases hPrior) (hReverts hFailed)
  · generalize assembleResponsePackage s packageId generatedBy
      faults.assembly = result at hAssembled hOk
    rcases result with ⟨s₁, raised⟩
    rcases exists_request hAssembled.status with
      ⟨request₁, hRequest₁, hStage₁⟩
    have hPacked : Packed s s₁ packageId :=
      .inr ⟨hAssembled.fresh, hAssembled.packages⟩
    change s₁.request = some request₁ at hRequest₁
    simp only [hRequest₁]
    cases raised with
    | some error =>
        -- the package is stored, and the stage is taken back
        have hFailed :
            ¬ (packageId ∉ s.packages.map (·.packageId) ∧
              faults.assembly = .clean) := by
          rintro ⟨-, hAssembly⟩
          cases hOk.mpr hAssembly
        exact amendedOf_setStatus hPacked hAssembled.signoffs
          hAssembled.submissionLog hAssembled.clock hRequest₁
          hStage₁ (revertedStatus_cases hPrior)
          (hReverts hFailed)
    | none =>
        have hDone :
            packageId ∉ s.packages.map (·.packageId) ∧
              faults.assembly = .clean :=
          ⟨hAssembled.fresh, hOk.mp rfl⟩
        have hSettles :
            settles s packageId faults ↔
              faults.closing ≠ .beforeCommit := by
          rw [settles, if_pos hDone, and_iff_right hClean]
        exact amendedOf_setStatus hPacked hAssembled.signoffs
          hAssembled.submissionLog hAssembled.clock hRequest₁
          hStage₁ (.inr rfl) hSettles

/- An amendment is refused, or opened and settled or not. -/
theorem createAmendment_cases
    (s : Workflow)
    (packageId : String)
    (generatedBy : Option String)
    (faults : AmendFaults) :
    ¬ opens s faults ∧
      (createAmendment s packageId generatedBy faults).1 = s ∨
    opens s faults ∧
      AmendedOf s
        (createAmendment s packageId generatedBy faults).1
        packageId faults := by
  unfold createAmendment inStages opens
  cases hRequest : s.request with
  | none => exact .inl ⟨by simp, rfl⟩
  | some request =>
      simp only
      by_cases hStage : request.packageStatus ∈ amendmentStages
      · rw [if_pos hStage]
        cases hOpening : faults.opening with
        | beforeCommit => exact .inl ⟨by simp, rfl⟩
        | afterCommit =>
            have hNot : ¬ settles s packageId faults := by
              rw [settles, hOpening]
              exact fun h => Fault.noConfusion h.1
            refine .inr ⟨by simpa using hStage, ?_⟩
            exact ⟨fun h => absurd h hNot, fun _ => rfl,
              .inl rfl, rfl, rfl, rfl⟩
        | clean =>
            refine .inr ⟨by simpa using hStage, ?_⟩
            have hOpened :=
              amendOpened_amendedOf
                (s :=
                  { s with
                    request :=
                      some { request with
                        packageStatus := .assembling } })
                hStage rfl rfl packageId generatedBy hOpening
            exact ⟨hOpened.settled, hOpened.stuck,
              hOpened.packed, hOpened.signoffs,
              hOpened.submissionLog, hOpened.clock⟩
      · rw [if_neg hStage]
        exact .inl ⟨by simp [hStage], rfl⟩

--------
-- Sound States
--------

/- What the stage of a case says about its rows. -/
structure SoundRows
    (status : Option Stage)
    (packages : List Package)
    (signed : List SignoffType)
    (submissionLog : List Submission) : Prop where
  ready :
    status = some .ready →
      packages ≠ [] ∧ .finalApproval ∈ signed
  logged :
    status = some .submitted ∨ status = some .amended →
      submissionLog ≠ []
  past :
    submissionLog ≠ [] →
      status = some .submitted ∨ status = some .amended

/- The rows of the case are as its stage says. -/
def Sound (s : Workflow) : Prop :=
  SoundRows s.status s.packages s.signed s.submissionLog

/- The action keeps the rows of the case as its stage says. -/
def Orderly (s : Workflow) : Action → Prop
| .addSignoff signoffType _ _ fault =>
    signs s fault = true →
      s.submissionLog = [] ∧
      (signoffType = .finalApproval → s.packages ≠ []) ∧
      (signoffType = .submissionAuthorization →
        s.packages ≠ [] ∧ .finalApproval ∈ s.signed)
| .createAmendment packageId _ faults =>
    opens s faults →
      (settles s packageId faults ↔ s.submissionLog ≠ [])
| _ => True

instance (s : Workflow) (action : Action) :
    Decidable (Orderly s action) := by
  cases action <;> unfold Orderly <;> infer_instance

/- A stage that says nothing about the rows. -/
def Quiet (stage : Stage) : Prop :=
  stage ≠ .ready ∧ stage ≠ .submitted ∧ stage ≠ .amended

instance (stage : Stage) : Decidable (Quiet stage) := by
  unfold Quiet
  infer_instance

theorem quiet_of_early :
    ∀ stage ∈ earlyStages, Quiet stage := by
  decide

theorem quiet_of_assembly :
    ∀ stage ∈ assemblyStages, Quiet stage := by
  decide

/- In a quiet stage, the log is empty. -/
theorem Sound.log_eq_nil
    (hSound : Sound s)
    (hRequest : s.request = some request)
    (hQuiet : Quiet request.packageStatus) :
    s.submissionLog = [] := by
  have hStatus : s.status = some request.packageStatus := by
    rw [Workflow.status, hRequest]
    rfl
  by_contra hLog
  rcases hSound.past hLog with h | h
  · rw [hStatus, Option.some.injEq] at h
    exact hQuiet.2.1 h
  · rw [hStatus, Option.some.injEq] at h
    exact hQuiet.2.2 h

/- A quiet stage, of a case without a log. -/
theorem soundRows_of_quiet
    {stage : Stage}
    (hQuiet : Quiet stage)
    (packages : List Package)
    (signed : List SignoffType) :
    SoundRows (some stage) packages signed [] where
  ready := by simp [hQuiet.1]
  logged := by simp [hQuiet.2.1, hQuiet.2.2]
  past := by simp

theorem Restaged.sound
    (hSound : Sound s)
    (hRestaged : Restaged s s') :
    Sound s' := by
  rcases hRestaged with
    ⟨request, request', hRequest, hBefore, hAfter, rfl⟩
  have hLog : s.submissionLog = [] :=
    hSound.log_eq_nil hRequest (quiet_of_early _ hBefore)
  unfold Sound
  simp only [hLog]
  exact soundRows_of_quiet (quiet_of_early _ hAfter)
    s.packages s.signed

theorem Assembled.sound
    (hSound : Sound s)
    (hAssembled : Assembled s s' packageId) :
    Sound s' := by
  rcases hAssembled.allowed with ⟨request, hRequest, hStage⟩
  have hLog : s.submissionLog = [] :=
    hSound.log_eq_nil hRequest (quiet_of_assembly _ hStage)
  unfold Sound
  rw [hAssembled.status, hAssembled.submissionLog, hLog]
  exact soundRows_of_quiet (by decide) s'.packages s'.signed

theorem SubmittedOf.sound
    {rules : List RuleDefinition}
    {new : NewSubmission}
    {gateFaults : GateFaults}
    (hSubmitted : SubmittedOf rules s s' new gateFaults) :
    Sound s' := by
  rcases hSubmitted.submissionLog with ⟨row, hLog⟩
  unfold Sound
  rw [hSubmitted.status, hLog]
  exact ⟨by simp, by simp, by simp⟩

/- The types signed after a signoff. -/
theorem Signed.mem_signed
    {signoffType other : SignoffType}
    (hSigned : Signed s s' signoffType) :
    other ∈ s'.signed ↔
      other ∈ s.signed ∨ other = signoffType := by
  rcases hSigned.signoffs with ⟨signoff, rfl, -, hSignoffs⟩
  unfold Workflow.signed
  rw [hSignoffs, insertSignoff]
  split
  · rename_i hMem
    constructor
    · exact .inl
    · rintro (hOther | rfl)
      · exact hOther
      · exact hMem
  · simp

theorem Signed.sound_iff
    {signoffType : SignoffType}
    (hSigned : Signed s s' signoffType) :
    Sound s' ↔
      s.submissionLog = [] ∧
      (signoffType = .finalApproval → s.packages ≠ []) ∧
      (signoffType = .submissionAuthorization →
        s.packages ≠ [] ∧ .finalApproval ∈ s.signed) := by
  have hFinal :
      .finalApproval ∈ s'.signed ↔
        .finalApproval ∈ s.signed ∨
          .finalApproval = signoffType :=
    hSigned.mem_signed
  unfold Sound
  rw [hSigned.status, hSigned.packages, hSigned.submissionLog]
  constructor
  · intro hSound
    have hLog : s.submissionLog = [] := by
      by_contra hLog
      rcases hSound.past hLog with h | h <;>
        cases signoffType <;> cases h
    refine ⟨hLog, ?_, ?_⟩
    · rintro rfl
      exact (hSound.ready rfl).1
    · rintro rfl
      refine ⟨(hSound.ready rfl).1, ?_⟩
      simpa using hFinal.mp (hSound.ready rfl).2
  · rintro ⟨hLog, hApproval, hAuthorization⟩
    rw [hLog]
    cases signoffType with
    | scopeApproval =>
        exact soundRows_of_quiet (by decide) _ _
    | packageReview =>
        exact soundRows_of_quiet (by decide) _ _
    | finalApproval =>
        refine ⟨fun _ => ⟨hApproval rfl, ?_⟩, ?_, by simp⟩
        · exact hFinal.mpr (.inr rfl)
        · simp [statusTransition]
    | submissionAuthorization =>
        have hBoth := hAuthorization rfl
        refine ⟨fun _ => ⟨hBoth.1, ?_⟩, ?_, by simp⟩
        · exact hFinal.mpr (.inl hBoth.2)
        · simp [statusTransition]

theorem AmendedOf.sound_iff
    (hAmended : AmendedOf s s' packageId faults) :
    Sound s' ↔
      (settles s packageId faults ↔ s.submissionLog ≠ []) := by
  unfold Sound
  rw [hAmended.submissionLog]
  by_cases hSettles : settles s packageId faults
  · have hStatus := hAmended.settled hSettles
    rw [iff_true_left hSettles]
    constructor
    · exact fun hSound => hSound.logged hStatus
    · intro hLog
      refine ⟨?_, fun _ => hLog, fun _ => hStatus⟩
      intro hReady
      rw [hReady] at hStatus
      rcases hStatus with h | h <;> cases h
  · rw [hAmended.stuck hSettles, iff_false_left hSettles,
      not_not]
    constructor
    · intro hSound
      by_contra hLog
      rcases hSound.past hLog with h | h <;> cases h
    · intro hLog
      rw [hLog]
      exact soundRows_of_quiet (by decide) _ _

/- An orderly action, and no other, keeps a state sound. -/
theorem step_sound_iff
    (rules : List RuleDefinition)
    (s : Workflow)
    (action : Action)
    (hSound : Sound s) :
    Sound (step rules s action) ↔ Orderly s action := by
  change Sound (perform rules s action).1 ↔ _
  cases action with
  | createRequestCase requestCaseId new fault =>
      refine iff_of_true ?_ trivial
      rcases createRequestCase_cases s requestCaseId new
          fault with hSame | ⟨hNone, request, hStage, hEq⟩
      · simp only [perform, hSame]
        exact hSound
      · have hLog : s.submissionLog = [] := by
          by_contra hLog
          rcases hSound.past hLog with h | h <;>
            simp [Workflow.status, hNone] at h
        simp only [perform, hEq, Sound, Workflow.status,
          Option.map_some, hStage, hLog]
        exact soundRows_of_quiet (by decide) _ _
  | updateScope update fault =>
      refine iff_of_true ?_ trivial
      rcases updateScope_cases s update fault with
        hSame | hRestaged
      · simp only [perform, hSame]
        exact hSound
      · exact hRestaged.sound hSound
  | collectRecords fault =>
      refine iff_of_true ?_ trivial
      rcases collectRecords_cases s fault with
        hSame | hRestaged
      · simp only [perform, hSame]
        exact hSound
      · exact hRestaged.sound hSound
  | runGapAnalysis fault =>
      refine iff_of_true ?_ trivial
      rcases runGapAnalysis_cases rules s fault with
        hSame | hRestaged
      · simp only [perform, hSame]
        exact hSound
      · exact hRestaged.sound hSound
  | assembleResponsePackage packageId generatedBy fault =>
      refine iff_of_true ?_ trivial
      rcases assembleResponsePackage_cases s packageId
          generatedBy fault with
        ⟨error, hEq, -⟩ | ⟨-, hAssembled, -⟩
      · simp only [perform, hEq]
        exact hSound
      · exact hAssembled.sound hSound
  | addSignoff signoffType signedBy notes fault =>
      rcases addSignoff_cases s signoffType signedBy notes
          fault with ⟨hNot, hSame⟩ | ⟨hSigns, hSigned⟩
      · simp only [perform, hSame, Orderly, hNot]
        exact iff_of_true hSound (by simp)
      · simp only [Orderly, hSigns, forall_const]
        exact hSigned.sound_iff
  | submitPackage new gateFaults fault =>
      refine iff_of_true ?_ trivial
      rcases submitPackage_cases rules s new gateFaults
          fault with ⟨error, hEq⟩ | hSubmitted
      · simp only [perform, hEq]
        exact hSound
      · exact hSubmitted.sound
  | createAmendment packageId generatedBy faults =>
      rcases createAmendment_cases s packageId generatedBy
          faults with ⟨hNot, hSame⟩ | ⟨hOpens, hAmended⟩
      · simp only [perform, hSame, Orderly]
        exact iff_of_true hSound (fun h => absurd h hNot)
      · simp only [Orderly, hOpens, forall_const]
        exact hAmended.sound_iff
  | records op => exact iff_of_true hSound trivial

end

--------
-- Regular Runs
--------

variable {rules : List RuleDefinition}

/-
  In every state of a run a ready case has a package and a
  final approval, and a submitted or amended case has a row of
  the submission log; and a case that was submitted never
  returns to an earlier stage.
-/
structure Regular
    (rules : List RuleDefinition)
    (actions : List Action) : Prop where
  ready :
    ∀ before, before <+: actions →
      (run rules before).status = some .ready →
      (run rules before).packages ≠ [] ∧
        .finalApproval ∈ (run rules before).signed
  logged :
    ∀ before, before <+: actions →
      (run rules before).status = some .submitted ∨
        (run rules before).status = some .amended →
      (run rules before).submissionLog ≠ []
  never_returns :
    ∀ before later, before <+: later → later <+: actions →
      (run rules before).status = some .submitted →
      (run rules later).status = some .submitted ∨
        (run rules later).status = some .amended

/- A row is only added to the log by a submission. -/
theorem step_submissionLog
    (rules : List RuleDefinition)
    (s : Workflow)
    (action : Action) :
    (step rules s action).submissionLog = s.submissionLog ∨
      s.submissionLog <+: (step rules s action).submissionLog ∧
        (step rules s action).status = some .submitted := by
  change (perform rules s action).1.submissionLog = _ ∨
    _ <+: (perform rules s action).1.submissionLog ∧
      (perform rules s action).1.status = _
  cases action with
  | createRequestCase requestCaseId new fault =>
      rcases createRequestCase_cases s requestCaseId new
          fault with hSame | ⟨-, request, -, hEq⟩
      · exact .inl (by simp only [perform, hSame])
      · exact .inl (by simp only [perform, hEq])
  | updateScope update fault =>
      rcases updateScope_cases s update fault with
        hSame | ⟨_, _, -, -, -, hEq⟩
      · exact .inl (by simp only [perform, hSame])
      · exact .inl (by simp only [perform, hEq])
  | collectRecords fault =>
      rcases collectRecords_cases s fault with
        hSame | ⟨_, _, -, -, -, hEq⟩
      · exact .inl (by simp only [perform, hSame])
      · exact .inl (by simp only [perform, hEq])
  | runGapAnalysis fault =>
      rcases runGapAnalysis_cases rules s fault with
        hSame | ⟨_, _, -, -, -, hEq⟩
      · exact .inl (by simp only [perform, hSame])
      · exact .inl (by simp only [perform, hEq])
  | assembleResponsePackage packageId generatedBy fault =>
      rcases assembleResponsePackage_cases s packageId
          generatedBy fault with
        ⟨error, hEq, -⟩ | ⟨-, hAssembled, -⟩
      · exact .inl (by simp only [perform, hEq])
      · exact .inl hAssembled.submissionLog
  | addSignoff signoffType signedBy notes fault =>
      rcases addSignoff_cases s signoffType signedBy notes
          fault with ⟨-, hSame⟩ | ⟨-, hSigned⟩
      · exact .inl (by simp only [perform, hSame])
      · exact .inl hSigned.submissionLog
  | submitPackage new gateFaults fault =>
      rcases submitPackage_cases rules s new gateFaults
          fault with ⟨error, hEq⟩ | hSubmitted
      · exact .inl (by simp only [perform, hEq])
      · rcases hSubmitted.submissionLog with ⟨row, hLog⟩
        exact .inr ⟨⟨[row], hLog.symm⟩, hSubmitted.status⟩
  | createAmendment packageId generatedBy faults =>
      rcases createAmendment_cases s packageId generatedBy
          faults with ⟨-, hSame⟩ | ⟨-, hAmended⟩
      · exact .inl (by simp only [perform, hSame])
      · exact .inl hAmended.submissionLog
  | records op => exact .inl rfl

/- The log is never cut. -/
theorem submissionLog_prefix
    (rules : List RuleDefinition)
    (s : Workflow)
    (actions : List Action) :
    s.submissionLog <+:
      (actions.foldl (step rules) s).submissionLog := by
  induction actions generalizing s with
  | nil => exact List.prefix_refl _
  | cons action rest ih =>
      refine List.IsPrefix.trans ?_ (ih _)
      rcases step_submissionLog rules s action with
        hSame | ⟨hPrefix, -⟩
      · rw [hSame]
      · exact hPrefix

/- A log that is not empty goes back to a submitted case. -/
theorem exists_submitted
    (rules : List RuleDefinition)
    (actions : List Action)
    (hLog : (run rules actions).submissionLog ≠ []) :
    ∃ before, before <+: actions ∧
      (run rules before).status = some .submitted := by
  induction actions using List.reverseRecOn with
  | nil => exact absurd rfl hLog
  | append_singleton actions action ih =>
      have hRun :
          run rules (actions ++ [action]) =
            step rules (run rules actions) action := by
        simp [run]
      rw [hRun] at hLog
      rcases step_submissionLog rules (run rules actions)
          action with hSame | ⟨-, hStatus⟩
      · rw [hSame] at hLog
        rcases ih hLog with ⟨before, hPrefix, hBefore⟩
        exact ⟨before, hPrefix.trans (List.prefix_append _ _),
          hBefore⟩
      · exact ⟨actions ++ [action], List.prefix_refl _,
          hRun ▸ hStatus⟩

/- A run is regular when all its states are sound. -/
theorem regular_iff_sound
    (rules : List RuleDefinition)
    (actions : List Action) :
    Regular rules actions ↔
      ∀ before, before <+: actions →
        Sound (run rules before) := by
  constructor
  · intro hRegular before hPrefix
    refine ⟨hRegular.ready before hPrefix,
      hRegular.logged before hPrefix, ?_⟩
    intro hLog
    rcases exists_submitted rules before hLog with
      ⟨first, hFirst, hStatus⟩
    exact hRegular.never_returns first before hFirst hPrefix
      hStatus
  · intro hSound
    refine ⟨fun before hPrefix => (hSound before hPrefix).ready,
      fun before hPrefix => (hSound before hPrefix).logged, ?_⟩
    intro before later hBefore hLater hStatus
    have hLog :=
      (hSound before (hBefore.trans hLater)).logged
        (.inl hStatus)
    rcases hBefore with ⟨rest, rfl⟩
    refine (hSound _ hLater).past ?_
    have hPrefix :=
      submissionLog_prefix rules (run rules before) rest
    rw [run, List.foldl_append]
    exact fun hNil =>
      hLog (List.prefix_nil.mp (hNil ▸ hPrefix))

/-
  A run is regular exactly when its actions are orderly, each
  in the state it meets.
-/
theorem regular_iff_orderly
    (rules : List RuleDefinition)
    (actions : List Action) :
    Regular rules actions ↔
      Machine.Meets (Machine.total (step rules)) Orderly start
        actions := by
  have hStart : Sound start :=
    ⟨by simp [start, Workflow.status],
      by simp [start, Workflow.status], by simp [start]⟩
  rw [regular_iff_sound]
  exact Machine.always_iff_meets (step_sound_iff rules)
    actions hStart

/- A new case without a scope. -/
def opened : List Action :=
  [.createRequestCase "c" {} .clean]

/- A case whose first package is assembled. -/
def packed : List Action :=
  opened ++
    [.updateScope {} .clean, .collectRecords .clean,
      .runGapAnalysis .clean,
      .assembleResponsePackage "p" none .clean]

/- A case that is approved and submitted in good order. -/
def filed : List Action :=
  packed ++
    [.addSignoff .scopeApproval "qa" none .clean,
      .addSignoff .finalApproval "qa" none .clean,
      .submitPackage { packageId := "p", submittedBy := "qa" }
        ⟨false, false⟩ .clean]

/-
  A new case that is authorized becomes ready, a submitted
  case whose scope is approved again returns to triage, and an
  assembled case is amended that was never submitted.
-/
theorem not_regular_signoffs :
    ¬ Regular []
        (opened ++
          [.addSignoff .submissionAuthorization "qa" none
            .clean]) ∧
      ¬ Regular []
        (filed ++
          [.addSignoff .scopeApproval "qa" none .clean]) ∧
      ¬ Regular []
        (packed ++ [.createAmendment "q" none {}]) := by
  refine ⟨?_, ?_, ?_⟩
  · intro hRegular
    have hReady :=
      hRegular.ready _ (List.prefix_refl _) (by decide)
    exact absurd hReady.1 (by decide)
  · intro hRegular
    have hStatus :=
      hRegular.never_returns filed _ (List.prefix_append _ _)
        (List.prefix_refl _) (by decide)
    exact absurd hStatus (by decide)
  · intro hRegular
    have hLog :=
      hRegular.logged _ (List.prefix_refl _)
        (by decide)
    exact absurd hLog (by decide)

/- The run in good order is one of regular runs. -/
example :
    Machine.Meets (Machine.total (step [])) Orderly start
      filed := by
  decide

end RequestWorkflow

end RegEngine
