import RegEngine.Shared.RequestWorkflow.Approval
import RegEngine.Shared.RequestWorkflow.Manifest

/-
  What a request case keeps. The packages are numbered in the
  order in which they were made, every row of the submission
  log names a package that there was, with the number of its
  events, and no run takes away a row.

  Main declarations:
    * `RequestWorkflow.Registered`
    * `RequestWorkflow.step_registered`
    * `RequestWorkflow.run_registered`
-/

--------
-- New Versions
--------

namespace RegEngine

namespace RequestWorkflow

variable {rules : List RuleDefinition} {s s' : Workflow}

/- A package that is new has the next version number. -/
def Versioned (s s' : Workflow) : Prop :=
  ∀ package ∈ s'.packages, package ∈ s.packages ∨
    package.versionNumber = maxVersion s.packages + 1

theorem Versioned.of_packages
    (hPackages : s'.packages = s.packages) :
    Versioned s s' :=
  fun _ hMem => .inl (hPackages ▸ hMem)

theorem versioned_assemble
    (s : Workflow)
    (packageId : String)
    (generatedBy : Option String)
    (fault : Fault) :
    Versioned s
      (assembleResponsePackage s packageId generatedBy
        fault).1 := by
  intro package hMem
  rcases packages_assembleResponsePackage
      ⟨fun _ => true, fun _ => ""⟩ [] s packageId generatedBy
      fault package hMem with
    hOld | ⟨_, -, hVersion, -⟩
  · exact .inl hOld
  · exact .inr hVersion

/- The packages of an amendment are those of its assembly. -/
theorem amendOpened_packages
    (s : Workflow)
    (prior : Stage)
    (packageId : String)
    (generatedBy : Option String)
    (faults : AmendFaults) :
    (amendOpened s prior packageId generatedBy
        faults).1.packages =
      (assembleResponsePackage s packageId generatedBy
        faults.assembly).1.packages := by
  unfold amendOpened
  generalize assembleResponsePackage s packageId generatedBy
    faults.assembly = result
  rcases result with ⟨s', raised⟩
  cases hRequest : s'.request with
  | none => simp only [hRequest]
  | some request =>
      simp only [hRequest]
      cases raised <;>
        · simp only [setStatus_fst]
          split <;> rfl

theorem versioned_amendment
    (s : Workflow)
    (packageId : String)
    (generatedBy : Option String)
    (faults : AmendFaults) :
    Versioned s
      (createAmendment s packageId generatedBy faults).1 := by
  unfold createAmendment inStages
  cases s.request with
  | none => exact .of_packages rfl
  | some request =>
      simp only
      split
      · cases faults.opening with
        | beforeCommit | afterCommit =>
            exact .of_packages rfl
        | clean =>
            change ∀ package ∈
              (amendOpened _ _ _ _ _).1.packages, _
            rw [amendOpened_packages]
            exact versioned_assemble
              { s with
                request :=
                  some
                    { request with
                      packageStatus := .assembling } } _ _ _
      · exact .of_packages rfl

/- A new row of the log names a package of the case. -/
def Filed (s s' : Workflow) : Prop :=
  ∀ row ∈ s'.submissionLog, row ∈ s.submissionLog ∨
    ∃ package ∈ s.packages,
      package.packageId = row.packageId ∧
        package.totalEvents = row.recordCount ∧
        row.submittedAt = s.clock

theorem Filed.of_log
    (hLog : s'.submissionLog = s.submissionLog) :
    Filed s s' :=
  fun _ hMem => .inl (hLog ▸ hMem)

theorem filed_submission
    (rules : List RuleDefinition)
    (s : Workflow)
    (new : NewSubmission)
    (gateFaults : GateFaults)
    (fault : Fault) :
    Filed s (submitPackage rules s new gateFaults fault).1 := by
  unfold submitPackage
  split
  · exact .of_log rfl
  split
  · exact .of_log rfl
  rcases inStages_cases s [.ready, .submitted, .amended] _ with
    ⟨error, hError⟩ | ⟨request, -, -, hEq⟩
  · rw [hError]
    exact .of_log rfl
  · rw [hEq]
    simp only
    split
    · exact .of_log rfl
    split
    · exact .of_log rfl
    rename_i package hFind
    rw [commit_fst]
    split
    · exact .of_log rfl
    intro row hMem
    rcases List.mem_append.mp hMem with hOld | hNew
    · exact .inl hOld
    · cases List.mem_singleton.mp hNew
      refine .inr ⟨package, List.mem_of_find?_eq_some hFind,
        ?_, rfl, rfl⟩
      simpa using List.find?_some hFind

/- A case in another stage has the same rows. -/
theorem files_restaged
    (hCases : s' = s ∨ Restaged s s') :
    Versioned s s' ∧ Filed s s' := by
  rcases hCases with rfl | ⟨_, _, -, -, -, rfl⟩ <;>
    exact ⟨.of_packages rfl, .of_log rfl⟩

/- What every action adds to the packages and to the log. -/
theorem step_files
    (rules : List RuleDefinition)
    (s : Workflow)
    (action : Action) :
    Versioned s (step rules s action) ∧
      Filed s (step rules s action) := by
  change Versioned s (perform rules s action).1 ∧
    Filed s (perform rules s action).1
  cases action with
  | createRequestCase requestCaseId new fault =>
      rcases createRequestCase_cases s requestCaseId new
          fault with hSame | ⟨-, request, -, hEq⟩
      · simp only [perform, hSame]
        exact ⟨.of_packages rfl, .of_log rfl⟩
      · simp only [perform, hEq]
        exact ⟨.of_packages rfl, .of_log rfl⟩
  | updateScope update fault =>
      exact files_restaged (updateScope_cases s update fault)
  | collectRecords fault =>
      exact files_restaged (collectRecords_cases s fault)
  | runGapAnalysis fault =>
      exact files_restaged (runGapAnalysis_cases rules s fault)
  | assembleResponsePackage packageId generatedBy fault =>
      refine ⟨versioned_assemble s packageId generatedBy fault,
        .of_log ?_⟩
      rcases assembleResponsePackage_cases s packageId
          generatedBy fault with
        ⟨error, hEq, -⟩ | ⟨-, hAssembled, -⟩
      · simp only [perform, hEq]
      · exact hAssembled.submissionLog
  | addSignoff signoffType signedBy notes fault =>
      rcases addSignoff_cases s signoffType signedBy notes
          fault with ⟨-, hSame⟩ | ⟨-, hSigned⟩
      · simp only [perform, hSame]
        exact ⟨.of_packages rfl, .of_log rfl⟩
      · exact ⟨.of_packages hSigned.packages,
          .of_log hSigned.submissionLog⟩
  | submitPackage new gateFaults fault =>
      refine ⟨.of_packages ?_,
        filed_submission rules s new gateFaults fault⟩
      rcases submitPackage_cases rules s new gateFaults
          fault with ⟨error, hEq⟩ | hSubmitted
      · simp only [perform, hEq]
      · exact hSubmitted.packages
  | createAmendment packageId generatedBy faults =>
      refine ⟨versioned_amendment s packageId generatedBy
        faults, .of_log ?_⟩
      rcases createAmendment_cases s packageId generatedBy
          faults with ⟨-, hSame⟩ | ⟨-, hAmended⟩
      · simp only [perform, hSame]
      · exact hAmended.submissionLog
  | records op => exact ⟨.of_packages rfl, .of_log rfl⟩

--------
-- The Register Of A Case
--------

/-
  The packages of a case are numbered from one in the order in
  which they were made. Every row of the log has the number of
  events of a package that was made before.
-/
structure Registered (s : Workflow) : Prop where
  versions :
    s.packages.map (·.versionNumber) =
      List.range' 1 s.packages.length
  made : ∀ package ∈ s.packages, package.generatedAt < s.clock
  ordered :
    s.packages.Pairwise (fun first second =>
      first.generatedAt < second.generatedAt)
  filed :
    ∀ row ∈ s.submissionLog, ∃ package ∈ s.packages,
      package.packageId = row.packageId ∧
        package.totalEvents = row.recordCount ∧
        package.generatedAt < row.submittedAt

/- The highest of versions without gaps is their number. -/
theorem Registered.maxVersion_eq
    (hRegistered : Registered s) :
    maxVersion s.packages = s.packages.length := by
  have hMax :
      ∀ count, (List.range' 1 count).foldl max 0 = count := by
    intro count
    induction count with
    | zero => rfl
    | succ count ih =>
        rw [List.range'_concat, List.foldl_append, ih]
        simp [Nat.add_comm]
  rw [maxVersion, hRegistered.versions, hMax]

/- Every action keeps the register. -/
theorem step_registered
    (rules : List RuleDefinition)
    (s : Workflow)
    (action : Action)
    (hRegistered : Registered s) :
    Registered (step rules s action) := by
  have hClock : (step rules s action).clock = s.clock + 1 := rfl
  have hFiles := step_files rules s action
  have hLog :
      ∀ packages : List Package,
        (∀ package ∈ s.packages, package ∈ packages) →
        ∀ row ∈ (step rules s action).submissionLog,
          ∃ package ∈ packages,
            package.packageId = row.packageId ∧
              package.totalEvents = row.recordCount ∧
              package.generatedAt < row.submittedAt := by
    intro packages hKept row hMem
    rcases hFiles.2 row hMem with
      hOld | ⟨package, hPackage, hId, hCount, hTime⟩
    · rcases hRegistered.filed row hOld with
        ⟨package, hPackage, hRow⟩
      exact ⟨package, hKept package hPackage, hRow⟩
    · refine ⟨package, hKept package hPackage, hId, hCount, ?_⟩
      rw [hTime]
      exact hRegistered.made package hPackage
  have hMade :
      ∀ package ∈ s.packages,
        package.generatedAt < (step rules s action).clock := by
    intro package hMem
    have := hRegistered.made package hMem
    omega
  have hSame :
      (step rules s action).packages = s.packages →
        Registered (step rules s action) := by
    intro hPackages
    constructor <;> rw [hPackages]
    · exact hRegistered.versions
    · exact hMade
    · exact hRegistered.ordered
    · exact hLog s.packages fun _ h => h
  cases step_grows rules s action with
  | same hPackages hSignoffs => exact hSame hPackages
  | signed signoff hNew hTime hPackages hSignoffs =>
      exact hSame hPackages
  | packed package hFresh hTime hPackages hSignoffs =>
      have hVersion :
          package.versionNumber = s.packages.length + 1 := by
        rcases hFiles.1 package (by simp [hPackages]) with
          hOld | hNext
        · exact absurd (List.mem_map_of_mem hOld) hFresh
        · rw [hNext, hRegistered.maxVersion_eq]
      refine ⟨?_, ?_, ?_, ?_⟩
      · rw [hPackages, List.map_append, hRegistered.versions,
          List.length_append, List.length_singleton,
          List.range'_concat, List.map_singleton, hVersion]
        simp [Nat.add_comm]
      · rw [hPackages, List.forall_mem_append]
        refine ⟨hMade, List.forall_mem_singleton.mpr ?_⟩
        omega
      · rw [hPackages, List.pairwise_append]
        refine ⟨hRegistered.ordered,
          List.pairwise_singleton _ _, ?_⟩
        intro old hOld new hNew
        rw [List.mem_singleton.mp hNew, hTime]
        exact hRegistered.made old hOld
      · rw [hPackages]
        exact hLog _ fun _ h => List.mem_append_left _ h

/-
  After every run the packages are numbered without gaps in
  the order in which they were made, and the log refers to
  them. What is recorded is there after every longer run.
-/
theorem run_registered
    (rules : List RuleDefinition)
    (actions more : List Action) :
    Registered (run rules actions) ∧
      (run rules actions).packages <+:
        (run rules (actions ++ more)).packages ∧
      (run rules actions).signoffs <+:
        (run rules (actions ++ more)).signoffs ∧
      (run rules actions).submissionLog <+:
        (run rules (actions ++ more)).submissionLog := by
  have hStart : Registered start :=
    ⟨rfl, by simp [start], .nil, by simp [start]⟩
  refine ⟨Machine.foldl_keeps (step_registered rules) actions
    hStart, ?_⟩
  rw [run_append]
  generalize run rules actions = s
  refine ⟨?_, ?_, submissionLog_prefix rules s more⟩
  all_goals
    induction more generalizing s with
    | nil => exact List.prefix_refl _
    | cons action rest ih =>
        refine List.IsPrefix.trans ?_ (ih _)
        cases step_grows rules s action with
        | same hPackages hSignoffs =>
            simp only [hPackages, hSignoffs, List.prefix_refl]
        | packed package hFresh hTime hPackages hSignoffs =>
            simp only [hPackages, hSignoffs, List.prefix_refl,
              List.prefix_append]
        | signed signoff hNew hTime hPackages hSignoffs =>
            simp only [hPackages, hSignoffs, List.prefix_refl,
              List.prefix_append]

end RequestWorkflow

end RegEngine
