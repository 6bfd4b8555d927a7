import RegEngine.Shared.RequestWorkflow.Stages

/-
  The final approval of a case against the versions of its
  package, over whole runs of the workflow.

  A signoff row names the case and not a package, and the case
  has at most one of each type. So the only approval there is
  comes after the packages that were assembled before it, and
  before every package that is assembled later.

  Main declarations:
    * `RequestWorkflow.ApprovedAfter`
    * `RequestWorkflow.AssembledUnapproved`
    * `RequestWorkflow.approvedAfter_iff`
-/

--------
-- Growth of the Rows
--------

namespace RegEngine

namespace RequestWorkflow

section

variable {rules : List RuleDefinition} {s s' : Workflow}

/- An action adds a package, or a signoff, or neither. -/
inductive Grows (s s' : Workflow) : Prop where
  | same
      (hPackages : s'.packages = s.packages)
      (hSignoffs : s'.signoffs = s.signoffs)
  | packed
      (package : Package)
      (hFresh :
        package.packageId ∉ s.packages.map (·.packageId))
      (hTime : package.generatedAt = s.clock)
      (hPackages : s'.packages = s.packages ++ [package])
      (hSignoffs : s'.signoffs = s.signoffs)
  | signed
      (signoff : Signoff)
      (hNew : signoff.signoffType ∉ s.signed)
      (hTime : signoff.signedAt = s.clock)
      (hPackages : s'.packages = s.packages)
      (hSignoffs : s'.signoffs = s.signoffs ++ [signoff])

theorem Packed.grows
    {packageId : String}
    (hPacked : Packed s s' packageId)
    (hSignoffs : s'.signoffs = s.signoffs) :
    Grows s s' := by
  rcases hPacked with
    hSame | ⟨hFresh, package, rfl, hTime, hPackages⟩
  · exact .same hSame hSignoffs
  · exact .packed package hFresh hTime hPackages hSignoffs

theorem Signed.grows
    {signoffType : SignoffType}
    (hSigned : Signed s s' signoffType) :
    Grows s s' := by
  rcases hSigned.signoffs with
    ⟨signoff, rfl, hTime, hSignoffs⟩
  rw [insertSignoff] at hSignoffs
  split at hSignoffs
  · exact .same hSigned.packages hSignoffs
  · rename_i hNew
    exact .signed signoff hNew hTime hSigned.packages hSignoffs

/- What an action adds to the rows of the case. -/
theorem step_grows
    (rules : List RuleDefinition)
    (s : Workflow)
    (action : Action) :
    Grows s (step rules s action) := by
  have hPerform : Grows s (perform rules s action).1 := by
    cases action with
    | createRequestCase requestCaseId new fault =>
        rcases createRequestCase_cases s requestCaseId new
            fault with hSame | ⟨-, request, -, hEq⟩
        · exact .same (by simp only [perform, hSame])
            (by simp only [perform, hSame])
        · exact .same (by simp only [perform, hEq])
            (by simp only [perform, hEq])
    | updateScope update fault =>
        rcases updateScope_cases s update fault with
          hSame | ⟨_, _, -, -, -, hEq⟩
        · exact .same (by simp only [perform, hSame])
            (by simp only [perform, hSame])
        · exact .same (by simp only [perform, hEq])
            (by simp only [perform, hEq])
    | collectRecords fault =>
        rcases collectRecords_cases s fault with
          hSame | ⟨_, _, -, -, -, hEq⟩
        · exact .same (by simp only [perform, hSame])
            (by simp only [perform, hSame])
        · exact .same (by simp only [perform, hEq])
            (by simp only [perform, hEq])
    | runGapAnalysis fault =>
        rcases runGapAnalysis_cases rules s fault with
          hSame | ⟨_, _, -, -, -, hEq⟩
        · exact .same (by simp only [perform, hSame])
            (by simp only [perform, hSame])
        · exact .same (by simp only [perform, hEq])
            (by simp only [perform, hEq])
    | assembleResponsePackage packageId generatedBy fault =>
        rcases assembleResponsePackage_cases s packageId
            generatedBy fault with
          ⟨error, hEq, -⟩ | ⟨-, hAssembled, -⟩
        · exact .same (by simp only [perform, hEq])
            (by simp only [perform, hEq])
        · exact Packed.grows
            (.inr ⟨hAssembled.fresh, hAssembled.packages⟩)
            hAssembled.signoffs
    | addSignoff signoffType signedBy notes fault =>
        rcases addSignoff_cases s signoffType signedBy notes
            fault with ⟨-, hSame⟩ | ⟨-, hSigned⟩
        · exact .same (by simp only [perform, hSame])
            (by simp only [perform, hSame])
        · exact hSigned.grows
    | submitPackage new gateFaults fault =>
        rcases submitPackage_cases rules s new gateFaults
            fault with ⟨error, hEq⟩ | hSubmitted
        · exact .same (by simp only [perform, hEq])
            (by simp only [perform, hEq])
        · exact .same hSubmitted.packages hSubmitted.signoffs
    | createAmendment packageId generatedBy faults =>
        rcases createAmendment_cases s packageId generatedBy
            faults with ⟨-, hSame⟩ | ⟨-, hAmended⟩
        · exact .same (by simp only [perform, hSame])
            (by simp only [perform, hSame])
        · exact hAmended.packed.grows hAmended.signoffs
    | records op => exact .same rfl rfl
  -- the clock is not among the rows
  cases hPerform with
  | same hPackages hSignoffs => exact .same hPackages hSignoffs
  | packed package hFresh hTime hPackages hSignoffs =>
      exact .packed package hFresh hTime hPackages hSignoffs
  | signed signoff hNew hTime hPackages hSignoffs =>
      exact .signed signoff hNew hTime hPackages hSignoffs

--------
-- Rows over a Run
--------

/- Ids and types are not used twice, and no row is ahead. -/
structure Dated (s : Workflow) : Prop where
  packageIds : (s.packages.map (·.packageId)).Nodup
  signed : s.signed.Nodup
  signedAt : ∀ signoff ∈ s.signoffs, signoff.signedAt < s.clock

/- A later state has the rows, and newer ones. -/
structure Later (s s' : Workflow) : Prop where
  clock : s.clock ≤ s'.clock
  packages : ∀ package ∈ s.packages, package ∈ s'.packages
  signoffs : ∀ signoff ∈ s.signoffs, signoff ∈ s'.signoffs
  newer :
    ∀ signoff ∈ s'.signoffs,
      signoff ∈ s.signoffs ∨ s.clock ≤ signoff.signedAt

theorem dated_start : Dated start :=
  ⟨List.nodup_nil, List.nodup_nil, by simp [start]⟩

theorem step_dated
    (rules : List RuleDefinition)
    (s : Workflow)
    (action : Action)
    (hDated : Dated s) :
    Dated (step rules s action) := by
  have hClock : (step rules s action).clock = s.clock + 1 := rfl
  have hOld :
      ∀ signoff ∈ s.signoffs,
        signoff.signedAt < (step rules s action).clock := by
    intro signoff hMem
    have := hDated.signedAt signoff hMem
    omega
  cases step_grows rules s action with
  | same hPackages hSignoffs =>
      refine ⟨?_, ?_, ?_⟩
      · rw [hPackages]
        exact hDated.packageIds
      · rw [Workflow.signed, hSignoffs]
        exact hDated.signed
      · rw [hSignoffs]
        exact hOld
  | packed package hFresh hTime hPackages hSignoffs =>
      refine ⟨?_, ?_, ?_⟩
      · rw [hPackages, List.map_append]
        exact List.nodup_append'.mpr
          ⟨hDated.packageIds, List.nodup_singleton _,
            by simpa using hFresh⟩
      · rw [Workflow.signed, hSignoffs]
        exact hDated.signed
      · rw [hSignoffs]
        exact hOld
  | signed signoff hNew hTime hPackages hSignoffs =>
      refine ⟨?_, ?_, ?_⟩
      · rw [hPackages]
        exact hDated.packageIds
      · rw [Workflow.signed, hSignoffs, List.map_append]
        exact List.nodup_append'.mpr
          ⟨hDated.signed, List.nodup_singleton _,
            by simpa [Workflow.signed] using hNew⟩
      · rw [hSignoffs]
        intro other hMem
        rcases List.mem_append.mp hMem with hMem | hMem
        · exact hOld other hMem
        · rw [List.mem_singleton] at hMem
          rw [hMem, hTime, hClock]
          omega

/- The rows of every state a run reaches. -/
theorem run_dated
    (rules : List RuleDefinition)
    (actions : List Action) :
    Dated (run rules actions) :=
  Machine.foldl_keeps (step_dated rules) actions dated_start

theorem Later.refl (s : Workflow) : Later s s :=
  ⟨le_refl _, fun _ h => h, fun _ h => h, fun _ h => .inl h⟩

theorem Later.trans
    {first second third : Workflow}
    (hFirst : Later first second)
    (hSecond : Later second third) :
    Later first third where
  clock := hFirst.clock.trans hSecond.clock
  packages := fun package hMem =>
    hSecond.packages package (hFirst.packages package hMem)
  signoffs := fun signoff hMem =>
    hSecond.signoffs signoff (hFirst.signoffs signoff hMem)
  newer := by
    intro signoff hMem
    rcases hSecond.newer signoff hMem with hOld | hNew
    · exact hFirst.newer signoff hOld
    · exact .inr (hFirst.clock.trans hNew)

theorem step_later
    (rules : List RuleDefinition)
    (s : Workflow)
    (action : Action) :
    Later s (step rules s action) := by
  have hClock : s.clock ≤ (step rules s action).clock := by
    change s.clock ≤ s.clock + 1
    omega
  cases step_grows rules s action with
  | same hPackages hSignoffs =>
      refine ⟨hClock, ?_, ?_, ?_⟩
      · rw [hPackages]
        exact fun _ h => h
      · rw [hSignoffs]
        exact fun _ h => h
      · rw [hSignoffs]
        exact fun _ h => .inl h
  | packed package hFresh hTime hPackages hSignoffs =>
      refine ⟨hClock, ?_, ?_, ?_⟩
      · rw [hPackages]
        exact fun _ h => List.mem_append_left _ h
      · rw [hSignoffs]
        exact fun _ h => h
      · rw [hSignoffs]
        exact fun _ h => .inl h
  | signed signoff hNew hTime hPackages hSignoffs =>
      refine ⟨hClock, ?_, ?_, ?_⟩
      · rw [hPackages]
        exact fun _ h => h
      · rw [hSignoffs]
        exact fun _ h => List.mem_append_left _ h
      · rw [hSignoffs]
        intro other hMem
        rcases List.mem_append.mp hMem with hMem | hMem
        · exact .inl hMem
        · rw [List.mem_singleton] at hMem
          exact .inr (hMem ▸ hTime.ge)

theorem foldl_later
    (rules : List RuleDefinition)
    (s : Workflow)
    (actions : List Action) :
    Later s (actions.foldl (step rules) s) := by
  induction actions generalizing s with
  | nil => exact Later.refl s
  | cons action rest ih =>
      exact (step_later rules s action).trans (ih _)

end

--------
-- Approved Packages
--------

variable {rules : List RuleDefinition}

/- A final approval was recorded after the package was made. -/
def ApprovedAfter (s : Workflow) (packageId : String) : Prop :=
  ∃ package ∈ s.packages, package.packageId = packageId ∧
    ∃ signoff ∈ s.signoffs,
      signoff.signoffType = .finalApproval ∧
      package.generatedAt < signoff.signedAt

instance (s : Workflow) (packageId : String) :
    Decidable (ApprovedAfter s packageId) := by
  unfold ApprovedAfter
  infer_instance

def Workflow.packageIds (s : Workflow) : List String :=
  s.packages.map (·.packageId)

/- The last action of a run assembles a package. -/
def AssembledBy
    (rules : List RuleDefinition)
    (before : List Action)
    (action : Action)
    (packageId : String) : Prop :=
  packageId ∉ (run rules before).packageIds ∧
    packageId ∈ (run rules (before ++ [action])).packageIds

/-
  The package was assembled when the case had no final
  approval on record.
-/
def AssembledUnapproved
    (rules : List RuleDefinition)
    (actions : List Action)
    (packageId : String) : Prop :=
  ∃ before action, before ++ [action] <+: actions ∧
    AssembledBy rules before action packageId ∧
    .finalApproval ∉ (run rules before).signed

theorem run_append
    (rules : List RuleDefinition)
    (before after : List Action) :
    run rules (before ++ after) =
      after.foldl (step rules) (run rules before) := by
  rw [run, List.foldl_append]
  rfl

/- The states along a run. -/
theorem run_later
    {before actions : List Action}
    (hPrefix : before <+: actions) :
    Later (run rules before) (run rules actions) := by
  rcases hPrefix with ⟨after, rfl⟩
  rw [run_append]
  exact foldl_later rules _ after

variable {packageId : String}

/- Every package of a case was assembled by an action. -/
theorem exists_assembledBy
    (rules : List RuleDefinition)
    (actions : List Action)
    (hMem : packageId ∈ (run rules actions).packageIds) :
    ∃ before action, before ++ [action] <+: actions ∧
      AssembledBy rules before action packageId := by
  induction actions using List.reverseRecOn with
  | nil => cases hMem
  | append_singleton actions action ih =>
      by_cases hBefore :
          packageId ∈ (run rules actions).packageIds
      · rcases ih hBefore with
          ⟨before, action', hPrefix, hAssembled⟩
        exact ⟨before, action',
          hPrefix.trans (List.prefix_append _ _), hAssembled⟩
      · exact ⟨actions, action, List.prefix_refl _, hBefore,
          hMem⟩

/-
  The action that assembles a package dates it, and records no
  signoff.
-/
theorem AssembledBy.spec
    {before : List Action}
    {action : Action}
    (hAssembled :
      AssembledBy rules before action packageId) :
    (∃ package ∈ (run rules (before ++ [action])).packages,
      package.packageId = packageId ∧
      package.generatedAt = (run rules before).clock) ∧
    (run rules (before ++ [action])).signoffs =
      (run rules before).signoffs := by
  rcases hAssembled with ⟨hBefore, hAfter⟩
  rw [Workflow.packageIds, run_append] at hAfter
  rw [run_append]
  cases step_grows rules (run rules before) action with
  | same hPackages hSignoffs =>
      rw [List.foldl_cons, List.foldl_nil, hPackages] at hAfter
      exact absurd hAfter hBefore
  | signed signoff hNew hTime hPackages hSignoffs =>
      rw [List.foldl_cons, List.foldl_nil, hPackages] at hAfter
      exact absurd hAfter hBefore
  | packed package hFresh hTime hPackages hSignoffs =>
      rw [List.foldl_cons, List.foldl_nil, hPackages,
        List.map_append, List.mem_append] at hAfter
      refine ⟨⟨package, ?_, ?_, hTime⟩, hSignoffs⟩
      · rw [List.foldl_cons, List.foldl_nil, hPackages]
        simp
      · rcases hAfter with hOld | hNew
        · exact absurd hOld hBefore
        · rw [List.map_singleton, List.mem_singleton] at hNew
          exact hNew.symm

/-
  When a package is submitted without force, an approval was
  recorded after the package was assembled exactly when none
  had been recorded before.
-/
theorem approvedAfter_iff
    (rules : List RuleDefinition)
    (actions : List Action)
    (new : NewSubmission)
    (gateFaults : GateFaults)
    (fault : Fault)
    (hForce : new.force = false)
    (hSubmit :
      (perform rules (run rules actions)
        (.submitPackage new gateFaults fault)).2 = none) :
    ApprovedAfter (run rules actions) new.packageId ↔
      AssembledUnapproved rules actions new.packageId := by
  have hSubmitted :
      SubmittedOf rules (run rules actions)
        (perform rules (run rules actions)
          (.submitPackage new gateFaults fault)).1 new
        gateFaults := by
    rcases submitPackage_cases rules (run rules actions) new
        gateFaults fault with ⟨error, hEq⟩ | hSubmitted
    · rw [perform, hEq] at hSubmit
      cases hSubmit
    · exact hSubmitted
  constructor
  · rintro ⟨package, hPackage, hId, signoff, hSignoff, hType,
      hAfter⟩
    have hMem :
        new.packageId ∈ (run rules actions).packageIds :=
      List.mem_map.mpr ⟨package, hPackage, hId⟩
    rcases exists_assembledBy rules actions hMem with
      ⟨before, action, hPrefix, hAssembled⟩
    refine ⟨before, action, hPrefix, hAssembled, ?_⟩
    intro hApproved
    rcases List.mem_map.mp hApproved with
      ⟨earlier, hEarlier, hEarlierType⟩
    -- the case has one approval, and the package is newer
    have hDated := run_dated rules actions
    have hSame : signoff = earlier := by
      refine List.inj_on_of_nodup_map hDated.signed hSignoff ?_
        (hType.trans hEarlierType.symm)
      exact (run_later
        ((List.prefix_append _ _).trans hPrefix)).signoffs
        earlier hEarlier
    rcases hAssembled.spec with
      ⟨⟨made, hMade, hMadeId, hTime⟩, -⟩
    have hVersion : package = made := by
      refine List.inj_on_of_nodup_map hDated.packageIds
        hPackage ?_ (hId.trans hMadeId.symm)
      exact (run_later hPrefix).packages made hMade
    have hOlder :=
      (run_dated rules before).signedAt earlier hEarlier
    rw [hSame, hVersion, hTime] at hAfter
    omega
  · rintro ⟨before, action, hPrefix, hAssembled, hUnapproved⟩
    rcases hSubmitted.request with
      ⟨request, hRequest, hStage, hGate⟩
    have hSigned :
        .finalApproval ∈ (run rules actions).signed :=
      signed_of_canSubmit (hGate hForce) (by decide)
    rcases List.mem_map.mp hSigned with
      ⟨signoff, hSignoff, hType⟩
    rcases hAssembled.spec with
      ⟨⟨made, hMade, hMadeId, hTime⟩, hSignoffs⟩
    have hLater :
        Later (run rules (before ++ [action]))
          (run rules actions) :=
      run_later hPrefix
    refine ⟨made, hLater.packages made hMade, hMadeId, signoff,
      hSignoff, hType, ?_⟩
    rcases hLater.newer signoff hSignoff with hOld | hNew
    · rw [hSignoffs] at hOld
      exact absurd (List.mem_map.mpr ⟨signoff, hOld, hType⟩)
        hUnapproved
    · have hClock :
          (run rules (before ++ [action])).clock =
            (run rules before).clock + 1 := by
        rw [run_append]
        rfl
      omega

/- The package that was approved is submitted once more. -/
theorem approvedAfter_iff_filed :
    (perform [] (run [] filed)
      (.submitPackage { packageId := "p", submittedBy := "qa" }
        ⟨false, false⟩ .clean)).2 = none ∧
    (ApprovedAfter (run [] filed) "p" ↔
      AssembledUnapproved [] filed "p") := by
  have hSubmit :
      (perform [] (run [] filed)
        (.submitPackage
          { packageId := "p", submittedBy := "qa" }
          ⟨false, false⟩ .clean)).2 = none := by
    decide
  exact ⟨hSubmit, approvedAfter_iff [] filed _ _ _ rfl hSubmit⟩

/-
  A version that an amendment makes is submitted under the
  approval of the version before it.
-/
theorem not_approvedAfter_amended :
    (perform []
      (run [] (filed ++ [.createAmendment "q" none {}]))
      (.submitPackage { packageId := "q", submittedBy := "qa" }
        ⟨false, false⟩ .clean)).2 = none ∧
    ¬ ApprovedAfter
      (run [] (filed ++ [.createAmendment "q" none {}]))
      "q" := by
  constructor
  · decide
  · decide

end RequestWorkflow

end RegEngine
