import RegEngine.Ingestion.Remediation.Rows

/-
  Intake and revalidation give a record the same verdict
  exactly on settled rows that were not released before.

  Main declarations:
    * `Remediation.Agrees`
    * `Remediation.stageRows_stages`
    * `Remediation.revalidation_agrees_iff`
-/

--------
-- Issues by Their Identifiers
--------

namespace RegEngine

namespace Remediation

variable {failures : List Failure} {vd : Validator}
variable {rd : Reader} {first : Option Nat} {released : Bool}
variable {rowNumber : Nat}

/- A kept issue stands in the list. -/
theorem mem_of_mem_dedupe
    {seen : List String}
    {failure : Failure}
    (hMem : failure ∈ dedupe seen failures) :
    failure ∈ failures := by
  induction failures generalizing seen with
  | nil => exact hMem
  | cons first rest ih =>
      rw [dedupe] at hMem
      split at hMem
      · exact List.mem_cons_of_mem _ (ih hMem)
      · rcases List.mem_cons.mp hMem with hHead | hTail
        · rw [hHead]
          exact List.mem_cons_self
        · exact List.mem_cons_of_mem _ (ih hTail)

/- The first issue under an identifier is kept. -/
theorem mem_dedupe_of_first
    {seen : List String}
    {front back : List Failure}
    {failure : Failure}
    (hSeen : failure.issueId ∉ seen)
    (hFirst : ∀ f ∈ front, f.issueId ≠ failure.issueId) :
    failure ∈ dedupe seen (front ++ failure :: back) := by
  induction front generalizing seen with
  | nil => simp [dedupe, hSeen]
  | cons first rest ih =>
      have hRest :
          ∀ f ∈ rest, f.issueId ≠ failure.issueId :=
        fun f hMem => hFirst f (List.mem_cons_of_mem _ hMem)
      rw [List.cons_append, dedupe]
      split
      · exact ih hSeen hRest
      · refine List.mem_cons_of_mem _ (ih ?_ hRest)
        rw [List.mem_cons, not_or]
        exact ⟨Ne.symm (hFirst first List.mem_cons_self), hSeen⟩

/- Some issue is kept under the identifier of each. -/
theorem exists_mem_dedupe
    {seen : List String}
    {failure : Failure}
    (hMem : failure ∈ failures)
    (hSeen : failure.issueId ∉ seen) :
    ∃ kept ∈ dedupe seen failures,
      kept.issueId = failure.issueId := by
  induction failures generalizing seen with
  | nil => simp at hMem
  | cons first rest ih =>
      by_cases hSame : first.issueId = failure.issueId
      · refine ⟨first, ?_, hSame⟩
        rw [← hSame] at hSeen
        simp [dedupe, hSeen]
      · have hRest : failure ∈ rest := by
          rcases List.mem_cons.mp hMem with hHead | hTail
          · rw [hHead] at hSame
            exact absurd rfl hSame
          · exact hTail
        rw [dedupe]
        split
        · exact ih hRest hSeen
        · have hLater :
              failure.issueId ∉ first.issueId :: seen := by
            rw [List.mem_cons, not_or]
            exact ⟨Ne.symm hSame, hSeen⟩
          rcases ih hRest hLater with ⟨kept, hKept, hId⟩
          exact ⟨kept, List.mem_cons_of_mem _ hKept, hId⟩

/- The front of an identifier, which names its check. -/
def Failure.mark (failure : Failure) : List Char :=
  failure.issueId.toList.take 13

/- The front of a service check's identifier. -/
theorem serviceFailure_mark
    (check field why remediation : String)
    (sourceColumn : Option String) :
    (serviceFailure check field sourceColumn why
        remediation).mark =
      ("svc:".toList ++ check.toList ++
        ':' :: field.toList).take 13 := by
  simp [Failure.mark, serviceFailure]

variable {event : ManifestEvent}

/- No check of the event itself has such an identifier. -/
theorem eventFailures_mark
    {failure : Failure}
    (hMem : failure ∈ eventFailures vd event) :
    failure.mark.take 3 ≠ "svc".toList ∧
      failure.sourceColumn = none := by
  rcases List.mem_append.mp hMem with hKde | hRule
  · rcases List.mem_map.mp hKde with ⟨message, -, rfl⟩
    simp [Failure.mark, kdeFailure]
  · rcases List.mem_map.mp hRule with ⟨rule, -, rfl⟩
    simp [Failure.mark, ruleFailure]

--------
-- Comparing the Two Lists of Issues
--------

open Python (Value Dict)

open CsvTemplates (Reader)

/- An issue of a coercion: an unreadable number or date. -/
def Failure.OfCoercion (failure : Failure) : Prop :=
  failure.mark = "svc:invalid_q".toList ∨
    failure.mark = "svc:invalid_d".toList

/- The issue of a text that is no quantity. -/
theorem invalidQuantity_spec
    (sourceColumn : Option String)
    (text : String) :
    (invalidQuantity sourceColumn text).OfCoercion ∧
      (invalidQuantity sourceColumn text).sourceColumn =
        sourceColumn := by
  refine ⟨Or.inl ?_, rfl⟩
  rw [invalidQuantity, serviceFailure_mark]
  rfl

/- The issue of a quantity that is not above zero. -/
theorem nonpositiveQuantity_spec
    (sourceColumn : Option String)
    (quantity : Python.Float) :
    (nonpositiveQuantity sourceColumn quantity).OfCoercion ∧
      (nonpositiveQuantity sourceColumn quantity).sourceColumn =
        sourceColumn := by
  refine ⟨Or.inl ?_, rfl⟩
  rw [nonpositiveQuantity, serviceFailure_mark]
  rfl

theorem invalidDate_spec
    (sourceColumn : Option String)
    (path text warning : String) :
    (invalidDate sourceColumn path text warning).OfCoercion ∧
      (invalidDate sourceColumn path text
        warning).sourceColumn = sourceColumn := by
  refine ⟨Or.inr ?_, rfl⟩
  rw [invalidDate, serviceFailure_mark]
  rfl

/- An issue that a cell fails names its column. -/
theorem cellFailures_spec
    {cell : String × Cell}
    {failure : Failure}
    (hMem : failure ∈ cellFailures rd cell) :
    failure.OfCoercion ∧ failure.sourceColumn ≠ none := by
  have hDate :
      ∀ text col path trimRule,
        failure ∈ (normalizeDate rd text col path
            trimRule).failures →
          failure.OfCoercion ∧ failure.sourceColumn ≠ none := by
    intro text col path trimRule hFailure
    unfold normalizeDate at hFailure
    split at hFailure
    · rename_i warning _
      have hIssue := invalidDate_spec (some col) path text warning
      rw [List.mem_singleton.mp hFailure, hIssue.2]
      exact ⟨hIssue.1, by simp⟩
    · simp at hFailure
  rcases cell with ⟨col, raw | values⟩
  · by_cases hEmpty : Python.strip raw = ""
    · simp [cellFailures, reading, hEmpty] at hMem
    · simp only [cellFailures, reading, hEmpty, if_false]
        at hMem
      cases hPlace : placeOf rd col with
      | kde name dated =>
          rw [hPlace] at hMem
          cases dated with
          | false => simp [normalizeText] at hMem
          | true =>
              simp only [normalizeText] at hMem
              exact hDate _ _ _ _ hMem
      | top name =>
          rw [hPlace] at hMem
          simp only [normalizeText] at hMem
          unfold normalizeField at hMem
          split at hMem
          · split at hMem
            · simp at hMem
            · have hIssue :=
                invalidQuantity_spec (some col)
                  (Python.strip raw)
              rw [List.mem_singleton.mp hMem, hIssue.2]
              exact ⟨hIssue.1, by simp⟩
          · simp at hMem
          · simp at hMem
          · exact hDate _ _ _ _ hMem
          · simp at hMem
  · simp [cellFailures, reading] at hMem

/- An issue of the quantity of an event. -/
theorem quantityFailures_spec
    {sourceColumn : Option String}
    {quantity : Value}
    {failure : Failure}
    (hMem : failure ∈ quantityFailures sourceColumn quantity) :
    failure.OfCoercion ∧
      failure.sourceColumn = sourceColumn := by
  unfold quantityFailures at hMem
  split at hMem
  · split at hMem
    · rw [List.mem_singleton.mp hMem]
      exact nonpositiveQuantity_spec _ _
    · simp at hMem
  · simp at hMem

/- An issue that a revalidation finds names no column. -/
theorem coercionFailures_spec
    {failure : Failure}
    (hMem : failure ∈ coercionFailures rd event) :
    failure.OfCoercion ∧ failure.sourceColumn = none := by
  have hDate :
      ∀ path value,
        failure ∈ (coerceDate rd path value).failures →
          failure.OfCoercion ∧ failure.sourceColumn = none := by
    intro path value hFailure
    unfold coerceDate at hFailure
    split at hFailure
    · split at hFailure
      · simp at hFailure
      · split at hFailure
        · rw [List.mem_singleton.mp hFailure]
          exact invalidDate_spec _ _ _ _
        · split at hFailure
          · simp at hFailure
          · simp at hFailure
    · simp at hFailure
  simp only [coercionFailures, List.mem_append,
    List.mem_flatMap] at hMem
  rcases hMem with (hQuantity | hTimestamp) | ⟨entry, -, hKde⟩
  · unfold coerceQuantity at hQuantity
    split at hQuantity
    · split at hQuantity
      · rename_i x _
        have hCheck :
            failure ∈ quantityFailures none (.float x) :=
          hQuantity
        exact quantityFailures_spec hCheck
      · rw [List.mem_singleton.mp hQuantity]
        exact invalidQuantity_spec _ _
    · exact quantityFailures_spec hQuantity
  · exact hDate _ _ hTimestamp
  · unfold coerceKde at hKde
    split at hKde
    · exact hDate _ _ hKde
    · simp at hKde

/- The issue of a short lot code. -/
theorem tlcFailures_mark
    {tlc : Value}
    {failure : Failure}
    (hMem : failure ∈ tlcFailures tlc) :
    failure.mark = "svc:invalid_t".toList := by
  unfold tlcFailures at hMem
  split at hMem
  · split at hMem
    · rw [List.mem_singleton.mp hMem, invalidTlc,
        serviceFailure_mark]
      rfl
    · simp at hMem
  · simp at hMem

/- The issue of a product code. -/
theorem checkProductAlias_mark
    {aliases : List (String × String)}
    {failure : Failure}
    (hMem : failure ∈ (checkProductAlias aliases event).1) :
    failure.mark = "svc:unknown_p".toList := by
  unfold checkProductAlias at hMem
  split at hMem
  · split at hMem
    · simp at hMem
    · split at hMem
      · simp at hMem
      · rw [List.mem_singleton.mp hMem, unknownProductAlias,
          serviceFailure_mark]
        rfl
  · simp at hMem

/- The issue of a row that repeats another. -/
theorem duplicateRow_mark
    (rowNumber first : Nat) :
    (duplicateRow rowNumber first).mark =
      "svc:duplicate".toList := by
  rw [duplicateRow, serviceFailure_mark]
  rfl

/- The issue of a row that was released. -/
theorem duplicateEvent_mark
    (why : String) :
    (duplicateEvent why).mark = "svc:duplicate".toList := by
  rw [duplicateEvent, serviceFailure_mark]
  rfl

/- A duplicate of either list is told by its mark. -/
theorem duplicatesAtIntake_mark
    {failure : Failure}
    (hMem :
      failure ∈ duplicatesAtIntake first released rowNumber) :
    failure.mark = "svc:duplicate".toList := by
  unfold duplicatesAtIntake at hMem
  split at hMem
  · rw [List.mem_singleton.mp hMem]
    exact duplicateRow_mark _ _
  · split at hMem
    · rw [List.mem_singleton.mp hMem]
      exact duplicateEvent_mark _
    · simp at hMem

/- A duplicate of the other list as well. -/
theorem duplicatesAgain_mark
    {failure : Failure}
    (hMem :
      failure ∈ duplicatesAgain first released rowNumber) :
    failure.mark = "svc:duplicate".toList := by
  rcases List.mem_append.mp hMem with hRow | hEvent
  · rcases Option.mem_toList.mp hRow with hSome
    rcases Option.map_eq_some_iff.mp hSome with ⟨_, -, rfl⟩
    exact duplicateRow_mark _ _
  · split at hEvent
    · rw [List.mem_singleton.mp hEvent]
      exact duplicateEvent_mark _
    · simp at hEvent

/- The two wordings of a released duplicate differ. -/
theorem released_notMem_intake
    (first : Option Nat)
    (released : Bool)
    (rowNumber : Nat) :
    thisRowMatchesReleased ∉
      duplicatesAtIntake first released rowNumber := by
  intro hMem
  unfold duplicatesAtIntake at hMem
  split at hMem
  · have hId :=
      congrArg Failure.issueId (List.mem_singleton.mp hMem)
    simp only [thisRowMatchesReleased, duplicateEvent,
      duplicateRow, serviceFailure] at hId
    exact absurd hId (by decide)
  · split at hMem
    · have hWhy :=
        congrArg (fun f => f.whyFailed.toList.head?)
          (List.mem_singleton.mp hMem)
      simp only [thisRowMatchesReleased, matchesReleased,
        duplicateEvent, serviceFailure, String.toList_append,
        List.append_assoc] at hWhy
      exact absurd hWhy (by simp)
    · simp at hMem

/-
  The issues of an event, once with the checks of intake and
  once with those of revalidation, are the same just when no
  coercion fails in either and the row was not released.
-/
theorem dedupe_eq_iff
    (shared found again tlc codes : List Failure)
    (first : Option Nat)
    (released : Bool)
    (rowNumber : Nat)
    (hShared :
      ∀ f ∈ shared, f.mark.take 3 ≠ "svc".toList ∧
        f.sourceColumn = none)
    (hFound :
      ∀ f ∈ found, f.OfCoercion ∧ f.sourceColumn ≠ none)
    (hAgain :
      ∀ f ∈ again, f.OfCoercion ∧ f.sourceColumn = none)
    (hTlc : ∀ f ∈ tlc, f.mark = "svc:invalid_t".toList)
    (hCodes : ∀ f ∈ codes, f.mark = "svc:unknown_p".toList) :
    dedupe []
          (shared ++ (again ++ tlc ++
            duplicatesAgain first released rowNumber ++
            codes)) =
        dedupe []
          (shared ++ (found ++ tlc ++
            duplicatesAtIntake first released rowNumber ++
            codes)) ↔
      found = [] ∧ again = [] ∧ released = false := by
  have hSharedId :
      ∀ f ∈ shared, ∀ g : Failure,
        g.mark.take 3 = "svc".toList → f.issueId ≠ g.issueId := by
    intro f hMem g hMark hId
    apply (hShared f hMem).1
    rw [← hMark, Failure.mark, Failure.mark, hId]
  have hMarkId :
      ∀ f g : Failure, f.mark ≠ g.mark → f.issueId ≠ g.issueId := by
    intro f g hMark hId
    apply hMark
    rw [Failure.mark, Failure.mark, hId]
  have hCoercionMark :
      ∀ g : Failure, g.OfCoercion →
        g.mark.take 3 = "svc".toList := by
    rintro g (hMark | hMark)
    · rw [hMark]
      rfl
    · rw [hMark]
      rfl
  have hOthers :
      ∀ f : Failure, f.OfCoercion →
        f.mark ≠ "svc:invalid_t".toList ∧
          f.mark ≠ "svc:duplicate".toList ∧
            f.mark ≠ "svc:unknown_p".toList := by
    rintro f (hMark | hMark)
    · rw [hMark]
      decide
    · rw [hMark]
      decide
  constructor
  · intro hSame
    -- The first issue of a cell would be kept with its column.
    have hNoneFound : found = [] := by
      cases found with
      | nil => rfl
      | cons f rest =>
          exfalso
          have hIssue := hFound f List.mem_cons_self
          have hKept :
              f ∈ dedupe []
                (shared ++ f :: (rest ++ tlc ++
                  duplicatesAtIntake first released rowNumber ++
                  codes)) := by
            apply mem_dedupe_of_first (List.not_mem_nil)
            intro other hMem
            exact hSharedId other hMem f
              (hCoercionMark f hIssue.1)
          simp only [List.cons_append] at hSame
          rw [← hSame] at hKept
          have hMem := mem_of_mem_dedupe hKept
          simp only [List.mem_append] at hMem
          rcases hMem with hIn | ((hIn | hIn) | hIn) | hIn
          · exact hIssue.2 (hShared f hIn).2
          · exact hIssue.2 (hAgain f hIn).2
          · exact (hOthers f hIssue.1).1 (hTlc f hIn)
          · exact (hOthers f hIssue.1).2.1
              (duplicatesAgain_mark hIn)
          · exact (hOthers f hIssue.1).2.2 (hCodes f hIn)
    rw [hNoneFound, List.nil_append] at hSame
    -- Then no issue of a coercion is in either list.
    have hNoneAgain : again = [] := by
      rw [List.eq_nil_iff_forall_not_mem]
      intro f hMem
      have hIssue := (hAgain f hMem).1
      have hStands :
          f ∈ shared ++ (again ++ tlc ++
            duplicatesAgain first released rowNumber ++
            codes) := by
        simp [hMem]
      rcases exists_mem_dedupe hStands List.not_mem_nil with
        ⟨kept, hKept, hId⟩
      rw [hSame] at hKept
      have hIn := mem_of_mem_dedupe hKept
      simp only [List.mem_append] at hIn
      rcases hIn with hIn | (hIn | hIn) | hIn
      · exact hSharedId kept hIn f (hCoercionMark f hIssue) hId
      · refine hMarkId kept f ?_ hId
        rw [hTlc kept hIn]
        exact Ne.symm (hOthers f hIssue).1
      · refine hMarkId kept f ?_ hId
        rw [duplicatesAtIntake_mark hIn]
        exact Ne.symm (hOthers f hIssue).2.1
      · refine hMarkId kept f ?_ hId
        rw [hCodes kept hIn]
        exact Ne.symm (hOthers f hIssue).2.2
    rw [hNoneAgain, List.nil_append] at hSame
    refine ⟨hNoneFound, hNoneAgain, ?_⟩
    -- The two paths word a released duplicate in two ways.
    by_contra hReleased
    rw [Bool.not_eq_false] at hReleased
    have hMark :
        thisRowMatchesReleased.mark = "svc:duplicate".toList :=
      duplicateEvent_mark _
    have hKept :
        thisRowMatchesReleased ∈
          dedupe []
            ((shared ++ tlc ++
                (first.map (duplicateRow rowNumber)).toList) ++
              thisRowMatchesReleased :: codes) := by
      apply mem_dedupe_of_first List.not_mem_nil
      intro f hMem
      simp only [List.mem_append] at hMem
      rcases hMem with (hIn | hIn) | hIn
      · apply hSharedId f hIn
        rw [hMark]
        rfl
      · apply hMarkId
        rw [hTlc f hIn, hMark]
        decide
      · rcases Option.map_eq_some_iff.mp
          (Option.mem_toList.mp hIn) with ⟨_, -, rfl⟩
        simp only [duplicateRow, thisRowMatchesReleased,
          duplicateEvent, serviceFailure]
        decide
    have hAgainList :
        shared ++ (tlc ++
            duplicatesAgain first released rowNumber ++
            codes) =
          (shared ++ tlc ++
              (first.map (duplicateRow rowNumber)).toList) ++
            thisRowMatchesReleased :: codes := by
      simp [duplicatesAgain, hReleased]
    rw [← hAgainList, hSame] at hKept
    have hMem := mem_of_mem_dedupe hKept
    simp only [List.mem_append] at hMem
    rcases hMem with hIn | (hIn | hIn) | hIn
    · apply (hShared _ hIn).1
      rw [hMark]
      rfl
    · have hEq := hTlc _ hIn
      rw [hMark] at hEq
      exact absurd hEq (by decide)
    · exact released_notMem_intake first released rowNumber hIn
    · have hEq := hCodes _ hIn
      rw [hMark] at hEq
      exact absurd hEq (by decide)
  · rintro ⟨rfl, rfl, rfl⟩
    cases first with
    | none => rfl
    | some earlier => rfl

--------
-- The Verdict on One Record
--------

/- Two states of a record with one verdict and one event. -/
structure Agrees (before after : ManifestRecord) : Prop where
  failures : after.ruleFailures = before.ruleFailures
  blocking : after.validationStatus = before.validationStatus
  event : after.normalizedPayload = before.normalizedPayload

theorem verdict_of_failures
    (failures : List Failure) :
    (if (!failures.isEmpty) = true then RecordStatus.failed
      else RecordStatus.passed) =
      if failures = [] then .passed else .failed := by
  cases failures with
  | nil => rfl
  | cons first rest => rfl

/- The verdict of the intake says whether it found a failure. -/
theorem stagedRecord_validationStatus
    (sha256Hex : String → String)
    (db : Manifests)
    (runId : Uuid)
    (first : Option Nat)
    (rowNumber : Nat)
    (row : RawRow) :
    (stagedRecord vd sha256Hex db runId first rowNumber
        row).validationStatus =
      if (stagedRecord vd sha256Hex db runId first rowNumber
          row).ruleFailures = [] then .passed else .failed := by
  exact verdict_of_failures _

/- So does the verdict of a revalidation. -/
theorem revalidateRecord_validationStatus
    (vd : Validator)
    (db : Manifests)
    (recordId : Nat)
    (record : ManifestRecord) :
    (revalidateRecord vd db recordId
        record).validationStatus =
      if (revalidateRecord vd db recordId
          record).ruleFailures = [] then .passed
      else .failed := by
  exact verdict_of_failures _

/-
  A staged record whose lookups of duplicates give the same
  when it is validated again.
-/
theorem agrees_staged_iff
    {vd : Validator}
    {sha256Hex : String → String}
    {db db' : Manifests}
    {runId : Uuid}
    {first caseId : Option Nat}
    {rowNumber recordId : Nat}
    {row : RawRow}
    {record : ManifestRecord}
    (hRecord :
      record =
        { stagedRecord vd sha256Hex db runId first rowNumber
            row with remediationCaseId := caseId })
    (hAliases : db'.aliases = db.aliases)
    (hTwin :
      earlierTwin db'.records runId
        (rowFingerprint sha256Hex row) rowNumber = first)
    (hReleased :
      releasedBut db'.records (rowFingerprint sha256Hex row)
          (fun other => other != recordId) =
        releasedFingerprintExists db.records
          (rowFingerprint sha256Hex row)) :
    Agrees record (revalidateRecord vd db' recordId record) ↔
      Settled vd.toReader row ∧
        releasedFingerprintExists db.records
          (rowFingerprint sha256Hex row) = false := by
  have hAgree :
      Agrees record (revalidateRecord vd db' recordId record) ↔
        (revalidateRecord vd db' recordId record).ruleFailures =
            record.ruleFailures ∧
          coerceEvent vd.toReader
              (buildEventFromRow vd.toReader row).event =
            (buildEventFromRow vd.toReader row).event := by
    constructor
    · intro hSame
      refine ⟨hSame.failures, ?_⟩
      have hEvent := hSame.event
      rw [hRecord] at hEvent
      exact hEvent
    · rintro ⟨hFailures, hEvent⟩
      refine ⟨hFailures, ?_, ?_⟩
      · rw [revalidateRecord_validationStatus, hFailures]
        rw [hRecord]
        exact (stagedRecord_validationStatus
          sha256Hex db runId first rowNumber row).symm
      · rw [hRecord]
        exact hEvent
  have hLists :
      coerceEvent vd.toReader
            (buildEventFromRow vd.toReader row).event =
          (buildEventFromRow vd.toReader row).event →
        ((revalidateRecord vd db' recordId record).ruleFailures =
            record.ruleFailures ↔
          (row.cells.flatMap (cellFailures vd.toReader) ++
              quantityFailures (some "quantity")
                ((buildEventFromRow vd.toReader
                  row).event.fields.get "quantity") = [] ∧
            coercionFailures vd.toReader
                (buildEventFromRow vd.toReader row).event = [] ∧
            releasedFingerprintExists db.records
              (rowFingerprint sha256Hex row) = false)) := by
    intro hEvent
    rw [← dedupe_eq_iff
      (eventFailures vd
        (buildEventFromRow vd.toReader row).event) _ _
      (tlcFailures
        ((buildEventFromRow vd.toReader row).event.fields.get
          "traceability_lot_code"))
      (checkProductAlias db.aliases
        (buildEventFromRow vd.toReader row).event).1
      first _ rowNumber
      (fun f hMem => eventFailures_mark hMem) ?_
      (fun f hMem => coercionFailures_spec hMem)
      (fun f hMem => tlcFailures_mark hMem)
      (fun f hMem => checkProductAlias_mark hMem)]
    · rw [hRecord]
      simp only [revalidateRecord, revalidationSnapshot,
        stagedRecord, snapshotFailures, hEvent, hAliases,
        hTwin, hReleased, buildEventFromRow_failures,
        List.append_assoc]
    · intro f hMem
      rcases List.mem_append.mp hMem with hCell | hQuantity
      · rcases List.mem_flatMap.mp hCell with ⟨cell, -, hIn⟩
        exact cellFailures_spec hIn
      · have hIssue := quantityFailures_spec hQuantity
        exact ⟨hIssue.1, by simp [hIssue.2]⟩
  rw [hAgree, ← settled_iff]
  constructor
  · rintro ⟨hFailures, hEvent⟩
    have hNone := (hLists hEvent).mp hFailures
    exact ⟨⟨hNone.1, hNone.2.1, hEvent⟩, hNone.2.2⟩
  · rintro ⟨⟨hFound, hAgain, hEvent⟩, hFree⟩
    exact ⟨(hLists hEvent).mpr ⟨hFound, hAgain, hFree⟩, hEvent⟩

end Remediation

end RegEngine
