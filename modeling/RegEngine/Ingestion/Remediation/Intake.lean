import RegEngine.Ingestion.Remediation.Revalidation

/-
  What the intake of a manifest leaves behind, and when the
  revalidation of an untouched row agrees with it.

  Main declarations:
    * `Remediation.Manifests.RunsListed`
    * `Remediation.Scanned`
    * `Remediation.revalidation_agrees_iff`
-/

--------
-- One Row
--------

namespace RegEngine

namespace Remediation

section

def addRecord
    (db : Manifests)
    (ids : RowIds)
    (record : ManifestRecord) :
    Manifests :=
  { db with records := db.records.add ids.recordId record }

/- The insert of a blocked record and of its case. -/
def addBlocked
    (db : Manifests)
    (ids : RowIds)
    (supplierOrg : String)
    (record : ManifestRecord) :
    Manifests :=
  { addRecord db ids
      { record with remediationCaseId := some ids.caseId } with
    cases := db.cases.add ids.caseId
      (openCase ids.recordId supplierOrg record.ruleFailures) }

variable {db staged : Manifests} {ids : RowIds}
variable {supplierOrg : String} {entry : Nat × ManifestRecord}
variable {records records' : Keyed Nat ManifestRecord}
variable {rowNumber : Nat}

/- All that the insert of a record can do. -/
theorem stageRecord_cases
    {record : ManifestRecord}
    (hStage :
      stageRecord db ids supplierOrg record = .ok staged) :
    ids.recordId ∉ db.records.keys ∧
      ids.caseId ∉ db.cases.keys ∧
      ((record.validationStatus = .failed ∧
          staged = addBlocked db ids supplierOrg record) ∨
        (record.validationStatus = .passed ∧
          staged = addRecord db ids record)) := by
  unfold stageRecord at hStage
  by_cases hTaken :
      ids.recordId ∈ db.records.keys ∨
        ids.caseId ∈ db.cases.keys
  · rw [if_pos hTaken] at hStage
    cases hStage
  · rw [if_neg hTaken] at hStage
    rw [not_or] at hTaken
    refine ⟨hTaken.1, hTaken.2, ?_⟩
    cases hStatus : record.validationStatus with
    | failed =>
      rw [if_pos hStatus, Except.ok.injEq] at hStage
      exact Or.inl ⟨rfl, hStage.symm⟩
    | passed =>
      rw [if_neg (by rw [hStatus]; decide),
        Except.ok.injEq] at hStage
      exact Or.inr ⟨rfl, hStage.symm⟩

/- One record is inserted; only its case is still open. -/
theorem stageRecord_rows
    {record : ManifestRecord}
    (hStage :
      stageRecord db ids supplierOrg record = .ok staged) :
    staged.aliases = db.aliases ∧
      ∃ caseId,
        staged.records.rows =
          db.records.rows ++
            [(ids.recordId,
              { record with remediationCaseId := caseId })] := by
  rcases stageRecord_cases hStage with
    ⟨hFree, -, ⟨-, rfl⟩ | ⟨-, rfl⟩⟩
  · exact ⟨rfl, some ids.caseId, Keyed.rows_add hFree _⟩
  · exact ⟨rfl, record.remediationCaseId,
      Keyed.rows_add hFree _⟩

--------
-- The Loop over the Rows
--------

/- A row that comes later is no earlier twin. -/
theorem earlierTwin_of_later
    (hRows : records'.rows = records.rows ++ [entry])
    (hLater : rowNumber ≤ entry.2.rowNumber)
    (runId : Uuid)
    (fingerprint : String) :
    earlierTwin records' runId fingerprint rowNumber =
      earlierTwin records runId fingerprint rowNumber := by
  have hNot : ¬ entry.2.rowNumber < rowNumber := by
    omega
  simp [earlierTwin, hRows, List.filter_append, hNot]

/- The smallest of some numbers and a larger one. -/
theorem min?_concat_of_lt
    {numbers : List Nat}
    {last : Nat}
    (hLess : ∀ n ∈ numbers, n < last) :
    (numbers ++ [last]).min? =
      some (numbers.min?.getD last) := by
  rw [List.min?_eq_some_iff]
  cases hMin : numbers.min? with
  | none =>
    rw [List.min?_eq_none_iff] at hMin
    subst hMin
    simp
  | some least =>
    rcases List.min?_eq_some_iff.mp hMin with ⟨hMem, hLeast⟩
    refine ⟨by simp [hMem], ?_⟩
    intro n hIn
    rcases List.mem_append.mp hIn with hOld | hLast
    · exact hLeast n hOld
    · rw [List.mem_singleton] at hLast
      have hBelow := hLess least hMem
      rw [Option.getD_some]
      omega

/- The rows of a run before a number, with a row of that number. -/
theorem earlierTwin_next
    (hRows : records'.rows = records.rows ++ [entry])
    {runId : Uuid}
    (hRun : entry.2.ingestionRunId = runId)
    (hBelow :
      ∀ old ∈ records.rows, old.2.ingestionRunId = runId →
        old.2.rowNumber < entry.2.rowNumber)
    (fingerprint : String) :
    earlierTwin records' runId fingerprint
        (entry.2.rowNumber + 1) =
      if entry.2.rowFingerprint = fingerprint then
        some ((earlierTwin records runId fingerprint
          entry.2.rowNumber).getD entry.2.rowNumber)
      else
        earlierTwin records runId fingerprint
          entry.2.rowNumber := by
  have hOld :
      records.rows.filter (fun old =>
          old.2.ingestionRunId == runId &&
            old.2.rowFingerprint == fingerprint &&
            old.2.rowNumber < entry.2.rowNumber + 1) =
        records.rows.filter (fun old =>
          old.2.ingestionRunId == runId &&
            old.2.rowFingerprint == fingerprint &&
            old.2.rowNumber < entry.2.rowNumber) := by
    apply List.filter_congr
    intro old hMem
    by_cases hSame : old.2.ingestionRunId = runId
    · have hLess := hBelow old hMem hSame
      simp [hLess, Nat.lt_succ_of_lt hLess]
    · rw [beq_eq_false_iff_ne.mpr hSame]
      rfl
  by_cases hPrint : entry.2.rowFingerprint = fingerprint
  · rw [if_pos hPrint]
    unfold earlierTwin
    rw [hRows, List.filter_append, hOld, List.map_append]
    simp only [hRun, hPrint, beq_self_eq_true, Bool.true_and,
      Nat.lt_succ_self, decide_true, List.filter_cons_of_pos,
      List.filter_nil, List.map_cons, List.map_nil]
    apply min?_concat_of_lt
    intro n hMem
    rcases List.mem_map.mp hMem with ⟨old, hIn, rfl⟩
    have hKept := (List.mem_filter.mp hIn).2
    simp only [Bool.and_eq_true, decide_eq_true_eq] at hKept
    exact hKept.2
  · rw [if_neg hPrint]
    unfold earlierTwin
    rw [hRows, List.filter_append, hOld]
    simp [hPrint]

/- The fingerprints seen, with that of one more row. -/
theorem lookup_noteSeen
    (seen : List (String × Nat))
    (fingerprint other : String)
    (rowNumber : Nat) :
    (noteSeen seen fingerprint rowNumber).lookup other =
      if fingerprint = other then
        some ((seen.lookup other).getD rowNumber)
      else seen.lookup other := by
  unfold noteSeen
  by_cases hSame : fingerprint = other
  · subst hSame
    rw [if_pos rfl]
    cases hSeen : seen.lookup fingerprint with
    | none => exact List.lookup_cons_self
    | some first => exact hSeen
  · rw [if_neg hSame]
    have hNe : (other == fingerprint) = false :=
      beq_eq_false_iff_ne.mpr (Ne.symm hSame)
    cases seen.lookup fingerprint with
    | none => rw [List.lookup_cons, hNe]
    | some first => rfl

/-
  A row of a run as its intake staged it: the first equal row
  is the one that the table shows.
-/
def AsStaged
    (vd : Validator)
    (sha256Hex : String → String)
    (start : Manifests)
    (records : Keyed Nat ManifestRecord)
    (record : ManifestRecord) :
    Prop :=
  ∃ caseId,
    record =
      { stagedRecord vd sha256Hex start record.ingestionRunId
          (earlierTwin records record.ingestionRunId
            (rowFingerprint sha256Hex record.rawRow)
            record.rowNumber)
          record.rowNumber record.rawRow with
        remediationCaseId := caseId }

/-
  The loop of an intake before a row: what it remembers are
  the rows of its run that the table has.
-/
structure Scanned
    (vd : Validator)
    (sha256Hex : String → String)
    (runId : Uuid)
    (start : Manifests)
    (rowNumber : Nat)
    (seen : List (String × Nat))
    (db : Manifests) :
    Prop where
  aliases : db.aliases = start.aliases
  released :
    ∀ fingerprint,
      releasedFingerprintExists db.records fingerprint =
        releasedFingerprintExists start.records fingerprint
  remembered :
    ∀ fingerprint,
      earlierTwin db.records runId fingerprint rowNumber =
        seen.lookup fingerprint
  below :
    ∀ entry ∈ db.records.rows,
      entry.2.ingestionRunId = runId →
        entry.2.rowNumber < rowNumber
  staged :
    ∀ entry ∈ db.records.rows,
      entry.2.ingestionRunId = runId →
        AsStaged vd sha256Hex start db.records entry.2

/- A staged row of one that was staged does not count. -/
theorem releasedFingerprintExists_staged
    (hRows : records'.rows = records.rows ++ [entry])
    (hStaged : entry.2.releaseStatus = .staged)
    (fingerprint : String) :
    releasedFingerprintExists records' fingerprint =
      releasedFingerprintExists records fingerprint := by
  simp [releasedFingerprintExists, releasedBut, hRows,
    List.any_append, hStaged]

--------
-- The Loop Keeps What It Remembers
--------

variable {vd : Validator} {sha256Hex : String → String}

variable {runId : Uuid} {start : Manifests}

/- The intake of a row reads of the rows only its lookups. -/
theorem stagedRecord_congr
    {db : Manifests}
    (hAliases : db.aliases = start.aliases)
    {row : RawRow}
    (hReleased :
      releasedFingerprintExists db.records
          (rowFingerprint sha256Hex row) =
        releasedFingerprintExists start.records
          (rowFingerprint sha256Hex row))
    (first : Option Nat)
    (rowNumber : Nat) :
    stagedRecord vd sha256Hex db runId first rowNumber row =
      stagedRecord vd sha256Hex start runId first rowNumber
        row := by
  simp only [stagedRecord, hAliases, hReleased]

/- What a later row leaves of a row that was staged. -/
theorem AsStaged.later
    {record : ManifestRecord}
    (hStaged : AsStaged vd sha256Hex start records record)
    (hRows : records'.rows = records.rows ++ [entry])
    (hLater : record.rowNumber ≤ entry.2.rowNumber) :
    AsStaged vd sha256Hex start records' record := by
  unfold AsStaged
  rw [earlierTwin_of_later hRows hLater]
  exact hStaged

/- One row of the loop. -/
theorem stageRecord_scanned
    {seen : List (String × Nat)}
    (hScanned :
      Scanned vd sha256Hex runId start rowNumber seen db)
    {row : RawRow}
    (hStage :
      stageRecord db ids supplierOrg
          (stagedRecord vd sha256Hex db runId
            (seen.lookup (rowFingerprint sha256Hex row))
            rowNumber row) =
        .ok staged) :
    Scanned vd sha256Hex runId start (rowNumber + 1)
      (noteSeen seen (rowFingerprint sha256Hex row) rowNumber)
      staged := by
  rcases stageRecord_rows hStage with
    ⟨hAliases, caseId, hRows⟩
  rw [stagedRecord_congr hScanned.aliases
    (hScanned.released _)] at hRows
  refine ⟨hAliases.trans hScanned.aliases, ?_, ?_, ?_, ?_⟩
  · intro fingerprint
    rw [releasedFingerprintExists_staged hRows rfl]
    exact hScanned.released fingerprint
  · intro fingerprint
    rw [lookup_noteSeen, ← hScanned.remembered]
    exact earlierTwin_next hRows rfl hScanned.below fingerprint
  · intro entry hMem hRun
    rw [hRows] at hMem
    rcases List.mem_append.mp hMem with hOld | hNew
    · have hLess := hScanned.below entry hOld hRun
      omega
    · rw [List.mem_singleton] at hNew
      subst hNew
      exact Nat.lt_succ_self rowNumber
  · intro entry hMem hRun
    rw [hRows] at hMem
    rcases List.mem_append.mp hMem with hOld | hNew
    · have hLess := hScanned.below entry hOld hRun
      exact (hScanned.staged entry hOld hRun).later hRows
        (Nat.le_of_lt hLess)
    · rw [List.mem_singleton] at hNew
      subst hNew
      refine ⟨caseId, ?_⟩
      have hFirst :
          earlierTwin staged.records runId
              (rowFingerprint sha256Hex row) rowNumber =
            seen.lookup (rowFingerprint sha256Hex row) := by
        rw [← hScanned.remembered]
        exact earlierTwin_of_later hRows
          (Nat.le_refl rowNumber) runId _
      simp only [stagedRecord, hFirst]

/- The whole loop. -/
theorem stageRows_scanned
    {rows : List (RawRow × RowIds)}
    {seen : List (String × Nat)}
    {db db' : Manifests}
    (hScanned :
      Scanned vd sha256Hex runId start rowNumber seen db)
    (hStage :
      stageRows vd sha256Hex runId supplierOrg rowNumber seen
          rows db =
        .ok db') :
    ∃ next seen',
      Scanned vd sha256Hex runId start next seen' db' := by
  induction rows generalizing rowNumber seen db with
  | nil =>
    simp only [stageRows, Except.ok.injEq] at hStage
    subst hStage
    exact ⟨rowNumber, seen, hScanned⟩
  | cons first rest ih =>
    simp only [stageRows] at hStage
    rcases Outcome.bind_eq_ok.mp hStage with
      ⟨staged, hFirst, hRest⟩
    exact ih (stageRecord_scanned hScanned hFirst) hRest

end

--------
-- The Whole Intake
--------

/- Every record names a run of the table of runs. -/
def Manifests.RunsListed (db : Manifests) : Prop :=
  ∀ entry ∈ db.records.rows,
    ∃ tenantId,
      (entry.2.ingestionRunId, tenantId) ∈
        db.canonical.ingestionRuns

/- The records of a run after its intake. -/
theorem ingestManifest_asStaged
    {vd : Validator}
    {sha256Hex : String → String}
    {tenantId runId : Uuid}
    {supplierOrg : String}
    {rows : List (RawRow × RowIds)}
    {db db' : Manifests}
    (hListed : db.RunsListed)
    (hIngest :
      ingestManifest vd sha256Hex tenantId runId supplierOrg
          rows db =
        .ok db') :
    ∃ next seen,
      Scanned vd sha256Hex runId db next seen db' := by
  unfold ingestManifest at hIngest
  split at hIngest
  · cases hIngest
  split at hIngest
  · cases hIngest
  split at hIngest
  · cases hIngest
  rename_i hFree
  have hNone :
      ∀ entry ∈ db.records.rows,
        entry.2.ingestionRunId ≠ runId := by
    intro entry hMem hRun
    rcases hListed entry hMem with ⟨tenant, hIn⟩
    apply hFree
    rw [List.any_eq_true]
    exact ⟨_, hIn, by simp [hRun]⟩
  refine stageRows_scanned ?_ hIngest
  refine ⟨rfl, fun _ => rfl, ?_, ?_, ?_⟩
  · intro fingerprint
    have hFilter :
        db.records.rows.filter (fun entry =>
            entry.2.ingestionRunId == runId &&
              entry.2.rowFingerprint == fingerprint &&
              entry.2.rowNumber < 1) = [] := by
      rw [List.filter_eq_nil_iff]
      intro entry hMem
      simp [beq_eq_false_iff_ne.mpr (hNone entry hMem)]
    simp only [earlierTwin, hFilter]
    rfl
  · intro entry hMem hRun
    exact absurd hRun (hNone entry hMem)
  · intro entry hMem hRun
    exact absurd hRun (hNone entry hMem)

/- A record that is not released hides none that is. -/
theorem releasedBut_self
    {records : Keyed Nat ManifestRecord}
    {recordId : Nat}
    {record : ManifestRecord}
    (hFind : records.find recordId = some record)
    (hStaged : record.releaseStatus = .staged)
    (fingerprint : String) :
    releasedBut records fingerprint
        (fun other => other != recordId) =
      releasedFingerprintExists records fingerprint := by
  unfold releasedFingerprintExists releasedBut
  rw [Bool.eq_iff_iff, List.any_eq_true, List.any_eq_true]
  constructor
  · rintro ⟨entry, hMem, hEntry⟩
    refine ⟨entry, hMem, ?_⟩
    simp only [Bool.and_eq_true] at hEntry ⊢
    exact ⟨hEntry.1, trivial⟩
  · rintro ⟨entry, hMem, hEntry⟩
    refine ⟨entry, hMem, ?_⟩
    simp only [Bool.and_eq_true] at hEntry ⊢
    refine ⟨hEntry.1, ?_⟩
    rw [bne_iff_ne]
    intro hSame
    have hEntryFind : records.find entry.1 = some entry.2 :=
      Keyed.find_eq_some_iff.mpr hMem
    rw [hSame, hFind, Option.some.injEq] at hEntryFind
    have hReleased := hEntry.1.1
    rw [← hEntryFind, hStaged] at hReleased
    exact absurd hReleased (by decide)

/-
  The revalidation of an untouched record gives the failures,
  the verdict and the event of the intake exactly when the
  cells of its row are settled and no released record has its
  fingerprint.
-/
theorem revalidation_agrees_iff
    {vd : Validator}
    {sha256Hex : String → String}
    {tenantId runId : Uuid}
    {supplierOrg : String}
    {rows : List (RawRow × RowIds)}
    {db db' : Manifests}
    (hListed : db.RunsListed)
    (hIngest :
      ingestManifest vd sha256Hex tenantId runId supplierOrg
          rows db =
        .ok db')
    {recordId : Nat}
    {record : ManifestRecord}
    (hFind : db'.records.find recordId = some record)
    (hRun : record.ingestionRunId = runId) :
    Agrees record (revalidateRecord vd db' recordId record) ↔
      Settled vd.toReader record.rawRow ∧
        releasedFingerprintExists db.records
          record.rowFingerprint = false := by
  rcases ingestManifest_asStaged hListed hIngest with
    ⟨next, seen, hScanned⟩
  have hIn := Keyed.find_eq_some_iff.mp hFind
  have hAsStaged :
      AsStaged vd sha256Hex db db'.records record :=
    hScanned.staged _ hIn hRun
  rcases hAsStaged with ⟨caseId, hRecord⟩
  have hPrint :
      record.rowFingerprint =
        rowFingerprint sha256Hex record.rawRow :=
    congrArg ManifestRecord.rowFingerprint hRecord
  have hStaged : record.releaseStatus = .staged :=
    congrArg ManifestRecord.releaseStatus hRecord
  rw [hPrint]
  apply agrees_staged_iff hRecord hScanned.aliases rfl
  rw [releasedBut_self hFind hStaged]
  exact hScanned.released _

--------
-- A Harvest
--------

/- A validator that no event fails. -/
def plainValidator : Validator where
  toReader := CsvTemplates.isoReader
  kdeErrors := fun _ => []
  ruleResults := fun _ => []

def exampleTenant : Uuid :=
  ⟨"00000000-0000-0000-0000-0000000000aa", isUuidText_aa⟩

def exampleRun : Uuid :=
  ⟨"00000000-0000-0000-0000-000000000001", isUuidText_one⟩

def Manifests.empty : Manifests where
  records := Keyed.empty
  cases := Keyed.empty
  patches := []
  aliases := []
  canonical := Db.empty

def harvestCells : List (String × Cell) :=
  [("cte_type", .text "harvesting"),
    ("traceability_lot_code", .text "LOT-1001"),
    ("product_description", .text "Romaine"),
    ("quantity", .text "10"),
    ("unit_of_measure", .text "cases"),
    ("location_name", .text "Farm 1"),
    ("harvest_date", .text "2026-01-05"),
    ("immediate_subsequent_recipient", .text "Packer 1"),
    ("reference_document", .text "BOL 1")]

/- A harvest with its required data. -/
def harvestRow : RawRow where
  cells := harvestCells
  distinct := by decide
  surplus_unnamed := by
    intro col values hMem
    simp [harvestCells] at hMem

/- The harvest with a date that does not apply to it. -/
def unexpiringRow : RawRow where
  cells := harvestCells ++ [("expiration_date", .text "N/A")]
  distinct := by decide
  surplus_unnamed := by
    intro col values hMem
    simp [harvestCells] at hMem

/- The intake of one row, and the revalidation of its record. -/
def untouched (row : RawRow) :
    Option (Manifests × ManifestRecord × ManifestRecord) :=
  (ingestManifest plainValidator id exampleTenant exampleRun
      "Farm 1" [(row, ⟨0, 0⟩)] Manifests.empty).toOption.bind
    (fun db => (db.records.find 0).map (fun record =>
      (db, record, revalidateRecord plainValidator db 0 record)))

/- What an untouched record is made of. -/
theorem untouched_eq_some
    {row : RawRow}
    {db : Manifests}
    {record again : ManifestRecord}
    (hRun : untouched row = some (db, record, again)) :
    ingestManifest plainValidator id exampleTenant exampleRun
          "Farm 1" [(row, ⟨0, 0⟩)] Manifests.empty =
        .ok db ∧
      db.records.find 0 = some record ∧
      again = revalidateRecord plainValidator db 0 record := by
  unfold untouched at hRun
  rcases Option.bind_eq_some_iff.mp hRun with
    ⟨after, hIngest, hRest⟩
  rcases Option.map_eq_some_iff.mp hRest with
    ⟨found, hFind, hEq⟩
  cases hResult : ingestManifest plainValidator id
      exampleTenant exampleRun "Farm 1" [(row, ⟨0, 0⟩)]
      Manifests.empty with
  | error raised =>
    rw [hResult] at hIngest
    cases hIngest
  | ok staged =>
    rw [hResult] at hIngest
    cases hIngest
    cases hEq
    exact ⟨rfl, hFind, rfl⟩

/- Without records every record names a listed run. -/
theorem runsListed_empty : Manifests.empty.RunsListed := by
  intro entry hMem
  exact absurd hMem List.not_mem_nil

/- The harvest is validated alike both times. -/
theorem harvest_agrees :
    ∃ db record,
      ingestManifest plainValidator id exampleTenant exampleRun
            "Farm 1" [(harvestRow, ⟨0, 0⟩)] Manifests.empty =
          .ok db ∧
        db.records.find 0 = some record ∧
        (Agrees record
            (revalidateRecord plainValidator db 0 record) ↔
          Settled plainValidator.toReader record.rawRow ∧
            releasedFingerprintExists Manifests.empty.records
              record.rowFingerprint = false) := by
  have hRuns :
      (untouched harvestRow).map (fun run =>
          run.2.1.ingestionRunId) = some exampleRun := by
    decide +kernel
  rcases Option.map_eq_some_iff.mp hRuns with
    ⟨⟨db, record, again⟩, hRun, hOwn⟩
  rcases untouched_eq_some hRun with ⟨hIngest, hFind, -⟩
  exact ⟨db, record, hIngest, hFind,
    revalidation_agrees_iff runsListed_empty hIngest hFind
      hOwn⟩

/-
  Intake takes the text `N/A` of a column that it does not
  know; revalidation reads it as a date, as the name of the
  column ends in one.
-/
theorem not_revalidation_agrees :
    ¬ ∀ (vd : Validator) (sha256Hex : String → String)
        (tenantId runId : Uuid) (supplierOrg : String)
        (rows : List (RawRow × RowIds)) (db db' : Manifests)
        (recordId : Nat) (record : ManifestRecord),
      db.RunsListed →
        ingestManifest vd sha256Hex tenantId runId supplierOrg
            rows db = .ok db' →
          db'.records.find recordId = some record →
            record.ingestionRunId = runId →
              Agrees record
                (revalidateRecord vd db' recordId record) := by
  intro hAgrees
  have hVerdicts :
      (untouched unexpiringRow).map (fun run =>
          (run.2.1.ingestionRunId, run.2.1.validationStatus,
            run.2.2.validationStatus)) =
        some (exampleRun, .passed, .failed) := by
    decide +kernel
  rcases Option.map_eq_some_iff.mp hVerdicts with
    ⟨⟨db, record, again⟩, hRun, hEq⟩
  simp only [Prod.mk.injEq] at hEq
  rcases untouched_eq_some hRun with ⟨hIngest, hFind, rfl⟩
  have hSame :=
    (hAgrees _ _ _ _ _ _ _ _ _ _ runsListed_empty hIngest
      hFind hEq.1).blocking
  rw [hEq.2.1, hEq.2.2] at hSame
  cases hSame

end Remediation

end RegEngine
