import RegEngine.Ingestion.Remediation.Intake
import RegEngine.Shared.CanonicalPersistence.Effects

/-
  The input lots of a manifest row: the cell stays a text from
  intake to release, and the writer of transformation links
  reads a list only.

  Main declarations:
    * `Remediation.listedLots`
    * `Remediation.Linked`
    * `Remediation.released_linked_iff`
-/

--------
-- Links
--------

namespace RegEngine

open Python (Value Dict)
open CsvTemplates (Reader)

namespace Remediation

/- The lots that a row lists for its input lots. -/
def listedLots
    (rd : Reader)
    (isSep : Char → Bool)
    (row : RawRow) : List String :=
  row.cells.flatMap (fun cell =>
    match cell.2 with
    | .text raw =>
        if (placeOf rd cell.1).slot =
            .kde Sandbox.inputLotCodesKde false then
          Sandbox.lotCodes isSep raw
        else
          []
    | .surplus _ => [])

/- The links of a tenant from one lot to another. -/
def linksBetween
    (db : Db)
    (tenantId : Uuid)
    (input output : String) :
    List TransformationLinkRow :=
  db.transformationLinks.filter (fun link =>
    link.tenantId == tenantId && link.inputTlc == input &&
      link.outputTlc == output)

/- Every lot has exactly one link to the output lot. -/
def Linked
    (db : Db)
    (tenantId : Uuid)
    (lots : List String)
    (output : String) : Prop :=
  ∀ lot ∈ lots,
    (linksBetween db tenantId lot output).length = 1

/- The lot code that a record is released under. -/
def outputLot (record : ManifestRecord) : String :=
  (fieldOrEmpty record.normalizedPayload.fields
    "traceability_lot_code").str?.getD ""

/-
  The states of the record of a row: as intake stages it, with
  corrections put in, and as revalidation writes it back.
-/
inductive RecordHistory
    (vd : Validator)
    (sha256Hex : String → String)
    (row : RawRow) : ManifestRecord → Prop where
  | staged
      (db : Manifests) (runId : Uuid) (first : Option Nat)
      (rowNumber : Nat) (caseId : Option Nat) :
      RecordHistory vd sha256Hex row
        { stagedRecord vd sha256Hex db runId first rowNumber
            row with remediationCaseId := caseId }
  | corrected
      {record : ManifestRecord}
      (path value : String) (provenance : Dict) :
      RecordHistory vd sha256Hex row record →
        RecordHistory vd sha256Hex row
          { record with
            normalizedPayload :=
              setValue record.normalizedPayload path
                (.str value)
            fieldProvenance := provenance }
  | revalidated
      {record : ManifestRecord}
      (db : Manifests) (recordId : Nat) :
      RecordHistory vd sha256Hex row record →
        RecordHistory vd sha256Hex row
          (revalidateRecord vd db recordId record)

--------
-- Texts Stay Texts
--------

def IsNoList (value : Value) : Prop :=
  ∀ items, value ≠ .list items

/- A dictionary with no list under a key. -/
def HasNoList (d : Dict) (key : String) : Prop :=
  IsNoList (d.get key)

variable {d : Dict} {rd : Reader}

/- A write of a value that is no list, or of another key. -/
theorem HasNoList.set
    {key other : String}
    {value : Value}
    (hNone : HasNoList d key)
    (hValue : other = key → IsNoList value) :
    HasNoList (d.set other value) key := by
  unfold HasNoList
  by_cases hSame : other = key
  · subst hSame
    rw [Python.Dict.get_set, if_pos rfl]
    exact hValue rfl
  · rw [Python.Dict.get_set, if_neg (Ne.symm hSame)]
    exact hNone

--------
-- The Cell on Its Way
--------

theorem isNoList_str
    (text : String) :
    IsNoList (.str text) := by
  intro items hEq
  cases hEq

variable {key : String} {entry : String × Value}

/- Writes of values that are no lists put no list in. -/
theorem HasNoList.foldl_set
    {writes : List (String × Value)}
    (hWrites :
      ∀ entry ∈ writes, entry.1 = key → IsNoList entry.2)
    (hNone : HasNoList d key) :
    HasNoList
      (writes.foldl (fun d entry =>
        Dict.set d entry.1 entry.2) d) key := by
  induction writes generalizing d with
  | nil => exact hNone
  | cons entry rest ih =>
    apply ih
    · intro later hMem
      exact hWrites later (List.mem_cons_of_mem entry hMem)
    · exact hNone.set (hWrites entry (by simp))

/- The text of a date is taken over or rewritten. -/
theorem isNoList_normalizeDate
    (rd : Reader)
    (stripped sourceColumn fieldPath : String)
    (trimRule : Option String) :
    IsNoList
      (normalizeDate rd stripped sourceColumn fieldPath
        trimRule).value := by
  unfold normalizeDate
  split
  · exact isNoList_str _
  · exact isNoList_str _

theorem isNoList_kdeValue
    (rd : Reader)
    (dated : Bool)
    (text : String) :
    IsNoList (kdeValue rd dated text) := by
  cases dated with
  | false => exact isNoList_str text
  | true => exact isNoList_normalizeDate rd text "" _ none

theorem kdeWrite_text_eq_none
    {col raw : String}
    (hOther :
      ∀ name dated, placeOf rd col = .kde name dated →
        Python.strip raw = "") :
    kdeWrite rd (col, .text raw) = none := by
  simp only [kdeWrite, reading]
  by_cases hEmpty : Python.strip raw = ""
  · rw [if_pos hEmpty]
  · rw [if_neg hEmpty]
    generalize placeOf rd col = place at hOther ⊢
    cases place with
    | top name => rfl
    | kde name dated => exact absurd (hOther name dated rfl) hEmpty

/- What a cell writes under a name is a text. -/
theorem isNoList_kdeWrite
    {row : RawRow}
    (hLower : rd.lower "" = "")
    {cell : String × Cell}
    (hMem : cell ∈ row.cells)
    (hWrite : kdeWrite rd cell = some entry)
    (hNamed : entry.1 ≠ "") :
    IsNoList entry.2 := by
  rcases cell with ⟨col, raw | values⟩
  · by_cases hRead :
        ∃ name dated, placeOf rd col = .kde name dated ∧
          Python.strip raw ≠ ""
    · rcases hRead with ⟨name, dated, hPlace, hSome⟩
      rw [kdeWrite_text hPlace hSome] at hWrite
      rw [← Option.some.inj hWrite]
      exact isNoList_kdeValue rd dated (Python.strip raw)
    · rw [kdeWrite_text_eq_none] at hWrite
      · cases hWrite
      · intro name dated hPlace
        by_contra hSome
        exact hRead ⟨name, dated, hPlace, hSome⟩
  · have hCol := row.surplus_unnamed col values hMem
    subst hCol
    have hEntry : (columnName rd "",
        (Cell.surplus values).value) = entry :=
      Option.some.inj hWrite
    apply absurd _ hNamed
    rw [← hEntry]
    change columnName rd "" = ""
    unfold columnName
    rw [show Python.strip "" = "" from rfl, hLower]
    rfl

/- The event of a row has no list of input lots. -/
theorem hasNoList_buildEventFromRow
    (hLower : rd.lower "" = "")
    (row : RawRow) :
    HasNoList (buildEventFromRow rd row).event.kdes
      Sandbox.inputLotCodesKde := by
  rw [buildEventFromRow_kdes]
  apply HasNoList.foldl_set
  · intro entry hMem hKey
    rcases List.mem_filterMap.mp hMem with
      ⟨cell, hCell, hWrite⟩
    apply isNoList_kdeWrite hLower hCell hWrite
    rw [hKey]
    decide
  · intro items hEq
    cases hEq

/- A coerced KDE is a text, or as it was. -/
theorem isNoList_coerceKde
    (hNone : IsNoList entry.2) :
    IsNoList (coerceKde rd entry).value := by
  unfold coerceKde
  split
  · unfold coerceDate
    split
    · split
      · exact hNone
      · split
        · exact hNone
        · split
          · exact hNone
          · exact isNoList_str _
    · exact hNone
  · exact hNone

/- The first entry is found under its own key only. -/
theorem get_cons
    (entry : String × Value)
    (rest : Dict)
    (key : String) :
    Dict.get (entry :: rest) key =
      if entry.1 = key then entry.2 else Dict.get rest key := by
  by_cases hKey : entry.1 = key
  · rw [if_pos hKey, Dict.get, List.find?_cons_of_pos]
    · rfl
    · exact beq_iff_eq.mpr hKey
  · rw [if_neg hKey, Dict.get, List.find?_cons_of_neg]
    · rfl
    · rw [beq_iff_eq]
      exact hKey

/- Coercions put no list in. -/
theorem HasNoList.coerceKdes
    (hNone : HasNoList d key) :
    HasNoList (coerceKdes rd d) key := by
  induction d with
  | nil => exact hNone
  | cons entry rest ih =>
    unfold HasNoList at *
    rw [Remediation.coerceKdes, List.map_cons, get_cons]
    rw [get_cons] at hNone
    by_cases hKey : entry.1 = key
    · rw [if_pos hKey] at hNone ⊢
      exact isNoList_coerceKde hNone
    · rw [if_neg hKey] at hNone ⊢
      exact ih hNone

/- No state of the record of a row has a list of input lots. -/
theorem RecordHistory.hasNoList
    {vd : Validator}
    {sha256Hex : String → String}
    {row : RawRow}
    {record : ManifestRecord}
    (hLower : vd.lower "" = "")
    (hHistory : RecordHistory vd sha256Hex row record) :
    HasNoList record.normalizedPayload.kdes
      Sandbox.inputLotCodesKde := by
  induction hHistory with
  | staged db runId first rowNumber caseId =>
    exact hasNoList_buildEventFromRow hLower row
  | @corrected before path value provenance _ ih =>
    change HasNoList
      (setValue before.normalizedPayload path
        (.str value)).kdes _
    unfold setValue
    split
    · exact ih.set (fun _ => isNoList_str value)
    · exact ih
  | revalidated db recordId _ ih => exact ih.coerceKdes

end Remediation

end RegEngine

--------
-- Events without Listed Lots
--------

namespace RegEngine

open Remediation (HasNoList)

namespace CanonicalEventStore

variable {event : TraceabilityEvent} {rt : Runtime}

/- Without a list of lots no link is made. -/
theorem namesInputLots_of_hasNoList
    (hNone :
      HasNoList event.kdes Sandbox.inputLotCodesKde) :
    namesInputLots event = false := by
  unfold namesInputLots
  split
  · rename_i items hList
    exact absurd hList (hNone items)
  · exact Bool.and_false _

/- Preparing an event puts no list of lots in. -/
theorem ensurePrepared_hasNoList
    {event prepared : TraceabilityEvent}
    (hPrepared : ensurePrepared rt event = .ok prepared)
    (hNone :
      HasNoList event.kdes Sandbox.inputLotCodesKde) :
    HasNoList prepared.kdes Sandbox.inputLotCodesKde := by
  have hHint :
      HasNoList event.applyFtlHint.kdes
        Sandbox.inputLotCodesKde := by
    unfold TraceabilityEvent.applyFtlHint
    split
    · exact hNone
    · simp only
      split
      · exact hNone
      · apply HasNoList.set
        · apply hNone.set
          intro _ items hEq
          cases hEq
        · intro _ items hEq
          cases hEq
  have hPrepare :
      ∀ maxBytes,
        event.prepareForPersistence rt.sha256Hex maxBytes =
            .ok prepared →
          HasNoList prepared.kdes
            Sandbox.inputLotCodesKde := by
    intro maxBytes hPrep
    unfold TraceabilityEvent.prepareForPersistence at hPrep
    split at hPrep
    · cases hPrep
    · rw [← Except.ok.inj hPrep]
      exact hHint
  unfold ensurePrepared at hPrepared
  split at hPrepared
  · split at hPrepared
    · exact hPrepare _ hPrepared
    · rw [← Except.ok.inj hPrepared]
      exact hNone
  · exact hPrepare _ hPrepared

variable {db db' : Db} {now : Datetime}
variable {result : CanonicalStoreResult}
variable {store : CanonicalEventStore}

/- The steps after the insert keep the links. -/
theorem afterInsert_transformationLinks
    {entry : HashChainRow}
    (hNone : namesInputLots event = false)
    (hAfter :
      store.afterInsert rt now event entry db =
        .ok (result, db')) :
    db'.transformationLinks = db.transformationLinks := by
  rcases afterInsert_cases hAfter with
    ⟨-, metered, amended, chained, copied, hMeter, hAmend,
      hChain, hLegacy, hLinks⟩
  have hLinked : db' = copied := by
    unfold createTransformationLinks at hLinks
    rw [hNone] at hLinks
    exact (Except.ok.inj hLinks).symm
  rw [hLinked,
    (copyLegacy_acts store event).keeps
      (fun _ _ => rfl : Db.legacyTables.Blind
        Db.transformationLinks) hLegacy,
    chainStep_keeps Db.transformationLinks (fun _ _ => rfl)
      hChain,
    supersede_eq hAmend,
    (meter_acts store event).keeps
      (fun _ _ => rfl : Db.usageTables.Blind
        Db.transformationLinks) hMeter]

/- Storing an event without listed lots keeps the links. -/
theorem persistEvent_transformationLinks
    (hNone :
      HasNoList event.kdes Sandbox.inputLotCodesKde)
    (hPersist :
      store.persistEvent rt now event db =
        .ok (result, db')) :
    db'.transformationLinks = db.transformationLinks := by
  rcases persistEvent_cases hPersist with
    ⟨prepared, hPrepared, ⟨stored, -, -, hSame⟩ | ⟨-, hNew⟩⟩
  · rw [hSame]
  · have hNames :
        namesInputLots prepared = false :=
      namesInputLots_of_hasNoList
        (ensurePrepared_hasNoList hPrepared hNone)
    rcases persistNewEvent_cases hNew with
      ⟨chainHash, kept, -, -, ⟨_, -, -, rfl⟩ | ⟨-, hAfter⟩⟩
    · rfl
    · refine (afterInsert_transformationLinks ?_ hAfter).trans rfl
      exact hNames

end CanonicalEventStore

end RegEngine

--------
-- Releases
--------

namespace RegEngine

open Python (Value Dict)
open CsvTemplates (Reader)

namespace Remediation

variable {env : Environment} {tenantId : Uuid}

/- The KDEs of a record are those of its event. -/
theorem releasedEvent_kdes
    {call : ReleaseCall}
    {record : ManifestRecord}
    {event : TraceabilityEvent}
    (hEvent :
      releasedEvent env tenantId call record = .ok event) :
    event.kdes = record.normalizedPayload.kdes := by
  unfold releasedEvent at hEvent
  split at hEvent
  · cases hEvent
  · split at hEvent
    · rename_i built hBuilt
      rw [← Except.ok.inj hEvent]
      unfold buildTraceabilityEvent at hBuilt
      simp only [Option.bind_eq_bind,
        Option.bind_eq_some_iff] at hBuilt
      rcases hBuilt with
        ⟨_, -, _, -, _, -, _, -, _, -, _, -, _, -, _, -, _, -,
          hBuilt⟩
      split at hBuilt
      · rw [← Option.some.inj hBuilt]
      · cases hBuilt
    · cases hEvent

/- The release of the record of a row makes no link. -/
theorem releaseRecord_transformationLinks
    {call : ReleaseCall}
    {recordId : Nat}
    {record : ManifestRecord}
    {db db' : Manifests}
    (hNone :
      HasNoList record.normalizedPayload.kdes
        Sandbox.inputLotCodesKde)
    (hRelease :
      releaseRecord env tenantId call recordId record db =
        .ok db') :
    db'.canonical.transformationLinks =
      db.canonical.transformationLinks := by
  unfold releaseRecord at hRelease
  rcases Outcome.bind_eq_ok.mp hRelease with
    ⟨event, hEvent, hRelease⟩
  rcases Outcome.bind_eq_ok.mp hRelease with
    ⟨persisted, hPersist, hRelease⟩
  have hDb := Outcome.pure_eq_ok.mp hRelease
  rw [← releasedEvent_kdes hEvent] at hNone
  rw [← hDb]
  apply CanonicalEventStore.persistEvent_transformationLinks
    hNone
  unfold Except.mapError at hPersist
  split at hPersist
  · cases hPersist
  · rename_i hOk
    rw [hOk, Except.ok.inj hPersist]

/-
  After the release of the record of a row, the lots that the
  row lists have one link each exactly if they had it before.
-/
theorem released_linked_iff
    {env : Environment}
    {isSep : Char → Bool}
    {tenantId : Uuid}
    {call : ReleaseCall}
    {row : RawRow}
    {recordId : Nat}
    {record : ManifestRecord}
    {db db' : Manifests}
    (hLower : env.lower "" = "")
    (hHistory :
      RecordHistory env.toValidator env.runtime.sha256Hex row
        record)
    (hRelease :
      releaseRecord env tenantId call recordId record db =
        .ok db') :
    Linked db'.canonical tenantId
        (listedLots env.toReader isSep row)
        (outputLot record) ↔
      Linked db.canonical tenantId
        (listedLots env.toReader isSep row)
        (outputLot record) := by
  unfold Linked linksBetween
  rw [releaseRecord_transformationLinks
    (hHistory.hasNoList hLower) hRelease]

--------
-- A Mix
--------

/- The cells of a mix of two lots. -/
def mixCells : List (String × Cell) :=
  [("cte_type", .text "transformation"),
    ("traceability_lot_code", .text "MIX-2001"),
    ("quantity", .text "5"),
    ("unit_of_measure", .text "cases"),
    ("timestamp", .text "2026-01-06"),
    ("input_lot_codes", .text "LOT-1001,LOT-1002")]

def mixRow : RawRow where
  cells := mixCells
  distinct := by decide
  surplus_unnamed := by
    intro col values hMem
    simp [mixCells] at hMem

def mixDigests : List (String × String) :=
  [("\x7b\"cte_type\":\"transformation\",\"input_lot_codes\":\"LOT-1001,LOT-1002\",\"quantity\":\"5\",\"timestamp\":\"2026-01-06\",\"traceability_lot_code\":\"MIX-2001\",\"unit_of_measure\":\"cases\"\x7d",
        "9930ef33731e19443c1d75927009ed0adb9be3bfddb052d660a29e500fcf8c00"),
    ("00000000-0000-0000-0000-0000000000e1|transformation|MIX-2001||5.0|cases|||2026-01-06T00:00:00+00:00|\x7b\"input_lot_codes\": \"LOT-1001,LOT-1002\"\x7d",
        "1504b3f05386977a8f406ed33b8f85691d947dee79379b3978250c374b0e36b6"),
    ("\x7b\"event_type\":\"transformation\",\"from_facility\":\"\",\"kdes\":\x7b\"input_lot_codes\":\"LOT-1001,LOT-1002\"\x7d,\"source\":\"csv_upload\",\"timestamp\":\"2026-01-06T00:00:00+00:00\",\"tlc\":\"MIX-2001\",\"to_facility\":\"\"\x7d",
        "cf14a98d9ed66b571e8d1f6a9cca3a7c9b6b7950e479e035e6aae8e45c9db76b"),
    ("GENESIS|1504b3f05386977a8f406ed33b8f85691d947dee79379b3978250c374b0e36b6",
        "f55160029c0f6070d3f40ce5e879d23b3fee05e04a9dc490ae65f652586e5b7c")]

/- The surroundings of its release. -/
def mixEnvironment : Environment where
  toValidator := plainValidator
  runtime := Runtime.ofDigests mixDigests
  dateutilStrict := fun _ => none
  floatField := fun value =>
    match value with
    | .float x => some x
    | _ => none
  floatField_float :=
    (Runtime.ofDigests mixDigests).floatOf_float

/- What the release is given. -/
def mixCall : ReleaseCall where
  minted :=
    ⟨⟨"00000000-0000-0000-0000-0000000000e1", by decide⟩,
      "2026-01-07T00:00:00+00:00"⟩
  source := ⟨"f0", "rows.csv"⟩
  now := ⟨⟨2026, 1, 7⟩, 0, 0, by decide⟩

/- The manifests after the run of the mix is listed. -/
def mixManifests : Manifests :=
  { Manifests.empty with
    canonical :=
      { Db.empty with
        ingestionRuns := [(exampleRun, exampleTenant)] } }

def mixRecord : ManifestRecord :=
  { stagedRecord plainValidator
      mixEnvironment.runtime.sha256Hex mixManifests exampleRun
      none 1 mixRow with
    remediationCaseId := none }

theorem recordHistory_mix :
    RecordHistory mixEnvironment.toValidator
      mixEnvironment.runtime.sha256Hex mixRow mixRecord :=
  .staged mixManifests exampleRun none 1 none

def mixRelease : Except ServiceError Manifests :=
  releaseRecord mixEnvironment exampleTenant mixCall 0
    mixRecord mixManifests

theorem isOk_mixRelease : mixRelease.isOk = true := by
  simp only [mixRelease, releaseRecord,
    TraceabilityEvent.prepareForPersistence,
    CanonicalEventStore.persistEvent,
    CanonicalEventStore.ensurePrepared,
    CanonicalEventStore.persistNewEvent,
    TraceabilityEvent.enforceRawPayloadSize_dumped,
    CanonicalEventStore.eventToParams_dumped]
  decide +kernel

/- The release of the mix is an instance. -/
theorem mix_linked_iff :
    ∃ db', mixRelease = .ok db' ∧
      (Linked db'.canonical exampleTenant
          (listedLots mixEnvironment.toReader
            (fun c => c == ',') mixRow)
          (outputLot mixRecord) ↔
        Linked mixManifests.canonical exampleTenant
          (listedLots mixEnvironment.toReader
            (fun c => c == ',') mixRow)
          (outputLot mixRecord)) := by
  rcases Outcome.exists_eq_ok isOk_mixRelease with
    ⟨db', hRelease⟩
  exact ⟨db', hRelease,
    released_linked_iff rfl recordHistory_mix hRelease⟩

/- The release of the mix makes no link for its lots. -/
theorem not_released_linked :
    ∃ db', RecordHistory mixEnvironment.toValidator
          mixEnvironment.runtime.sha256Hex mixRow mixRecord ∧
      mixRelease = .ok db' ∧
      (fieldOrEmpty mixRecord.normalizedPayload.fields
          "cte_type").str? =
        some "transformation" ∧
      listedLots mixEnvironment.toReader (fun c => c == ',')
          mixRow =
        ["LOT-1001", "LOT-1002"] ∧
      ¬ Linked db'.canonical exampleTenant
        ["LOT-1001", "LOT-1002"] (outputLot mixRecord) := by
  rcases Outcome.exists_eq_ok isOk_mixRelease with
    ⟨db', hRelease⟩
  refine ⟨db', recordHistory_mix, hRelease, ?_, ?_, ?_⟩
  · decide +kernel
  · decide +kernel
  · intro hLinked
    have hNone :=
      recordHistory_mix.hasNoList
        (show plainValidator.lower "" = "" from rfl)
    have hOne := hLinked "LOT-1001" (by simp)
    unfold linksBetween at hOne
    rw [releaseRecord_transformationLinks hNone hRelease]
      at hOne
    cases hOne

end Remediation

end RegEngine
