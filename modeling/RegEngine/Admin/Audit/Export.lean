import Mathlib.Data.List.Chain
import RegEngine.Admin.Audit.Integrity

/-
  The chain verification of an audit export
  (`admin/app/audit_routes.py`). It finds an honest log valid
  just when the rows that are exported are a piece of the log
  without gaps, and their metadata are read back as they were
  hashed.

  Main declarations:
    * `Audit.canonicalVerificationEntry`
    * `Audit.AuditRow.Recovers`
    * `Audit.clean_iff`
    * `Audit.exportVerification_valid_iff`
-/

--------
-- Exports
--------

namespace RegEngine

namespace Audit

section

/- `row.metadata_`, or no entries when it is no dictionary. -/
def AuditRow.metadataDict (row : AuditRow) :
    List (String × Json) :=
  match row.metadata with
  | .obj entries => entries
  | _ => []

/- `_canonical_verification_entry`. -/
def canonicalVerificationEntry
    (env : AuditEnv)
    (row : AuditRow) : CanonicalEntry where
  id := row.id
  tenantId := env.tenantId
  timestamp := env.isoformat row.timestamp
  eventType := row.eventType
  action := row.action
  resourceId := orNone row.resourceId
  metadata := row.metadataDict
  actorId := orNone row.actorId
  actorEmail := row.actorEmail
  severity := row.severity
  endpoint := row.endpoint
  prevHash := row.prevHash
  hash := row.integrityHash
  sequenceNum := row.sequenceNum

/- The window, the filters and the limit of an export. -/
structure ExportQuery where
  start : Int
  stop : Int
  eventCategory : Option String
  severity : Option String
  limit : Nat

/- `valid_categories`. -/
def validCategories : List String :=
  ["auth", "data", "admin", "system", "api"]

/- `severity_levels`. -/
def severityLevels : List (String × Nat) :=
  [("critical", 0), ("error", 1), ("warning", 2), ("info", 3)]

/- The levels down to a minimum. -/
def allowedSeverities (least : Nat) : List String :=
  (severityLevels.filter (·.2 ≤ least)).map Prod.fst

/-
  The filter on categories, or nothing for a category that
  is refused.
-/
def categoryFilter :
    Option String → Option (AuditRow → Bool)
| none => some (fun _ => true)
| some category =>
    if category = "" then
      some (fun _ => true)
    else if category ∈ validCategories then
      some (fun row => row.eventCategory = category)
    else
      none

/-
  The filter on severities, or nothing for a severity that
  is refused.
-/
def severityFilter :
    Option String → Option (AuditRow → Bool)
| none => some (fun _ => true)
| some severity =>
    if severity = "" then
      some (fun _ => true)
    else
      (severityLevels.lookup severity).map (fun least row =>
        (allowedSeverities least).contains row.severity)

/- The rows that an export reads, or nothing when refused. -/
def ExportQuery.select
    (query : ExportQuery)
    (log : AuditLog) : Option (List AuditRow) := do
  let category ← categoryFilter query.eventCategory
  let severity ← severityFilter query.severity
  if 50000 < query.limit then
    none
  else
    return (log.filter (fun row =>
      query.start ≤ row.timestamp && row.timestamp ≤ query.stop &&
        category row && severity row)).take query.limit

/- `_predecessor_row`. -/
def predecessorRow (log : AuditLog) (sequenceNum : Nat) :
    Option AuditRow :=
  (log.filter (·.sequenceNum < sequenceNum)).getLast?

/- The anchor of some rows, and whether it is missing. -/
def anchorOf
    (env : AuditEnv)
    (log : AuditLog) :
    List AuditRow → Option CanonicalEntry × Bool
| [] => (none, false)
| first :: _ =>
    if first.sequenceNum = 1 then
      (none, false)
    else
      match predecessorRow log first.sequenceNum with
      | none => (none, true)
      | some row => (some (canonicalVerificationEntry env row), false)

/- The `chain_verification` of an export. -/
def exportVerification
    (env : AuditEnv)
    (query : ExportQuery)
    (log : AuditLog) : Option ChainVerdict := do
  let rows ← query.select log
  let anchor := anchorOf env log rows
  return verifyChain env
    (rows.map (canonicalVerificationEntry env)) anchor.1
    anchor.2

--------
-- Places
--------

variable {env : AuditEnv} {log : AuditLog} {row : AuditRow}

/- A row stands behind another one. -/
def Next (row row' : AuditRow) : Prop :=
  row'.sequenceNum = row.sequenceNum + 1

instance : DecidableRel Next := by
  intro row row'
  unfold Next
  infer_instance

/- A row of a chained log stands where its number says. -/
theorem Chained.getElem?_of_mem
    (hChained : Chained env log)
    (hMem : row ∈ log) :
    1 ≤ row.sequenceNum ∧
      log[row.sequenceNum - 1]? = some row := by
  rcases List.mem_iff_getElem?.mp hMem with ⟨place, hPlace⟩
  have hNum := (hChained place row hPlace).1
  rw [hNum, Nat.add_sub_cancel]
  exact ⟨Nat.succ_pos place, hPlace⟩

/- A row refers to the row that it stands behind. -/
theorem Chained.prevHash_of_next
    {row' : AuditRow}
    (hChained : Chained env log)
    (hMem : row ∈ log)
    (hMem' : row' ∈ log)
    (hNext : Next row row') :
    row'.prevHash = some row.integrityHash := by
  rcases hChained.getElem?_of_mem hMem with ⟨hPos, hPlace⟩
  rcases hChained.getElem?_of_mem hMem' with ⟨-, hPlace'⟩
  have hPrev := (hChained _ row' hPlace').2.1
  have hBefore : row'.sequenceNum - 1 =
      row.sequenceNum - 1 + 1 := by
    unfold Next at hNext
    omega
  rw [hBefore, List.getLast?_take] at hPrev
  simpa [hPlace] using hPrev

/- The rows before a place. -/
theorem Chained.filter_lt
    (hChained : Chained env log)
    (place : Nat) :
    log.filter (·.sequenceNum < place + 1) =
      log.take place := by
  have hBefore : ∀ row ∈ log.take place,
      row.sequenceNum < place + 1 := by
    intro row hRow
    rcases List.mem_iff_getElem?.mp hRow with ⟨i, hI⟩
    rw [List.getElem?_take] at hI
    split at hI
    · rename_i hLess
      rw [(hChained i row hI).1]
      omega
    · cases hI
  have hBehind : ∀ row ∈ log.drop place,
      ¬ row.sequenceNum < place + 1 := by
    intro row hRow
    rcases List.mem_iff_getElem?.mp hRow with ⟨i, hI⟩
    rw [List.getElem?_drop] at hI
    rw [(hChained _ row hI).1]
    omega
  conv_lhs => rw [← List.take_append_drop place log]
  rw [List.filter_append, List.filter_eq_self.mpr (by
      simpa using hBefore),
    List.filter_eq_nil_iff.mpr (by simpa using hBehind),
    List.append_nil]

theorem Chained.predecessorRow_eq
    (hChained : Chained env log)
    (hMem : row ∈ log)
    (hLater : row.sequenceNum ≠ 1) :
    ∃ before ∈ log, Next before row ∧
      predecessorRow log row.sequenceNum = some before := by
  rcases hChained.getElem?_of_mem hMem with ⟨hPos, hPlace⟩
  have hPred : predecessorRow log row.sequenceNum =
      (log.take (row.sequenceNum - 1)).getLast? := by
    rw [predecessorRow, ← hChained.filter_lt]
    rw [Nat.sub_add_cancel hPos]
  have hLength : row.sequenceNum - 1 < log.length :=
    (List.getElem?_eq_some_iff.mp hPlace).1
  have hThere : row.sequenceNum - 1 - 1 < log.length := by
    omega
  refine ⟨log[row.sequenceNum - 1 - 1],
    List.getElem_mem hThere, ?_, ?_⟩
  · have hNum := (hChained _ _
      (List.getElem?_eq_getElem hThere)).1
    unfold Next
    omega
  · rw [hPred, List.getLast?_take, if_neg (by omega),
      List.getElem?_eq_getElem hThere]
    rfl

/- Rows without a gap are a piece of the log. -/
theorem Chained.isChain_iff_window
    (hChained : Chained env log)
    (rows : List AuditRow)
    (hRows : ∀ row ∈ rows, row ∈ log) :
    rows.IsChain Next ↔ rows <:+: log := by
  constructor
  · intro hChain
    have hPrefix : ∀ (rows : List AuditRow) (row : AuditRow),
        (∀ x ∈ row :: rows, x ∈ log) →
          (row :: rows).IsChain Next →
            (row :: rows) <+:
              log.drop (row.sequenceNum - 1) := by
      intro rows
      induction rows with
      | nil =>
          intro row hRows _
          rcases hChained.getElem?_of_mem
            (hRows row List.mem_cons_self) with ⟨-, hPlace⟩
          rw [List.drop_eq_getElem?_toList_append, hPlace]
          exact ⟨_, rfl⟩
      | cons second rest ih =>
          intro row hRows hChain
          rcases hChained.getElem?_of_mem
            (hRows row List.mem_cons_self) with
            ⟨hPos, hPlace⟩
          rw [List.isChain_cons_cons] at hChain
          have hRest := ih second
            (fun x hx => hRows x (List.mem_cons_of_mem row hx))
            hChain.2
          have hNext : second.sequenceNum - 1 =
              row.sequenceNum - 1 + 1 := by
            have hStep := hChain.1
            unfold Next at hStep
            omega
          rw [hNext] at hRest
          rw [List.drop_eq_getElem?_toList_append, hPlace]
          exact List.cons_prefix_cons.mpr ⟨rfl, hRest⟩
    cases rows with
    | nil => exact ⟨[], log, rfl⟩
    | cons row rest =>
        exact (hPrefix rest row hRows hChain).isInfix.trans
          (List.drop_suffix _ _).isInfix
  · rintro ⟨before, behind, hLog⟩
    have hWhole : log.IsChain Next := by
      rw [List.isChain_iff_getElem]
      intro i hI
      have hFirst := (hChained i _
        (List.getElem?_eq_getElem (Nat.lt_of_succ_lt hI))).1
      have hSecond := (hChained (i + 1) _
        (List.getElem?_eq_getElem hI)).1
      unfold Next
      rw [hFirst, hSecond]
    rw [← hLog, List.isChain_append, List.isChain_append]
      at hWhole
    exact hWhole.1.2.1

end

--------
-- What An Export Finds
--------

variable {env : AuditEnv} {log : AuditLog}
  {row first : AuditRow}

/- The metadata of a row are read back as they were hashed. -/
def AuditRow.Recovers (row : AuditRow) : Prop :=
  row.hashed = (Json.obj row.metadataDict).sortKeys

/- Metadata whose texts are those that were hashed. -/
theorem AuditRow.recovers_of_text
    (hText : Json.dumpsUnsorted row.hashed =
      Json.dumps (.obj row.metadataDict)) :
    row.Recovers := by
  have hChars := congrArg String.toList hText
  simp only [Json.dumpsUnsorted, Json.dumps,
    String.toList_ofList] at hChars
  exact Json.dump_inj Json.spaced_valid hChars

variable {input input' : HashInput}

/- Without collisions a hash tells what was hashed. -/
theorem body_eq_of_hash_eq
    (hHash : Function.Injective env.sha256Hex)
    {version version' : Nat}
    (hEq : computeIntegrityHash env version input =
      computeIntegrityHash env version' input') :
    input.body env.tenantId version =
      input'.body env.tenantId version' := by
  have hText := congrArg String.toList (hHash hEq)
  simp only [Json.dumpsUnsorted, String.toList_ofList] at hText
  exact Json.obj.inj (Json.dump_inj Json.spaced_valid hText)

/- The bodies of the three versions differ. -/
theorem body_ne
    {version : Nat}
    (hOld : version = 1 ∨ version = 2) :
    input.body env.tenantId 3 ≠
      input'.body env.tenantId version := by
  intro hEq
  have hLength := congrArg List.length hEq
  rcases hOld with hOld | hOld <;>
    simp [HashInput.body, hOld] at hLength

/- A row verifies just when its metadata are recovered. -/
theorem hashIsRecomputed_iff
    (hHash : Function.Injective env.sha256Hex)
    (hChained : Chained env log)
    (hMem : row ∈ log) :
    HashIsRecomputed env (canonicalVerificationEntry env row) ↔
      row.Recovers := by
  rcases List.mem_iff_getElem?.mp hMem with ⟨place, hPlace⟩
  have hStored := (hChained place row hPlace).2.2
  have hInput :
      (canonicalVerificationEntry env row).hashInput =
        row.hashInput env
          (Json.obj row.metadataDict).sortKeys := rfl
  unfold HashIsRecomputed CanonicalEntry.recomputed
    AuditRow.Recovers
  rw [hInput]
  change row.integrityHash = _ ∨ row.integrityHash = _ ∨
    row.integrityHash = _ ↔ _
  rw [hStored]
  constructor
  · rintro (hThree | hTwo | hOne)
    · have hBody := body_eq_of_hash_eq hHash hThree
      simpa [HashInput.body, AuditRow.hashInput] using hBody
    · exact absurd (body_eq_of_hash_eq hHash hTwo)
        (body_ne (.inr rfl))
    · exact absurd (body_eq_of_hash_eq hHash hOne)
        (body_ne (.inl rfl))
  · intro hRecovers
    rw [← hRecovers]
    exact .inl rfl

/- The rows behind one that is exported. -/
theorem clean_map_iff
    (hHash : Function.Injective env.sha256Hex)
    (hChained : Chained env log)
    (rows : List AuditRow)
    (hFirst : first ∈ log)
    (hRows : ∀ row ∈ rows, row ∈ log) :
    Clean env
        (some (canonicalVerificationEntry env first).anchor)
        (rows.map (canonicalVerificationEntry env)) ↔
      (first :: rows).IsChain Next ∧
        ∀ row ∈ rows, row.Recovers := by
  induction rows generalizing first with
  | nil => simp [Clean]
  | cons row rest ih =>
      have hMem := hRows row List.mem_cons_self
      have hRest := ih hMem
        (fun x hx => hRows x (List.mem_cons_of_mem row hx))
      have hLink :
          (∀ head ∈ some
              (canonicalVerificationEntry env first).anchor,
            (canonicalVerificationEntry env row).prevHash =
                head.1 ∧
              (canonicalVerificationEntry env row).sequenceNum =
                head.2 + 1) ↔ Next first row := by
        simp only [Option.mem_some_iff, forall_eq']
        constructor
        · intro hBoth
          exact hBoth.2
        · intro hNext
          exact ⟨hChained.prevHash_of_next hFirst hMem hNext,
            hNext⟩
      rw [List.map_cons, Clean, hLink,
        hashIsRecomputed_iff hHash hChained hMem,
        List.isChain_cons_cons, List.forall_mem_cons]
      change _ ∧ _ ∧ Clean env (some
        (canonicalVerificationEntry env row).anchor) _ ↔ _
      rw [hRest]
      constructor
      · rintro ⟨hNext, hRow, hChain, hOthers⟩
        exact ⟨⟨hNext, hChain⟩, hRow, hOthers⟩
      · rintro ⟨⟨hNext, hChain⟩, hRow, hOthers⟩
        exact ⟨hNext, hRow, hChain, hOthers⟩

/- Exported rows with their anchor, in a chained log. -/
theorem verifyChain_anchorOf_iff
    (hHash : Function.Injective env.sha256Hex)
    (hChained : Chained env log)
    (rows : List AuditRow)
    (hRows : ∀ row ∈ rows, row ∈ log) :
    (verifyChain env
        (rows.map (canonicalVerificationEntry env))
        (anchorOf env log rows).1
        (anchorOf env log rows).2).valid = true ↔
      rows <:+: log ∧ ∀ row ∈ rows, row.Recovers := by
  rw [← hChained.isChain_iff_window rows hRows]
  cases rows with
  | nil => simp [anchorOf, verifyChain_valid_iff, Clean]
  | cons row rest =>
      have hMem := hRows row List.mem_cons_self
      by_cases hStart : row.sequenceNum = 1
      · have hAnchor :
            anchorOf env log (row :: rest) = (none, false) := by
          rw [anchorOf, if_pos hStart]
        rw [hAnchor, verifyChain_valid_iff, Option.map_none,
          List.map_cons, Clean,
          hashIsRecomputed_iff hHash hChained hMem,
          List.forall_mem_cons]
        have hRest := clean_map_iff hHash hChained rest hMem
          (fun x hx => hRows x (List.mem_cons_of_mem row hx))
        constructor
        · rintro ⟨-, hRow, hClean⟩
          rcases hRest.mp hClean with ⟨hChain, hOthers⟩
          exact ⟨hChain, hRow, hOthers⟩
        · rintro ⟨hChain, hRow, hOthers⟩
          exact ⟨by simp, hRow, hRest.mpr ⟨hChain, hOthers⟩⟩
      · rcases hChained.predecessorRow_eq hMem hStart with
          ⟨before, hBefore, hNext, hPred⟩
        have hAnchor : anchorOf env log (row :: rest) =
            (some (canonicalVerificationEntry env before),
              false) := by
          simp only [anchorOf, if_neg hStart, hPred]
        rw [hAnchor, verifyChain_valid_iff, Option.map_some,
          clean_map_iff hHash hChained (row :: rest) hBefore
            hRows, List.isChain_cons_cons]
        constructor
        · rintro ⟨⟨-, hChain⟩, hOthers⟩
          exact ⟨hChain, hOthers⟩
        · rintro ⟨hChain, hOthers⟩
          exact ⟨⟨hNext, hChain⟩, hOthers⟩

theorem mem_of_mem_select
    (query : ExportQuery)
    {rows : List AuditRow}
    (hSelect : query.select log = some rows)
    (hRow : row ∈ rows) :
    row ∈ log := by
  simp only [ExportQuery.select, Option.bind_eq_bind,
    Option.bind_eq_some_iff] at hSelect
  rcases hSelect with ⟨category, -, severity, -, hSelect⟩
  split at hSelect
  · cases hSelect
  · cases hSelect
    exact (List.mem_filter.mp (List.mem_of_mem_take hRow)).1

/-
  After any transactions of calls, the export of an accepted
  query finds the chain valid just when its rows are a piece
  of the log without gaps and every row of it gives its
  metadata back as they were hashed.
-/
theorem exportVerification_valid_iff
    (env : AuditEnv)
    (hHash : Function.Injective env.sha256Hex)
    (transactions : List (Transaction AuditEvent))
    (query : ExportQuery)
    (rows : List AuditRow)
    (hSelect :
      query.select (runLog env transactions) = some rows) :
    (exportVerification env query
        (runLog env transactions)).map ChainVerdict.valid =
        some true ↔
      rows <:+: runLog env transactions ∧
        ∀ row ∈ rows, row.Recovers := by
  rw [← verifyChain_anchorOf_iff hHash
    (chained_runLog env transactions) rows
    (fun row hRow => mem_of_mem_select query hSelect hRow)]
  simp [exportVerification, hSelect]

/- An event of a category, at a time. -/
def sampleEvent (id : Nat) (now : Int) (category : String) :
    AuditEvent where
  id := id
  now := now
  eventType := "user.login"
  action := "login"
  eventCategory := category
  severity := "info"
  actorId := none
  actorEmail := some "qa@example.com"
  resourceId := none
  endpoint := none
  metadata := .dict [(.str "method", .str "sso")]

/- A column that gives documents back as they are. -/
def sampleEnv : AuditEnv :=
  ⟨"tenant", id, toString, some⟩

/- Two logins, a rolled back one, and a data event. -/
def sampleTransactions : List (Transaction AuditEvent) :=
  [⟨[sampleEvent 1 10 "auth"], true⟩,
    ⟨[sampleEvent 2 20 "auth"], false⟩,
    ⟨[sampleEvent 3 30 "data", sampleEvent 4 40 "auth"],
      true⟩]

/- The events from a time on. -/
def lateQuery : ExportQuery := ⟨30, 90, none, none, 100⟩

/- The events of one category. -/
def authQuery : ExportQuery := ⟨0, 90, some "auth", none, 100⟩

def sampleLog : AuditLog :=
  runLog sampleEnv sampleTransactions

/- The rows of a query on the sample log. -/
def sampleRows (query : ExportQuery) : List AuditRow :=
  (query.select sampleLog).getD []

/- An export of the last events of the log is valid. -/
theorem exportVerification_valid_late :
    (exportVerification sampleEnv lateQuery sampleLog).map
        ChainVerdict.valid = some true := by
  have hRows : ∀ row ∈ sampleRows lateQuery, row ∈ sampleLog :=
    fun row hRow => mem_of_mem_select lateQuery rfl hRow
  have hChain : (sampleRows lateQuery).IsChain Next := by
    decide
  have hPiece := ((chained_runLog sampleEnv
    sampleTransactions).isChain_iff_window _ hRows).mp hChain
  have hTexts : ∀ row ∈ sampleRows lateQuery,
      Json.dumpsUnsorted row.hashed =
        Json.dumps (.obj row.metadataDict) := by
    decide
  exact (exportVerification_valid_iff sampleEnv
    (fun _ _ hEq => hEq) sampleTransactions lateQuery
    (sampleRows lateQuery) rfl).mpr
      ⟨hPiece, fun row hRow =>
        AuditRow.recovers_of_text (hTexts row hRow)⟩

/-
  An export of one category leaves rows out, and reports the
  honest log as broken.
-/
theorem not_exportVerification_valid :
    ¬ ∀ (env : AuditEnv)
        (transactions : List (Transaction AuditEvent))
        (query : ExportQuery),
      (query.select (runLog env transactions)).isSome →
        (exportVerification env query
          (runLog env transactions)).map ChainVerdict.valid =
            some true := by
  intro hAll
  have hValid :=
    hAll sampleEnv sampleTransactions authQuery rfl
  have hRows : ∀ row ∈ sampleRows authQuery, row ∈ sampleLog :=
    fun row hRow => mem_of_mem_select authQuery rfl hRow
  have hChained := chained_runLog sampleEnv sampleTransactions
  have hHash : Function.Injective sampleEnv.sha256Hex :=
    fun _ _ hEq => hEq
  have hPiece := ((verifyChain_anchorOf_iff hHash hChained
    (sampleRows authQuery) hRows).mp
      (Option.some.inj hValid)).1
  have hGap : ¬ (sampleRows authQuery).IsChain Next := by
    decide
  exact hGap ((hChained.isChain_iff_window _ hRows).mpr hPiece)

end Audit

end RegEngine
