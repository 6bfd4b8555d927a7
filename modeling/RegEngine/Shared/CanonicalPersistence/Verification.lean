import RegEngine.Shared.CtePersistence.Verification
import RegEngine.Shared.Ledger.Runs

/-
  Verification of a tenant's hash chain against the canonical
  table (`shared/canonical_persistence/verification.py`).

  A chain row whose event is canonical only must carry the
  digest stored with the event. A row whose event is in the
  legacy table as well may carry the legacy digest, and is
  exempt from that comparison. In both cases the digest
  recomputed from the event's columns must be the stored one.

  Main declarations:
    * `CanonicalEventStore.recomputeEventSha256`
    * `CanonicalEventStore.Attested`
    * `CanonicalEventStore.verifyChainCanonical_attests`
-/

--------
-- Recomputing A Digest
--------

namespace RegEngine

namespace Db

/- The canonical row of the event of a chain row. -/
def canonicalRow (db : Db) (row : HashChainRow) :
    Option TraceabilityEventRow :=
  db.traceabilityEvents.find? (fun event =>
    event.eventId == row.cteEventId &&
      event.tenantId == row.tenantId)

/- The canonical rows of a tenant that are not rejected. -/
def acceptedTraceabilityEvents (db : Db) (tenantId : Uuid) :
    List TraceabilityEventRow :=
  db.traceabilityEvents.filter (fun event =>
    event.tenantId == tenantId && event.status != .rejected)

end Db

namespace CanonicalEventStore

/-
  `normalized_payload->>'event_timestamp'`. A value that is
  no text is printed without an offset, which gives no zone.
-/
def timestampHint (event : TraceabilityEventRow) :
    Option String :=
  match event.normalizedPayload with
  | .obj entries =>
      match entries.lookup "event_timestamp" with
      | some (.str text) => some text
      | _ => none
  | _ => none

/- The offset of the hashed time stamp, or UTC. -/
def originalZone (rt : Runtime) (hint : Option String) : Int :=
  match hint.bind rt.fromisoformat with
  | some (some timestamp) => timestamp.offset
  | _ => 0

/- `_recompute_event_sha256`. -/
def recomputeEventSha256
    (rt : Runtime)
    (event : TraceabilityEventRow)
    (kdes : List (String × Json)) :
    Except StoreError String := do
  let timestamp ←
    Outcome.ofOption .overflowError
      (Datetime.ofInstant event.eventTimestamp
        (originalZone rt (timestampHint event)))
  return rt.sha256Hex
    (Python.join "|"
      [event.eventId.text,
        event.eventType.value,
        event.traceabilityLotCode,
        Python.orElse event.productReference "",
        event.quantity.repr,
        event.unitOfMeasure,
        Python.orElse event.fromFacilityReference "",
        Python.orElse event.toFacilityReference "",
        timestamp.isoformat,
        Json.dumps (.obj kdes)])

/- `_kdes_object`, on what the driver reads from the column. -/
def kdesObject (rt : Runtime) :
    Json → Except StoreError (List (String × Json))
| .scalar .null => .ok []
| .obj entries => .ok entries
| .str text =>
    match rt.jsonLoads text with
    | none => .error (.valueError "kdes blob is not valid JSON")
    | some (.obj entries) => .ok entries
    | some _ =>
        .error (.valueError "kdes blob is not an object")
| _ => .error (.valueError "kdes blob is not an object")

/- The digest recomputed from the columns of an event. -/
def contentHash
    (rt : Runtime)
    (event : TraceabilityEventRow) :
    Except StoreError String := do
  let kdes ← kdesObject rt event.kdes
  recomputeEventSha256 rt event kdes

--------
-- The Walk
--------

open CtePersistence (hashStart linkErrors chainTampered)

/- `str(value)[:16]`. -/
def strStart : Option String → String
| none => "None"
| some text => hashStart text

/- What the walk finds at one row. -/
structure RowFindings where
  errors : List String
  orphan : Bool
  tampered : Bool
  legacy : Bool

/- The message for a row without an event in either store. -/
def orphanError (row : HashChainRow) : String :=
  "Orphan chain row at seq=" ++ toString row.sequenceNum ++
    ": cte_event_id=" ++ row.cteEventId.text ++
    " has no matching row in either store"

/- The digest of a canonical-only row against the stored one. -/
def chainRowErrors
    (db : Db)
    (row : HashChainRow)
    (event : TraceabilityEventRow) :
    List String :=
  if !db.hasLegacyRow row &&
      some row.eventHash != event.sha256Hash then
    ["Chain-row tamper at seq=" ++ toString row.sequenceNum ++
      ": chain event_hash " ++ strStart (some row.eventHash) ++
      "... != canonical sha256_hash " ++
      strStart event.sha256Hash ++ "..."]
  else
    []

/- The recomputed digest against the stored one. -/
def contentErrors
    (row : HashChainRow)
    (event : TraceabilityEventRow)
    (recomputed : String) :
    List String :=
  if some recomputed != event.sha256Hash then
    ["Event tamper at seq=" ++ toString row.sequenceNum ++
      ": recomputed event_hash " ++ strStart (some recomputed) ++
      "... != stored " ++ strStart event.sha256Hash ++ "..."]
  else
    []

/- The message for a document that cannot be read. -/
def unreadableError (row : HashChainRow) : String :=
  "Unreadable KDE blob at seq=" ++ toString row.sequenceNum ++
    ": event content cannot be recomputed"

/- The findings on a row that has a canonical event. -/
def checkEvent
    (rt : Runtime)
    (db : Db)
    (row : HashChainRow)
    (event : TraceabilityEventRow)
    (linked : List String) :
    Except StoreError RowFindings :=
  let chainRow := chainRowErrors db row event
  match kdesObject rt event.kdes with
  | .error _ =>
      .ok ⟨linked ++ chainRow ++ [unreadableError row], false,
        true, false⟩
  | .ok kdes => do
      let recomputed ← recomputeEventSha256 rt event kdes
      let content := contentErrors row event recomputed
      return ⟨linked ++ chainRow ++ content, false,
        chainTampered rt.sha256Hex row || !chainRow.isEmpty ||
          !content.isEmpty,
        false⟩

/- One round of the loop over the rows. -/
def checkRow
    (rt : Runtime)
    (db : Db)
    (rows : List HashChainRow)
    (index : Nat)
    (row : HashChainRow) :
    Except StoreError RowFindings :=
  let linked := linkErrors strStart rt.sha256Hex rows index row
  let tampered := chainTampered rt.sha256Hex row
  match db.canonicalRow row with
  | none =>
      if db.hasLegacyRow row then
        .ok ⟨linked, false, tampered, true⟩
      else
        .ok ⟨linked ++ [orphanError row], true, tampered, false⟩
  | some event => checkEvent rt db row event linked

/- The lists that the loop fills. -/
structure Walk where
  errors : List String
  orphanChainRows : List Int
  tamperRows : List Int
  legacyChainRows : List Int

/- The lists before the first row. -/
def Walk.start : Walk :=
  ⟨[], [], [], []⟩

/- The lists after a row; a tampered row is listed once. -/
def Walk.add
    (walk : Walk)
    (seq : Int)
    (findings : RowFindings) :
    Walk where
  errors := walk.errors ++ findings.errors
  orphanChainRows :=
    if findings.orphan then walk.orphanChainRows ++ [seq]
    else walk.orphanChainRows
  tamperRows :=
    if findings.tampered ∧ seq ∉ walk.tamperRows then
      walk.tamperRows ++ [seq]
    else
      walk.tamperRows
  legacyChainRows :=
    if findings.legacy then walk.legacyChainRows ++ [seq]
    else walk.legacyChainRows

/- The loop over the rows. -/
def walkRows
    (rt : Runtime)
    (db : Db)
    (rows : List HashChainRow) :
    Except StoreError Walk :=
  rows.zipIdx.foldlM (fun walk entry => do
    let findings ← checkRow rt db rows entry.2 entry.1
    return walk.add entry.1.sequenceNum findings) Walk.start

/- `CanonicalChainVerification`. -/
structure CanonicalChainVerification where
  valid : Bool
  chainLength : Nat
  errors : List String
  orphanChainRows : List Int
  tamperRows : List Int
  traceabilityEventsCount : Nat
  eventsWithoutChainRow : Nat
  legacyChainRows : List Int
  store : String
  noChainEvidence : Bool

/- The error when no row was walked. -/
def noEvidenceError (eventsCount : Nat) : String :=
  "No chain rows exist for tenant with " ++
    toString eventsCount ++
    " non-rejected canonical " ++
    "events — an unreadable or emptied chain is indistinguishable from chain-less " ++
    "ingestion, so chain integrity cannot be attested (nothing was walked). " ++
    "Not a tamper verdict; failing closed rather than reporting VERIFIED."

/- The report on the rows that were walked. -/
def report
    (rows : List HashChainRow)
    (eventsCount : Nat)
    (walk : Walk) :
    CanonicalChainVerification :=
  let noChainEvidence := rows.isEmpty && decide (0 < eventsCount)
  let errors :=
    walk.errors ++
      if noChainEvidence then [noEvidenceError eventsCount]
      else []
  { valid :=
      errors.isEmpty && walk.orphanChainRows.isEmpty &&
        walk.tamperRows.isEmpty
    chainLength := rows.length
    errors := errors
    orphanChainRows := walk.orphanChainRows
    tamperRows := walk.tamperRows
    traceabilityEventsCount := eventsCount
    eventsWithoutChainRow :=
      eventsCount - (rows.length - walk.legacyChainRows.length)
    legacyChainRows := walk.legacyChainRows
    store := "traceability_events"
    noChainEvidence := noChainEvidence }

/- `verify_chain_canonical`. -/
def verifyChainCanonical
    (rt : Runtime)
    (db : Db)
    (tenantId : Uuid) :
    Except StoreError CanonicalChainVerification :=
  (walkRows rt db (db.orderedChain tenantId)).map
    (report (db.orderedChain tenantId)
      (db.acceptedTraceabilityEvents tenantId).length)

--------
-- What A Valid Report Attests
--------

open CtePersistence (linkErrors chainTampered
  chainTampered_eq_false linkErrors_nil_iff_chainIntact)

/-
  What the verifier asks of the event of a chain row: the
  digest of its columns is the one stored with it and, when no
  legacy row has the same id, the one on the chain.
-/
def RowAttested
    (rt : Runtime)
    (db : Db)
    (row : HashChainRow) : Prop :=
  match db.canonicalRow row with
  | none => db.hasLegacyRow row = true
  | some event =>
      ∃ digest, contentHash rt event = .ok digest ∧
        event.sha256Hash = some digest ∧
        (db.hasLegacyRow row = false → row.eventHash = digest)

/- The states of the tables that pass the verifier. -/
structure Attested
    (rt : Runtime)
    (db : Db)
    (tenantId : Uuid) : Prop where
  intact :
    Ledger.ChainIntact rt.sha256Hex (db.orderedChain tenantId)
  evidence :
    db.orderedChain tenantId = [] →
      db.acceptedTraceabilityEvents tenantId = []
  rows :
    ∀ row ∈ db.orderedChain tenantId, RowAttested rt db row

/- Nothing was found at a row. -/
structure RowFindings.Clean (findings : RowFindings) : Prop where
  errors : findings.errors = []
  orphan : findings.orphan = false
  tampered : findings.tampered = false

/- Nothing was found so far. -/
structure Walk.Clean (walk : Walk) : Prop where
  errors : walk.errors = []
  orphan : walk.orphanChainRows = []
  tampered : walk.tamperRows = []

/- A row keeps the walk clean when it is clean. -/
theorem Walk.add_clean_iff
    {walk : Walk}
    {seq : Int}
    {findings : RowFindings} :
    (walk.add seq findings).Clean ↔
      walk.Clean ∧ findings.Clean := by
  constructor
  · rintro ⟨hErrors, hOrphan, hTamper⟩
    simp only [Walk.add] at hErrors hOrphan hTamper
    rw [List.append_eq_nil_iff] at hErrors
    have hOrphans :
        walk.orphanChainRows = [] ∧ findings.orphan = false := by
      split at hOrphan <;> simp_all
    have hTampers :
        walk.tamperRows = [] ∧ findings.tampered = false := by
      split at hTamper <;> simp_all
    exact ⟨⟨hErrors.1, hOrphans.1, hTampers.1⟩,
      ⟨hErrors.2, hOrphans.2, hTampers.2⟩⟩
  · rintro ⟨⟨hErrors, hOrphan, hTamper⟩,
      ⟨hErrors', hOrphan', hTamper'⟩⟩
    constructor <;> simp [Walk.add, *]

variable {db : Db} {rt : Runtime}

/- A canonical row is clean when its event is attested. -/
theorem checkEvent_clean_iff
    {row : HashChainRow}
    {event : TraceabilityEventRow}
    {linked : List String}
    (hTampered :
      linked = [] → chainTampered rt.sha256Hex row = false) :
    (∃ findings,
        checkEvent rt db row event linked = .ok findings ∧
          findings.Clean) ↔
      linked = [] ∧
        ∃ digest, contentHash rt event = .ok digest ∧
          event.sha256Hash = some digest ∧
          (db.hasLegacyRow row = false →
            row.eventHash = digest) := by
  unfold checkEvent contentHash
  cases hKdes : kdesObject rt event.kdes with
  | error raised =>
      constructor
      · rintro ⟨findings, hFindings, hClean⟩
        rw [← Except.ok.inj hFindings] at hClean
        simpa using hClean.errors
      · rintro ⟨-, digest, hDigest, -⟩
        simp [bind, Except.bind] at hDigest
  | ok kdes =>
      cases hHash : recomputeEventSha256 rt event kdes with
      | error raised =>
          constructor
          · rintro ⟨findings, hFindings, -⟩
            simp [hHash, bind, Except.bind] at hFindings
          · rintro ⟨-, digest, hDigest, -⟩
            simp [hHash, bind, Except.bind] at hDigest
      | ok recomputed =>
          constructor
          · rintro ⟨findings, hFindings, hClean⟩
            simp only [hHash, bind, Except.bind, pure,
              Except.pure, Except.ok.injEq] at hFindings
            have hErrors := hClean.errors
            rw [← hFindings, List.append_eq_nil_iff,
              List.append_eq_nil_iff] at hErrors
            rcases hErrors with ⟨⟨hLinked, hChainRow⟩, hContent⟩
            have hStored : event.sha256Hash = some recomputed := by
              rw [eq_comm]
              simpa [contentErrors] using hContent
            refine ⟨hLinked, recomputed, hHash, hStored, ?_⟩
            intro hLegacy
            simpa [chainRowErrors, hLegacy, hStored]
              using hChainRow
          · rintro ⟨hLinked, digest, hDigest, hStored, hChain⟩
            have hSame : recomputed = digest := by
              simpa [hHash, bind, Except.bind] using hDigest
            have hChainRow : chainRowErrors db row event = [] := by
              cases hLegacy : db.hasLegacyRow row with
              | true => simp [chainRowErrors, hLegacy]
              | false =>
                  simp [chainRowErrors, hStored, hChain hLegacy]
            have hContent :
                contentErrors row event recomputed = [] := by
              simp [contentErrors, hStored, hSame]
            refine ⟨_, Outcome.bind_eq_ok.mpr ⟨_, hHash, rfl⟩, ?_⟩
            constructor <;>
              simp [hLinked, hChainRow, hContent,
                hTampered hLinked]

/- A row is clean when it is linked and attested. -/
theorem checkRow_clean_iff
    {rows : List HashChainRow}
    {index : Nat}
    {row : HashChainRow} :
    (∃ findings,
        checkRow rt db rows index row = .ok findings ∧
          findings.Clean) ↔
      linkErrors strStart rt.sha256Hex rows index row = [] ∧
        RowAttested rt db row := by
  unfold checkRow RowAttested
  cases hEvent : db.canonicalRow row with
  | some event => exact checkEvent_clean_iff chainTampered_eq_false
  | none =>
      cases hLegacy : db.hasLegacyRow row with
      | true =>
          constructor
          · rintro ⟨findings, hFindings, hClean⟩
            rw [← Except.ok.inj hFindings] at hClean
            exact ⟨hClean.errors, rfl⟩
          · rintro ⟨hLinked, -⟩
            exact ⟨_, rfl, hLinked, rfl,
              chainTampered_eq_false hLinked⟩
      | false =>
          constructor
          · rintro ⟨findings, hFindings, hClean⟩
            rw [← Except.ok.inj hFindings] at hClean
            simpa using hClean.orphan
          · rintro ⟨-, hFalse⟩
            simp at hFalse

/- The walk is clean when the rows are linked and attested. -/
theorem walkRows_clean_iff
    (rt : Runtime)
    (db : Db)
    (rows : List HashChainRow) :
    (∃ walk, walkRows rt db rows = .ok walk ∧ walk.Clean) ↔
      Ledger.ChainIntact rt.sha256Hex rows ∧
        ∀ row ∈ rows, RowAttested rt db row := by
  unfold walkRows
  rw [Outcome.foldlM_ok_and_iff
    (Q := fun entry : HashChainRow × Nat =>
      linkErrors strStart rt.sha256Hex rows entry.2 entry.1 =
          [] ∧
        RowAttested rt db entry.1)]
  · rw [← linkErrors_nil_iff_chainIntact strStart]
    constructor
    · rintro ⟨-, hRows⟩
      constructor
      · intro index row hGet
        exact (hRows (row, index)
          (List.mem_zipIdx_iff_getElem?.mpr hGet)).1
      · intro row hMem
        rcases List.getElem?_of_mem hMem with ⟨index, hGet⟩
        exact (hRows (row, index)
          (List.mem_zipIdx_iff_getElem?.mpr hGet)).2
    · rintro ⟨hLinked, hRows⟩
      refine ⟨⟨rfl, rfl, rfl⟩, ?_⟩
      rintro ⟨row, index⟩ hMem
      have hGet := List.mem_zipIdx_iff_getElem?.mp hMem
      exact ⟨hLinked index row hGet,
        hRows row (List.mem_of_getElem? hGet)⟩
  · intro walk entry
    rw [← checkRow_clean_iff]
    constructor
    · rintro ⟨next, hNext, hClean⟩
      rcases Outcome.bind_eq_ok.mp hNext with
        ⟨findings, hFindings, hAdd⟩
      rw [← Outcome.pure_eq_ok.mp hAdd,
        Walk.add_clean_iff] at hClean
      exact ⟨hClean.1, findings, hFindings, hClean.2⟩
    · rintro ⟨hWalk, findings, hFindings, hClean⟩
      refine ⟨walk.add entry.1.sequenceNum findings, ?_,
        Walk.add_clean_iff.mpr ⟨hWalk, hClean⟩⟩
      rw [hFindings]
      rfl

/- The verifier reports valid on the attested states only. -/
theorem verifyChainCanonical_valid_iff
    {tenantId : Uuid} :
    (∃ out, verifyChainCanonical rt db tenantId = .ok out ∧
        out.valid = true) ↔
      Attested rt db tenantId := by
  have hWalk :=
    walkRows_clean_iff rt db (db.orderedChain tenantId)
  constructor
  · rintro ⟨out, hReport, hValid⟩
    rcases Outcome.map_eq_ok.mp hReport with
      ⟨walk, hRows, hReport⟩
    rw [← hReport] at hValid
    simp only [report, Bool.and_eq_true, List.isEmpty_iff,
      List.append_eq_nil_iff] at hValid
    rcases hValid with ⟨⟨⟨hErrors, hEvidence⟩, hOrphan⟩, hTamper⟩
    rcases hWalk.mp ⟨walk, hRows, hErrors, hOrphan, hTamper⟩ with
      ⟨hIntact, hAttested⟩
    refine ⟨hIntact, ?_, hAttested⟩
    intro hNil
    simpa [hNil] using hEvidence
  · rintro ⟨hIntact, hEvidence, hAttested⟩
    rcases hWalk.mpr ⟨hIntact, hAttested⟩ with
      ⟨walk, hRows, hErrors, hOrphan, hTamper⟩
    refine ⟨_, Outcome.map_eq_ok.mpr ⟨walk, hRows, rfl⟩, ?_⟩
    simp only [report, Bool.and_eq_true, List.isEmpty_iff,
      List.append_eq_nil_iff]
    refine ⟨⟨⟨hErrors, ?_⟩, hOrphan⟩, hTamper⟩
    by_cases hNil : db.orderedChain tenantId = []
    · simp [hEvidence hNil]
    · simp [hNil]

--------
-- Rewritten Events
--------

open Ledger (Transaction harvestRun)

/- Every chain row carries the digest of its event's columns. -/
def ChainBindsContent
    (rt : Runtime)
    (db : Db)
    (tenantId : Uuid) : Prop :=
  ∀ row ∈ db.chainRows tenantId,
    ∀ event, db.canonicalRow row = some event →
      contentHash rt event = .ok row.eventHash

/-
  In every state of the tables, however the canonical rows
  were rewritten: on a valid report the digest recomputed from
  the columns of an event on the chain is the one stored with
  it, and it is the digest on the chain when the legacy table
  does not hold the event.
-/
theorem verifyChainCanonical_attests
    (rt : Runtime)
    (db : Db)
    (tenantId : Uuid)
    (out : CanonicalChainVerification)
    (hReport : verifyChainCanonical rt db tenantId = .ok out)
    (hValid : out.valid = true)
    (row : HashChainRow)
    (hRow : row ∈ db.chainRows tenantId)
    (event : TraceabilityEventRow)
    (hEvent : db.canonicalRow row = some event) :
    ∃ digest, contentHash rt event = .ok digest ∧
      event.sha256Hash = some digest ∧
      (db.hasLegacyRow row = false →
        row.eventHash = digest) := by
  have hAttested :=
    verifyChainCanonical_valid_iff.mp ⟨out, hReport, hValid⟩
  have hOne := hAttested.rows row (Db.mem_orderedChain.mpr hRow)
  unfold RowAttested at hOne
  rw [hEvent] at hOne
  exact hOne

/- A harvest stored without its legacy copy. -/
def canonicalRun : List Transaction :=
  [⟨[.persistEvent false true
      ⟨⟨2026, 1, 2⟩, 0, 0, Datetime.isValid_second⟩
      default], true⟩]

def canonicalDb : Db :=
  Ledger.run (Runtime.ofDigests Ledger.harvestDigests) Db.empty
    canonicalRun

theorem verifyChainCanonical_attests_canonicalRun :
    ∃ row event,
      canonicalDb.canonicalRow row = some event ∧
        contentHash (Runtime.ofDigests Ledger.harvestDigests)
            event =
          .ok row.eventHash := by
  let rt := Runtime.ofDigests Ledger.harvestDigests
  let tenantId := (default : TraceabilityEvent).tenantId
  have hOut :
      (verifyChainCanonical rt canonicalDb tenantId).toOption.map
        CanonicalChainVerification.valid = some true := by
    decide +kernel
  have hRows :
      (canonicalDb.chainRows tenantId).map (fun row =>
        ((canonicalDb.canonicalRow row).isSome,
          canonicalDb.hasLegacyRow row)) = [(true, false)] := by
    decide +kernel
  rcases Option.map_eq_some_iff.mp hOut with ⟨out, hOk, hValid⟩
  rcases List.map_eq_singleton_iff.mp hRows with
    ⟨row, hChain, hStores⟩
  simp only [Prod.mk.injEq] at hStores
  rcases Option.isSome_iff_exists.mp hStores.1 with
    ⟨event, hEvent⟩
  have hReport :
      verifyChainCanonical rt canonicalDb tenantId = .ok out := by
    cases hVerify : verifyChainCanonical rt canonicalDb tenantId with
    | error raised => simp [hVerify, Except.toOption] at hOk
    | ok found => simp_all [Except.toOption]
  rcases verifyChainCanonical_attests rt canonicalDb tenantId out
      hReport hValid row (by simp [hChain]) event hEvent with
    ⟨digest, hDigest, -, hSame⟩
  exact ⟨row, event, hEvent, by rw [hDigest, hSame hStores.2]⟩

/- The digests of the harvest and of its rewritten columns. -/
def rewriteDigests : List (String × String) :=
  ("00000000-0000-0000-0000-000000000001|harvesting|LOT-1||2.0|cases|||2026-01-01T00:00:00+00:00|\x7b\x7d",
      "6681c1e3af783eb49e2be8162911ffaf2cbe6a3853f90d7ba34dd6c4daaa6ca3") ::
    Ledger.harvestDigests

/- Two cases for one, with the digest that fits. -/
def rewriteEvent (event : TraceabilityEventRow) :
    TraceabilityEventRow :=
  { event with
    quantity := ⟨"2.0", Python.isFloatRepr_two⟩
    sha256Hash :=
      some "6681c1e3af783eb49e2be8162911ffaf2cbe6a3853f90d7ba34dd6c4daaa6ca3" }

/-
  The tables after a harvest with its legacy copy, the
  canonical row rewritten and the chain left alone.
-/
def rewrittenDb : Db :=
  let db :=
    Ledger.run (Runtime.ofDigests rewriteDigests) Db.empty
      harvestRun
  { db with
    traceabilityEvents := db.traceabilityEvents.map rewriteEvent }

/- The rewritten row has a legacy twin, so the report is valid. -/
theorem verifyChainCanonical_accepts_rewrite :
    (rewriteDigests.map Prod.snd).Nodup ∧
      rewrittenDb.hashChain =
        (Ledger.run (Runtime.ofDigests rewriteDigests) Db.empty
          harvestRun).hashChain ∧
      (verifyChainCanonical (Runtime.ofDigests rewriteDigests)
          rewrittenDb
          (default : TraceabilityEvent).tenantId).toOption.map
        CanonicalChainVerification.valid = some true ∧
      ¬ ChainBindsContent (Runtime.ofDigests rewriteDigests)
        rewrittenDb (default : TraceabilityEvent).tenantId := by
  refine ⟨by decide, by simp only [rewrittenDb],
    by decide +kernel, ?_⟩
  intro hBinds
  have hRows :
      (rewrittenDb.chainRows
          (default : TraceabilityEvent).tenantId).map (fun row =>
        (rewrittenDb.canonicalRow row).map (fun event =>
          decide ((contentHash
              (Runtime.ofDigests rewriteDigests)
              event).toOption = some row.eventHash))) =
        [some false] := by
    decide +kernel
  rcases List.map_eq_singleton_iff.mp hRows with
    ⟨row, hChain, hRow⟩
  rcases Option.map_eq_some_iff.mp hRow with
    ⟨event, hEvent, hNe⟩
  have hHash := hBinds row (by simp [hChain]) event hEvent
  simp [hHash, Except.toOption] at hNe

end CanonicalEventStore

end RegEngine
