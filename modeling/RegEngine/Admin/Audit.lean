import RegEngine.Library.Metadata
import RegEngine.Library.Transaction

/-
  The audit log of the admin service (`admin/app/audit.py`),
  for the rows of one tenant in the order of their ids. The
  lock of the chain makes the calls come one after another.

  What a column gives back for a metadata document, and the
  text of a time, are parameters. Columns that are neither
  hashed nor filtered on are left out.

  Main declarations:
    * `Audit.HashInput.body`
    * `Audit.logEvent`
    * `Audit.runLog`
-/

--------
-- Integrity Hashes
--------

namespace RegEngine

namespace Audit

/-
  The tenant, the hash, the text of a time, and the metadata
  column: what it gives back, or nothing when it refuses.
-/
structure AuditEnv where
  tenantId : String
  sha256Hex : String → String
  isoformat : Int → String
  column : Json → Option Json

/- What an integrity hash is computed from. -/
structure HashInput where
  prevHash : Option String
  timestamp : String
  eventType : String
  action : String
  resourceId : Option String
  metadata : Json
  actorId : Option String
  actorEmail : Option String
  severity : String
  endpoint : Option String
  sequenceNum : Nat

/- `value if value else None`. -/
def orNone (value : Option String) : Option String :=
  value.filter (· ≠ "")

/- A text, or `null`. -/
def nullable : Option String → Json
| none => .scalar .null
| some value => .str value

/-
  The entries that are hashed, in the order of `sort_keys`.
  From the second version on they name the actor, from the
  third the position in the chain.
-/
def HashInput.body
    (tenantId : String)
    (version : Nat)
    (input : HashInput) :
    List (String × Json) :=
  [("action", .str input.action)] ++
    (if 2 ≤ version then
      [("actor_email", nullable input.actorEmail),
        ("actor_id", nullable input.actorId),
        ("endpoint", nullable input.endpoint)]
    else
      []) ++
    [("event_type", .str input.eventType),
      ("metadata", input.metadata),
      ("prev_hash",
        .str ((orNone input.prevHash).getD "GENESIS")),
      ("resource_id", nullable input.resourceId)] ++
    (if 3 ≤ version then
      [("sequence_num", .scalar (.int input.sequenceNum))]
    else
      []) ++
    (if 2 ≤ version then
      [("severity", .str input.severity)]
    else
      []) ++
    [("tenant_id", .str tenantId),
      ("timestamp", .str input.timestamp)] ++
    (if 2 ≤ version then
      [("version", .scalar (.int version))]
    else
      [])

/- `compute_integrity_hash`. -/
def computeIntegrityHash
    (env : AuditEnv)
    (version : Nat)
    (input : HashInput) : String :=
  env.sha256Hex
    (Json.dumpsUnsorted (.obj (input.body env.tenantId version)))

--------
-- The Log
--------

/- The arguments of `log_event`, and what the call meets. -/
structure AuditEvent where
  id : Nat
  now : Int
  eventType : String
  action : String
  eventCategory : String
  severity : String
  actorId : Option String
  actorEmail : Option String
  resourceId : Option String
  endpoint : Option String
  metadata : Python.Data

/-
  A row of `audit_logs`: its metadata as they are read back.
  Beside the columns stands the metadata that was hashed.
-/
structure AuditRow where
  id : Nat
  timestamp : Int
  eventType : String
  action : String
  eventCategory : String
  severity : String
  actorId : Option String
  actorEmail : Option String
  resourceId : Option String
  endpoint : Option String
  metadata : Json
  prevHash : Option String
  sequenceNum : Nat
  integrityHash : String
  hashed : Json

/- The rows of the tenant, by id. -/
abbrev AuditLog := List AuditRow

/- `_get_chain_head`. -/
def getChainHead (log : AuditLog) : Option String × Nat :=
  match log.getLast? with
  | none => (none, 1)
  | some row => (some row.integrityHash, row.sequenceNum + 1)

/- The metadata of an event, `metadata or {}`. -/
def AuditEvent.metadataOrEmpty (event : AuditEvent) : Python.Data :=
  if event.metadata.truthy then event.metadata else .dict []

/- What is hashed for an event at a place in the chain. -/
def AuditEvent.hashInput
    (env : AuditEnv)
    (event : AuditEvent)
    (head : Option String × Nat)
    (hashed : Json) :
    HashInput where
  prevHash := head.1
  timestamp := env.isoformat event.now
  eventType := event.eventType
  action := event.action
  resourceId := orNone event.resourceId
  metadata := hashed
  actorId := orNone event.actorId
  actorEmail := event.actorEmail
  severity := event.severity
  endpoint := event.endpoint
  sequenceNum := head.2

/-
  `log_event`. A call that fails returns `None` and leaves the
  log as it was.
-/
def logEvent
    (env : AuditEnv)
    (log : AuditLog)
    (event : AuditEvent) : AuditLog :=
  let head := getChainHead log
  match event.metadataOrEmpty.sorted,
      event.metadataOrEmpty.written.bind env.column with
  | some hashed, some stored =>
      log ++
        [{ id := event.id
           timestamp := event.now
           eventType := event.eventType
           action := event.action
           eventCategory := event.eventCategory
           severity := event.severity
           actorId := event.actorId
           actorEmail := event.actorEmail
           resourceId := event.resourceId
           endpoint := event.endpoint
           metadata := stored
           prevHash := head.1
           sequenceNum := head.2
           integrityHash := computeIntegrityHash env 3
             (event.hashInput env head hashed)
           hashed := hashed }]
  | _, _ => log

/- The log after some transactions of calls. -/
def runLog
    (env : AuditEnv)
    (transactions : List (Transaction AuditEvent)) :
    AuditLog :=
  Transaction.runAll
    (fun log event => (.ok (logEvent env log event) :
      Except Unit AuditLog)) [] transactions

/- What was hashed for a row, with some metadata. -/
def AuditRow.hashInput
    (env : AuditEnv)
    (row : AuditRow)
    (metadata : Json) :
    HashInput where
  prevHash := row.prevHash
  timestamp := env.isoformat row.timestamp
  eventType := row.eventType
  action := row.action
  resourceId := orNone row.resourceId
  metadata := metadata
  actorId := orNone row.actorId
  actorEmail := row.actorEmail
  severity := row.severity
  endpoint := row.endpoint
  sequenceNum := row.sequenceNum

/-
  Every row is numbered by its place, refers to the row before
  it, and has the hash of what was given to the call.
-/
def Chained (env : AuditEnv) (log : AuditLog) : Prop :=
  ∀ place row, log[place]? = some row →
    row.sequenceNum = place + 1 ∧
      row.prevHash =
        (log.take place).getLast?.map AuditRow.integrityHash ∧
        row.integrityHash =
          computeIntegrityHash env 3
            (row.hashInput env row.hashed)

variable {env : AuditEnv}

theorem Chained.head
    {log : AuditLog}
    (hChained : Chained env log) :
    getChainHead log =
      (log.getLast?.map AuditRow.integrityHash,
        log.length + 1) := by
  unfold getChainHead
  cases hLast : log.getLast? with
  | none =>
      rw [List.getLast?_eq_none_iff] at hLast
      rw [hLast]
      rfl
  | some row =>
      rw [List.getLast?_eq_getElem?] at hLast
      have hPlace := (hChained _ row hLast).1
      have hLength : log.length - 1 < log.length :=
        (List.getElem?_eq_some_iff.mp hLast).1
      simp only [Option.map_some, hPlace, Prod.mk.injEq,
        true_and]
      omega

/- A call keeps the chain. -/
theorem chained_logEvent
    {log : AuditLog}
    (hChained : Chained env log)
    (event : AuditEvent) :
    Chained env (logEvent env log event) := by
  unfold logEvent
  split
  · rw [hChained.head]
    intro place row hRow
    by_cases hOld : place < log.length
    · rw [List.getElem?_append_left hOld] at hRow
      rw [List.take_append_of_le_length (Nat.le_of_lt hOld)]
      exact hChained place row hRow
    · rw [List.getElem?_append_right (Nat.not_lt.mp hOld),
        List.getElem?_singleton] at hRow
      split at hRow
      · rename_i hPlace
        have hSame : place = log.length := by omega
        rw [hSame, List.take_left]
        rw [← Option.some.inj hRow]
        exact ⟨rfl, rfl, rfl⟩
      · cases hRow
  · exact hChained

/- Every log that calls and rollbacks lead to is chained. -/
theorem chained_runLog
    (env : AuditEnv)
    (transactions : List (Transaction AuditEvent)) :
    Chained env (runLog env transactions) := by
  unfold runLog
  refine Transaction.runAll_keeps ?_ ?_ transactions
  · intro log event next hChained hNext
    rw [← Except.ok.inj hNext]
    exact chained_logEvent hChained event
  · intro place row hRow
    cases hRow

end Audit

end RegEngine
