import RegEngine.Ingestion.Remediation.Tokens
import RegEngine.Library.Python
import RegEngine.Library.Transaction

/-
  The requests that present a remediation token or session
  (`remediation/supplier_router.py`), in the database session
  of `get_db_session`: it commits when the route returns and
  is rolled back when the route raises.

  What a route does behind the checks is arbitrary code. The
  rate limit is left out.

  Main declarations:
    * `Remediation.SupplierDb`
    * `Remediation.deny`
    * `Remediation.not_denialRecorded`
-/

--------
-- Denials
--------

namespace RegEngine

namespace Remediation

structure HttpException where
  statusCode : Nat
  detail : String
  deriving DecidableEq

/- `TOKEN_NOT_USABLE`. -/
def tokenNotUsable : HttpException :=
  ⟨400, "Remediation link is not usable"⟩

/- `SESSION_NOT_VALID`. -/
def sessionNotValid : HttpException :=
  ⟨401, "Session is not valid"⟩

structure DenialRow where
  tokenId : Nat
  reason : String
  deriving DecidableEq

/-
  The tokens, the denials in the audit log, and the other
  remediation tables.
-/
structure SupplierDb (δ : Type) where
  tokens : TokenTable
  audit : List DenialRow
  tables : δ

/- What a route raises, and the denial that it is for. -/
structure Raised where
  response : HttpException
  denial : Option DenialRow
  deriving DecidableEq

/- Code of a route that runs in a database session. -/
abbrev Request (δ α : Type) :=
  Session (SupplierDb δ) →
    Except Raised α × Session (SupplierDb δ)

variable {δ α ρ : Type}

/- `_deny` on a row that was found. -/
def deny
    (tokenId : Nat)
    (reason : String)
    (exc : HttpException) :
    Request δ α :=
  fun db =>
    (.error ⟨exc, some ⟨tokenId, reason⟩⟩,
      db.write (fun s =>
        { s with audit := s.audit ++ [⟨tokenId, reason⟩] }))

/- Why `resolve_active_token` denies a token. -/
def linkDenial (now : Int) (row : TokenRow) : Option String :=
  if row.revokedAt.isSome then some "revoked"
  else if row.expiresAt ≤ now then some "expired"
  else none

/- Why `resolve_active_session` denies a session. -/
def sessionDenial (now : Int) (row : TokenRow) :
    Option String :=
  if row.revokedAt.isSome then some "session_revoked"
  else if row.expiresAt ≤ now then some "token_expired"
  else if row.sessionExpiresAt.all (· ≤ now) then
    some "session_expired"
  else
    none

--------
-- Routes
--------

/-
  A row that was looked up, and the checks on it. Others may
  commit once it has been read.
-/
def checkFound
    (others : SupplierDb δ → SupplierDb δ)
    (found : Option (Nat × TokenRow))
    (denial : TokenRow → Option String)
    (exc : HttpException) :
    Request δ (Nat × TokenRow) :=
  fun db =>
    match found with
    | none => (.error ⟨exc, none⟩, db)
    | some (id, row) =>
        match denial row with
        | some reason => deny id reason exc (db.elapse others)
        | none => (.ok (id, row), db.elapse others)

/- `resolve_active_token`. -/
def resolveLink
    (sha256Hex : String → String)
    (now : Int)
    (others : SupplierDb δ → SupplierDb δ)
    (rawToken : String) :
    Request δ (Nat × TokenRow) :=
  fun db =>
    checkFound others
      (lookupToken db.seen.tokens (sha256Hex rawToken))
      (linkDenial now) tokenNotUsable db

/- `_lookup` by the hash of a session. -/
def lookupSession (tokens : TokenTable) (sessionHash : String) :
    Option (Nat × TokenRow) :=
  tokens.rows.find? (fun row =>
    row.2.sessionTokenHash = some sessionHash)

/- `resolve_active_session`. -/
def resolveActiveSession
    (sha256Hex : String → String)
    (now : Int)
    (others : SupplierDb δ → SupplierDb δ)
    (rawSession : String) :
    Request δ (Nat × TokenRow) :=
  fun db =>
    checkFound others
      (lookupSession db.seen.tokens (sha256Hex rawSession))
      (sessionDenial now) sessionNotValid db

/- `exchange_for_session`. -/
def mintSession
    (sha256Hex : String → String)
    (now : Int)
    (rawSession : String)
    (read : Nat × TokenRow) :
    Request δ Unit :=
  fun db =>
    if maxExchanges ≤ read.2.exchangeCount then
      deny read.1 "already_exchanged" tokenNotUsable db
    else
      match exchangeForSession db.seen.tokens now read
          (sha256Hex rawSession) with
      | none => deny read.1 "exchange_race" tokenNotUsable db
      | some _ =>
          (.ok (), db.write (fun s =>
            { s with
              tokens := s.tokens.set read.1
                (exchangeRow now (sha256Hex rawSession)) }))

/- One part of a route after another. -/
def andThen
    (first : Request δ α)
    (second : α → Request δ ρ) :
    Request δ ρ :=
  fun db =>
    match first db with
    | (.error raised, db) => (.error raised, db)
    | (.ok a, db) => second a db

/- The raw session of an `Authorization` header. -/
def bearerSession (authorization : String) : Option String :=
  if "bearer ".toList.isPrefixOf
      (Python.lower authorization).toList then
    some (Python.strip
      (String.ofList (authorization.toList.drop 7)))
  else
    none

/- `_session_row`. -/
def sessionRow
    (sha256Hex : String → String)
    (now : Int)
    (others : SupplierDb δ → SupplierDb δ)
    (authorization : String) :
    Request δ (Nat × TokenRow) :=
  fun db =>
    match bearerSession authorization with
    | none => (.error ⟨sessionNotValid, none⟩, db)
    | some rawSession =>
        resolveActiveSession sha256Hex now others rawSession db

/- The routes that present a token or a session. -/
inductive Route where
  | getTokenContext (rawToken : String)
  | exchange (rawToken rawSession : String)
  | getSessionState (authorization : String)
  | submitCorrection (authorization : String)
  deriving DecidableEq

/- What a route does with the row behind the checks. -/
abbrev Handler (δ ρ : Type) :=
  Route → Nat × TokenRow → Session (SupplierDb δ) →
    Except HttpException ρ × Session (SupplierDb δ)

/- The rest of a route, which denies nothing. -/
def afterChecks
    (handler : Handler δ ρ)
    (route : Route)
    (found : Nat × TokenRow) :
    Request δ ρ :=
  fun db =>
    match handler route found db with
    | (.ok answer, db) => (.ok answer, db)
    | (.error exc, db) => (.error ⟨exc, none⟩, db)

def Route.body
    (sha256Hex : String → String)
    (now : Int)
    (others : SupplierDb δ → SupplierDb δ)
    (handler : Handler δ ρ) :
    Route → Request δ ρ
| .getTokenContext rawToken =>
    andThen (resolveLink sha256Hex now others rawToken)
      (afterChecks handler (.getTokenContext rawToken))
| .exchange rawToken rawSession =>
    andThen (resolveLink sha256Hex now others rawToken)
      (fun found =>
        andThen (mintSession sha256Hex now rawSession found)
          (fun _ => afterChecks handler
            (.exchange rawToken rawSession) found))
| .getSessionState authorization =>
    andThen (sessionRow sha256Hex now others authorization)
      (afterChecks handler (.getSessionState authorization))
| .submitCorrection authorization =>
    andThen (sessionRow sha256Hex now others authorization)
      (afterChecks handler (.submitCorrection authorization))

/- A route in the session that `get_db_session` yields. -/
def serve
    (sha256Hex : String → String)
    (now : Int)
    (others : SupplierDb δ → SupplierDb δ)
    (handler : Handler δ ρ)
    (route : Route)
    (before : SupplierDb δ) :
    Except Raised ρ × SupplierDb δ :=
  let done := route.body sha256Hex now others handler
    (Session.start before)
  (done.1, done.2.close done.1.isOk)

--------
-- What A Denial Leaves
--------

/- A denial is in the audit log, and nothing else changed. -/
def DenialRecorded
    (before after : SupplierDb δ)
    (row : DenialRow) : Prop :=
  after.audit = before.audit ++ [row] ∧
    after.tokens = before.tokens ∧ after.tables = before.tables

/-
  When a part of a route denies, the session has committed
  nothing of its own.
-/
def DeniesUncommitted
    (request : Request δ α)
    (db : Session (SupplierDb δ))
    (committed : SupplierDb δ) : Prop :=
  ∀ raised, (request db).1 = .error raised →
    raised.denial.isSome →
      (request db).2.committed = committed

theorem deniesUncommitted_andThen
    {first : Request δ α}
    {second : α → Request δ ρ}
    {db : Session (SupplierDb δ)}
    {committed : SupplierDb δ}
    (hFirst : DeniesUncommitted first db committed)
    (hSecond : ∀ a, (first db).1 = .ok a →
      DeniesUncommitted (second a) (first db).2 committed) :
    DeniesUncommitted (andThen first second) db committed := by
  intro raised hError hDenial
  unfold andThen at hError ⊢
  cases hRun : first db with
  | mk result next =>
      rw [hRun] at hError
      cases result with
      | error exc =>
          cases hError
          have hHere := hFirst raised (by rw [hRun]) hDenial
          rw [hRun] at hHere
          exact hHere
      | ok a =>
          have hThere := hSecond a (by rw [hRun])
          rw [hRun] at hThere
          exact hThere raised hError hDenial

theorem deniesUncommitted_deny
    (tokenId : Nat)
    (reason : String)
    (exc : HttpException)
    (db : Session (SupplierDb δ)) :
    DeniesUncommitted (deny tokenId reason exc : Request δ α)
      db db.committed :=
  fun _ _ _ => rfl

theorem deniesUncommitted_afterChecks
    (handler : Handler δ ρ)
    (route : Route)
    (found : Nat × TokenRow)
    (db : Session (SupplierDb δ))
    (committed : SupplierDb δ) :
    DeniesUncommitted (afterChecks handler route found) db
      committed := by
  intro raised hError hDenial
  unfold afterChecks at hError
  split at hError
  · cases hError
  · cases hError
    cases hDenial

/- The checks on a row, and what others commit meanwhile. -/
theorem checkFound_spec
    (others : SupplierDb δ → SupplierDb δ)
    (found : Option (Nat × TokenRow))
    (denial : TokenRow → Option String)
    (exc : HttpException)
    (db : Session (SupplierDb δ)) :
    DeniesUncommitted (checkFound others found denial exc) db
        (others db.committed) ∧
      ∀ a, (checkFound others found denial exc db).1 = .ok a →
        (checkFound others found denial exc db).2 =
          db.elapse others := by
  constructor
  · intro raised hError hDenial
    unfold checkFound at hError ⊢
    split at hError
    · cases hError
      cases hDenial
    · split at hError
      · exact deniesUncommitted_deny _ _ _ _ raised hError
          hDenial
      · cases hError
  · intro a hOk
    unfold checkFound at hOk ⊢
    split at hOk
    · cases hOk
    · split at hOk
      · cases hOk
      · rfl

theorem sessionRow_spec
    (sha256Hex : String → String)
    (now : Int)
    (others : SupplierDb δ → SupplierDb δ)
    (authorization : String)
    (db : Session (SupplierDb δ)) :
    DeniesUncommitted
      (sessionRow sha256Hex now others authorization) db
        (others db.committed) := by
  intro raised hError hDenial
  unfold sessionRow at hError ⊢
  split at hError
  · cases hError
    cases hDenial
  · exact (checkFound_spec others _ _ _ db).1 raised hError
      hDenial

theorem deniesUncommitted_mintSession
    (sha256Hex : String → String)
    (now : Int)
    (rawSession : String)
    (read : Nat × TokenRow)
    (db : Session (SupplierDb δ)) :
    DeniesUncommitted
      (mintSession sha256Hex now rawSession read) db
        db.committed := by
  intro raised hError hDenial
  unfold mintSession at hError ⊢
  split at hError
  · rename_i hUsed
    rw [if_pos hUsed]
    rfl
  · rename_i hUnused
    rw [if_neg hUnused]
    split at hError
    · rfl
    · cases hError

/- A route that denies commits nothing of its own. -/
theorem deniesUncommitted_body
    (sha256Hex : String → String)
    (now : Int)
    (others : SupplierDb δ → SupplierDb δ)
    (handler : Handler δ ρ)
    (route : Route)
    (db : Session (SupplierDb δ)) :
    DeniesUncommitted
      (route.body sha256Hex now others handler) db
        (others db.committed) := by
  cases route with
  | getTokenContext rawToken =>
      apply deniesUncommitted_andThen
      · exact (checkFound_spec others _ _ _ db).1
      · intro found _
        exact deniesUncommitted_afterChecks _ _ _ _ _
  | exchange rawToken rawSession =>
      apply deniesUncommitted_andThen
      · exact (checkFound_spec others _ _ _ db).1
      · intro found hFound
        have hElapsed :=
          (checkFound_spec others _ _ _ db).2 found hFound
        apply deniesUncommitted_andThen
        · have hMint := deniesUncommitted_mintSession
            sha256Hex now rawSession found (db.elapse others)
          unfold resolveLink
          rw [hElapsed]
          exact hMint
        · intro _ _
          exact deniesUncommitted_afterChecks _ _ _ _ _
  | getSessionState authorization =>
      apply deniesUncommitted_andThen
      · exact sessionRow_spec sha256Hex now others _ db
      · intro found _
        exact deniesUncommitted_afterChecks _ _ _ _ _
  | submitCorrection authorization =>
      apply deniesUncommitted_andThen
      · exact sessionRow_spec sha256Hex now others _ db
      · intro found _
        exact deniesUncommitted_afterChecks _ _ _ _ _

/-
  After a request that is denied the database is what others
  have made of it.
-/
theorem serve_eq_of_denied
    (sha256Hex : String → String)
    (now : Int)
    (others : SupplierDb δ → SupplierDb δ)
    (handler : Handler δ ρ)
    (route : Route)
    (before : SupplierDb δ)
    {raised : Raised}
    (hError :
      (serve sha256Hex now others handler route before).1 =
        .error raised)
    (hDenial : raised.denial.isSome) :
    (serve sha256Hex now others handler route before).2 =
      others before := by
  unfold serve at hError ⊢
  simp only at hError ⊢
  rw [hError]
  exact deniesUncommitted_body sha256Hex now others handler
    route (Session.start before) raised hError hDenial

/-
  A denial is never recorded: the exception that answers the
  request rolls back the audit row written just before it.
-/
theorem not_denialRecorded
    (sha256Hex : String → String)
    (now : Int)
    (others : SupplierDb δ → SupplierDb δ)
    (handler : Handler δ ρ)
    (route : Route)
    (before : SupplierDb δ)
    (raised : Raised)
    (row : DenialRow)
    (hError :
      (serve sha256Hex now others handler route before).1 =
        .error raised)
    (hDenial : raised.denial = some row) :
    ¬ DenialRecorded (others before)
      (serve sha256Hex now others handler route before).2
      row := by
  have hAfter := serve_eq_of_denied sha256Hex now others
    handler route before hError (by rw [hDenial]; rfl)
  rintro ⟨hAudit, -, -⟩
  rw [hAfter] at hAudit
  simpa using congrArg List.length hAudit

/- A token that was revoked, and its link used again. -/
def revokedDb : SupplierDb Unit where
  tokens := Keyed.empty.add 10
    ((freshToken 1 "link" 3600).revoke 60)
  audit := []
  tables := ()

def emptyHandler : Handler Unit Unit :=
  fun _ _ db => (.ok (), db)

theorem not_denialRecorded_revoked :
    (serve id 120 id emptyHandler (.getTokenContext "link")
        revokedDb).1 =
        .error ⟨tokenNotUsable, some ⟨10, "revoked"⟩⟩ ∧
      ¬ DenialRecorded revokedDb
        (serve id 120 id emptyHandler (.getTokenContext "link")
          revokedDb).2 ⟨10, "revoked"⟩ :=
  ⟨by decide,
    not_denialRecorded id 120 id emptyHandler
      (.getTokenContext "link") revokedDb
      ⟨tokenNotUsable, some ⟨10, "revoked"⟩⟩ ⟨10, "revoked"⟩
      (by decide) rfl⟩

/- The denial of a revoked link leaves no evidence. -/
theorem not_serve_records :
    ¬ ∀ (δ ρ : Type) (sha256Hex : String → String) (now : Int)
        (others : SupplierDb δ → SupplierDb δ)
        (handler : Handler δ ρ) (route : Route)
        (before : SupplierDb δ) (raised : Raised)
        (row : DenialRow),
      (serve sha256Hex now others handler route before).1 =
          .error raised →
        raised.denial = some row →
          DenialRecorded (others before)
            (serve sha256Hex now others handler route
              before).2 row := by
  intro hRecords
  have hAudit := (hRecords Unit Unit id 120 id emptyHandler
    (.getTokenContext "link") revokedDb
    ⟨tokenNotUsable, some ⟨10, "revoked"⟩⟩ ⟨10, "revoked"⟩
    (by decide) rfl).1
  have hEmpty :
      (serve id 120 id emptyHandler (.getTokenContext "link")
        revokedDb).2.audit = [] := by
    decide
  rw [hEmpty] at hAudit
  cases hAudit

end Remediation

end RegEngine
