import RegEngine.Library.Keyed

/-
  Remediation tokens and the cases they belong to
  (`remediation/tokens.py`, `remediation/state.py`), for the
  rows of one tenant.

  A time is in seconds. The audit rows that the statements
  write beside the tokens are left out here.

  Main declarations:
    * `Remediation.CaseStatus`
    * `Remediation.TokenRow`
    * `Remediation.kept_issue`
-/

--------
-- Cases
--------

namespace RegEngine

namespace Remediation

/- The statuses of a remediation case. -/
inductive CaseStatus where
  | detected
  | autoResolutionAttempted
  | supplierActionRequired
  | notificationReady
  | awaitingSupplier
  | correctionSubmitted
  | revalidating
  | released
  | buyerReview
  | escalated
  deriving DecidableEq

/- `ALLOWED_TRANSITIONS`. -/
def allowedTransitions : CaseStatus → List CaseStatus
| .detected =>
    [.autoResolutionAttempted, .supplierActionRequired]
| .autoResolutionAttempted =>
    [.supplierActionRequired, .released]
| .supplierActionRequired => [.notificationReady, .escalated]
| .notificationReady => [.awaitingSupplier]
| .awaitingSupplier =>
    [.correctionSubmitted, .escalated, .notificationReady]
| .correctionSubmitted => [.revalidating]
| .revalidating => [.released, .buyerReview]
| .buyerReview => [.notificationReady, .released, .escalated]
| .released => []
| .escalated => [.notificationReady]

/-
  `transition` on the status of a case: it is legal, and the
  case is in the status it is expected in.
-/
def transition
    (status expectedFrom toStatus : CaseStatus) :
    Option CaseStatus :=
  if toStatus ∈ allowedTransitions expectedFrom ∧
      status = expectedFrom then
    some toStatus
  else
    none

--------
-- Tokens
--------

/- A row of `fsma.remediation_tokens`. -/
structure TokenRow where
  caseId : Nat
  tokenHash : String
  expiresAt : Int
  revokedAt : Option Int
  supersededBy : Option Nat
  sessionTokenHash : Option String
  sessionExpiresAt : Option Int
  exchangeCount : Nat
  deriving DecidableEq

abbrev TokenTable := Keyed Nat TokenRow

/- `MAX_EXCHANGES`. -/
def maxExchanges : Nat := 1

/- `SESSION_TTL_MINUTES`, in seconds. -/
def sessionTtl : Int := 30 * 60

/- A token that a supplier could use. -/
def TokenRow.IsLive (row : TokenRow) (now : Int) : Prop :=
  row.revokedAt = none ∧ now < row.expiresAt

def freshToken
    (caseId : Nat)
    (tokenHash : String)
    (expiresAt : Int) :
    TokenRow :=
  ⟨caseId, tokenHash, expiresAt, none, none, none, none, 0⟩

def TokenRow.revoke (row : TokenRow) (now : Int) : TokenRow :=
  { row with
    revokedAt := some now
    sessionTokenHash := none
    sessionExpiresAt := none }

/- A token that a revocation for a case meets. -/
def TokenRow.isOpenFor (caseId : Nat) (row : TokenRow) : Bool :=
  row.caseId = caseId && row.revokedAt.isNone

/- `revoke_tokens_for_case`, and the ids it returns. -/
def revokeTokensForCase
    (tokens : TokenTable)
    (now : Int)
    (caseId : Nat) :
    TokenTable × List Nat :=
  (tokens.update (fun _ row =>
      if row.isOpenFor caseId then row.revoke now else row),
    (tokens.rows.filter (fun row =>
      row.2.isOpenFor caseId)).map Prod.fst)

/- No token has the hash yet. -/
def hashIsFree (tokens : TokenTable) (tokenHash : String) :
    Bool :=
  tokens.rows.all (fun row => row.2.tokenHash ≠ tokenHash)

/-
  `issue_token`, under an id and a hash that no token has, and
  the token that it supersedes.
-/
def issueToken
    (tokens : TokenTable)
    (id caseId : Nat)
    (tokenHash : String)
    (expiresAt : Int)
    (superseded : Option Nat) :
    Option TokenTable :=
  if id ∈ tokens.keys ∨ hashIsFree tokens tokenHash = false then
    none
  else
    let issued :=
      tokens.add id (freshToken caseId tokenHash expiresAt)
    match superseded with
    | none => some issued
    | some old =>
        some (issued.set old (fun row =>
          { row with supersededBy := some id }))

/- `_lookup` by the hash of a token. -/
def lookupToken (tokens : TokenTable) (tokenHash : String) :
    Option (Nat × TokenRow) :=
  tokens.rows.find? (fun row => row.2.tokenHash = tokenHash)

/- `resolve_active_token`, or nothing when it denies. -/
def resolveActiveToken
    (tokens : TokenTable)
    (now : Int)
    (tokenHash : String) :
    Option (Nat × TokenRow) :=
  match lookupToken tokens tokenHash with
  | none => none
  | some (id, row) =>
      if row.revokedAt.isSome ∨ row.expiresAt ≤ now then none
      else some (id, row)

/- The row that the guarded update of an exchange meets. -/
def TokenRow.isExchangeable (row : TokenRow) : Bool :=
  row.revokedAt.isNone && row.exchangeCount < maxExchanges

def exchangeRow
    (now : Int)
    (sessionHash : String)
    (row : TokenRow) :
    TokenRow :=
  { row with
    sessionTokenHash := some sessionHash
    sessionExpiresAt := some (now + sessionTtl)
    exchangeCount := row.exchangeCount + 1 }

/-
  `exchange_for_session` on a token row as it was read: the
  update is guarded, and a row that it misses is a denial.
-/
def exchangeForSession
    (tokens : TokenTable)
    (now : Int)
    (read : Nat × TokenRow)
    (sessionHash : String) :
    Option TokenTable :=
  if maxExchanges ≤ read.2.exchangeCount then
    none
  else
    match tokens.find read.1 with
    | none => none
    | some row =>
        if row.isExchangeable then
          some (tokens.set read.1 (exchangeRow now sessionHash))
        else
          none

--------
-- One Token For A Case
--------

/- A case has at most one token that is not revoked. -/
def SingleLive (tokens : TokenTable) : Prop :=
  ∀ id row other otherRow,
    tokens.find id = some row →
      tokens.find other = some otherRow →
        row.revokedAt = none → otherRow.revokedAt = none →
          row.caseId = otherRow.caseId → id = other

/-
  A token row that came from another: what it was issued with
  is the same, and what was done to it stays done.
-/
structure TokenRow.Follows (row' row : TokenRow) : Prop where
  caseId : row'.caseId = row.caseId
  tokenHash : row'.tokenHash = row.tokenHash
  expiresAt : row'.expiresAt = row.expiresAt
  exchanges : row.exchangeCount ≤ row'.exchangeCount
  revoked : row.revokedAt.isSome → row'.revokedAt.isSome

theorem TokenRow.Follows.refl
    (row : TokenRow) :
    row.Follows row :=
  ⟨rfl, rfl, rfl, Nat.le_refl _, fun h => h⟩

theorem TokenRow.Follows.trans
    {first second third : TokenRow}
    (hSecond : third.Follows second)
    (hFirst : second.Follows first) :
    third.Follows first :=
  ⟨hSecond.caseId.trans hFirst.caseId,
    hSecond.tokenHash.trans hFirst.tokenHash,
    hSecond.expiresAt.trans hFirst.expiresAt,
    Nat.le_trans hFirst.exchanges hSecond.exchanges,
    fun h => hSecond.revoked (hFirst.revoked h)⟩

theorem TokenRow.Follows.isOpen
    {row row' : TokenRow}
    (hFollows : row'.Follows row)
    (hOpen : row'.revokedAt = none) :
    row.revokedAt = none := by
  cases hRevoked : row.revokedAt with
  | none => rfl
  | some at_ =>
      have hGone := hFollows.revoked (by simp [hRevoked])
      simp [hOpen] at hGone

/- A token that is not live does not come to life. -/
theorem TokenRow.Follows.not_isLive
    {row row' : TokenRow}
    {now now' : Int}
    (hFollows : row'.Follows row)
    (hTime : now ≤ now')
    (hNot : ¬ row.IsLive now) :
    ¬ row'.IsLive now' := by
  rintro ⟨hOpen, hFresh⟩
  apply hNot
  refine ⟨hFollows.isOpen hOpen, ?_⟩
  rw [hFollows.expiresAt] at hFresh
  exact Int.lt_of_le_of_lt hTime hFresh

/- Every token is still there. -/
def Kept (before after : TokenTable) : Prop :=
  ∀ id row, before.find id = some row →
    ∃ row', after.find id = some row' ∧ row'.Follows row

/- Every token but one was there before. -/
def BackedBut
    (exempt : Nat → Prop)
    (before after : TokenTable) : Prop :=
  ∀ id row', after.find id = some row' → ¬ exempt id →
    ∃ row, before.find id = some row ∧ row'.Follows row

/- No two tokens have one hash. -/
def DistinctHashes (tokens : TokenTable) : Prop :=
  ∀ id row other otherRow,
    tokens.find id = some row →
      tokens.find other = some otherRow →
        row.tokenHash = otherRow.tokenHash → id = other

variable {tokens issued : TokenTable} {now expiresAt : Int}
  {id caseId : Nat} {tokenHash : String}
  {superseded : Option Nat}

variable {after : TokenTable}

theorem SingleLive.backed
    (hSingle : SingleLive tokens)
    (hBacked : BackedBut (fun _ => False) tokens after) :
    SingleLive after := by
  intro id row other otherRow hFind hOther hOpen hOtherOpen
    hCase
  rcases hBacked id row hFind nofun with
    ⟨before, hBefore, hFollows⟩
  rcases hBacked other otherRow hOther nofun with
    ⟨otherBefore, hOtherBefore, hOtherFollows⟩
  exact hSingle id before other otherBefore hBefore
    hOtherBefore (hFollows.isOpen hOpen)
    (hOtherFollows.isOpen hOtherOpen)
    (hFollows.caseId.symm.trans
      (hCase.trans hOtherFollows.caseId))

theorem DistinctHashes.backed
    (hDistinct : DistinctHashes tokens)
    (hBacked : BackedBut (fun _ => False) tokens after) :
    DistinctHashes after := by
  intro id row other otherRow hFind hOther hHash
  rcases hBacked id row hFind nofun with
    ⟨before, hBefore, hFollows⟩
  rcases hBacked other otherRow hOther nofun with
    ⟨otherBefore, hOtherBefore, hOtherFollows⟩
  exact hDistinct id before other otherBefore hBefore
    hOtherBefore
    (hFollows.tokenHash.symm.trans
      (hHash.trans hOtherFollows.tokenHash))

--------
-- What Statements Do To Tokens
--------

/- An update by which every row follows the one before. -/
theorem kept_update
    (tokens : TokenTable)
    {f : Nat → TokenRow → TokenRow}
    (hFollows : ∀ id row, (f id row).Follows row) :
    Kept tokens (tokens.update f) ∧
      BackedBut (fun _ => False) tokens (tokens.update f) := by
  constructor
  · intro id row hFind
    refine ⟨f id row, ?_, hFollows id row⟩
    rw [Keyed.find_update, hFind, Option.map_some]
  · intro id row' hFind _
    rw [Keyed.find_update, Option.map_eq_some_iff] at hFind
    rcases hFind with ⟨row, hRow, hSame⟩
    rw [← hSame]
    exact ⟨row, hRow, hFollows id row⟩

theorem kept_revoke
    (tokens : TokenTable)
    (now : Int)
    (caseId : Nat) :
    Kept tokens (revokeTokensForCase tokens now caseId).1 ∧
      BackedBut (fun _ => False) tokens
        (revokeTokensForCase tokens now caseId).1 := by
  apply kept_update
  intro id row
  split
  · exact ⟨rfl, rfl, rfl, Nat.le_refl _, fun _ => rfl⟩
  · exact TokenRow.Follows.refl row

/- After a revocation no token of the case is open. -/
theorem revoked_of_revoke
    {row : TokenRow}
    (hFind :
      (revokeTokensForCase tokens now caseId).1.find id =
        some row)
    (hCase : row.caseId = caseId) :
    row.revokedAt.isSome := by
  simp only [revokeTokensForCase, Keyed.find_update,
    Option.map_eq_some_iff] at hFind
  rcases hFind with ⟨before, -, hRow⟩
  split at hRow
  · rw [← hRow]
    rfl
  · rename_i hOpen
    rw [← hRow] at hCase ⊢
    cases hRevoked : before.revokedAt with
    | none => simp [TokenRow.isOpenFor, hCase, hRevoked] at hOpen
    | some at_ => rfl

theorem exchangeForSession_eq_some
    {read : Nat × TokenRow}
    {sessionHash : String}
    (hExchange :
      exchangeForSession tokens now read sessionHash =
        some after) :
    ∃ row, tokens.find read.1 = some row ∧
      row.exchangeCount < maxExchanges ∧
        after =
          tokens.set read.1 (exchangeRow now sessionHash) := by
  unfold exchangeForSession at hExchange
  split at hExchange
  · cases hExchange
  · split at hExchange
    · cases hExchange
    · rename_i row hFind
      split at hExchange
      · rename_i hOpen
        cases hExchange
        simp only [TokenRow.isExchangeable, Bool.and_eq_true,
          decide_eq_true_eq] at hOpen
        exact ⟨row, hFind, hOpen.2, rfl⟩
      · cases hExchange

theorem kept_exchange
    (tokens : TokenTable)
    (now : Int)
    (id : Nat)
    (sessionHash : String) :
    Kept tokens (tokens.set id (exchangeRow now sessionHash)) ∧
      BackedBut (fun _ => False) tokens
        (tokens.set id (exchangeRow now sessionHash)) := by
  apply kept_update
  intro other row
  split
  · exact ⟨rfl, rfl, rfl, Nat.le_succ _, fun h => h⟩
  · exact TokenRow.Follows.refl row

/- The hash of an issued token is new. -/
theorem hash_ne_of_issue
    {other : Nat}
    {row : TokenRow}
    (hIssue : issueToken tokens id caseId tokenHash expiresAt
      superseded = some issued)
    (hFind : tokens.find other = some row) :
    row.tokenHash ≠ tokenHash := by
  unfold issueToken at hIssue
  split at hIssue
  · cases hIssue
  · rename_i hFree
    have hAll : hashIsFree tokens tokenHash = true := by
      cases h : hashIsFree tokens tokenHash with
      | true => rfl
      | false => exact absurd (.inr h) hFree
    have hMem := Keyed.find_eq_some_iff.mp hFind
    simpa using List.all_eq_true.mp hAll _ hMem

/- An issue adds one open token and keeps the others. -/
theorem issueToken_eq_some
    (hIssue : issueToken tokens id caseId tokenHash expiresAt
      superseded = some issued) :
    (∃ row, issued.find id = some row ∧
      row.caseId = caseId ∧ row.tokenHash = tokenHash ∧
        row.expiresAt = expiresAt ∧ row.revokedAt = none) ∧
      Kept tokens issued ∧
        BackedBut (· = id) tokens issued := by
  unfold issueToken at hIssue
  split at hIssue
  · cases hIssue
  · rename_i hFree
    have hNone : tokens.find id = none :=
      Keyed.find_eq_none_iff.mpr (fun h => hFree (.inl h))
    have hAdd :
        (tokens.add id
          (freshToken caseId tokenHash expiresAt)).find id =
            some (freshToken caseId tokenHash expiresAt) := by
      rw [Keyed.find_add, if_pos rfl, hNone, Option.getD_none]
    have hAddOthers : ∀ other, other ≠ id →
        (tokens.add id
          (freshToken caseId tokenHash expiresAt)).find other =
            tokens.find other := by
      intro other hOther
      rw [Keyed.find_add, if_neg hOther]
    have hKeptAdd : Kept tokens (tokens.add id
        (freshToken caseId tokenHash expiresAt)) := by
      intro other row hFind
      refine ⟨row, ?_, TokenRow.Follows.refl row⟩
      rw [hAddOthers other ?_, hFind]
      intro hSame
      rw [hSame, hNone] at hFind
      cases hFind
    cases superseded with
    | none =>
        cases hIssue
        refine ⟨⟨_, hAdd, rfl, rfl, rfl, rfl⟩, hKeptAdd, ?_⟩
        intro other row hFind hOther
        rw [hAddOthers other hOther] at hFind
        exact ⟨row, hFind, TokenRow.Follows.refl row⟩
    | some old =>
        cases hIssue
        have hFollows : ∀ (key : Nat) (row : TokenRow),
            (if key = old then
              { row with supersededBy := some id }
            else row).Follows row := by
          intro key row
          split
          · exact ⟨rfl, rfl, rfl, Nat.le_refl _, fun h => h⟩
          · exact TokenRow.Follows.refl row
        rcases kept_update (tokens.add id
          (freshToken caseId tokenHash expiresAt)) hFollows with
          ⟨hKept, hBacked⟩
        refine ⟨?_, ?_, ?_⟩
        · refine ⟨_, Keyed.find_set_eq_some.mpr
            ⟨_, hAdd, rfl⟩, ?_⟩
          split <;> exact ⟨rfl, rfl, rfl, rfl⟩
        · intro other row hFind
          rcases hKeptAdd other row hFind with
            ⟨row', hFind', hFirst⟩
          rcases hKept other row' hFind' with
            ⟨row'', hFind'', hSecond⟩
          exact ⟨row'', hFind'', hSecond.trans hFirst⟩
        · intro other row hFind hOther
          rcases hBacked other row hFind nofun with
            ⟨before, hBefore, hSame⟩
          rw [hAddOthers other hOther] at hBefore
          exact ⟨before, hBefore, hSame⟩

/-
  A relation that tells the new token from the others and the
  others from each other tells any two tokens apart.
-/
theorem eq_of_issue
    {R : TokenRow → TokenRow → Prop}
    {fresh : TokenRow}
    (hFresh : issued.find id = some fresh)
    (hSymm : ∀ row row', R row row' → R row' row)
    (hNew : ∀ other row, other ≠ id →
      issued.find other = some row → ¬ R fresh row)
    (hOld : ∀ first row second row', first ≠ id →
      second ≠ id → issued.find first = some row →
        issued.find second = some row' → R row row' →
          first = second)
    {first second : Nat}
    {row row' : TokenRow}
    (hFirst : issued.find first = some row)
    (hSecond : issued.find second = some row')
    (hRel : R row row') :
    first = second := by
  by_cases hIsFirst : first = id
  · by_cases hIsSecond : second = id
    · rw [hIsFirst, hIsSecond]
    · rw [hIsFirst, hFresh, Option.some.injEq] at hFirst
      rw [← hFirst] at hRel
      exact absurd hRel (hNew second row' hIsSecond hSecond)
  · by_cases hIsSecond : second = id
    · rw [hIsSecond, hFresh, Option.some.injEq] at hSecond
      rw [← hSecond] at hRel
      exact absurd (hSymm _ _ hRel)
        (hNew first row hIsFirst hFirst)
    · exact hOld first row second row' hIsFirst hIsSecond
        hFirst hSecond hRel

theorem distinctHashes_issue
    (hDistinct : DistinctHashes tokens)
    (hIssue : issueToken tokens id caseId tokenHash expiresAt
      superseded = some issued) :
    DistinctHashes issued := by
  rcases issueToken_eq_some hIssue with
    ⟨⟨fresh, hFresh, -, hFreshHash, -, -⟩, -, hBacked⟩
  intro first row second row' hFirst hSecond hHash
  apply eq_of_issue
    (R := fun row row' => row.tokenHash = row'.tokenHash)
    hFresh (fun _ _ h => h.symm) ?_ ?_ hFirst hSecond hHash
  · intro other row hOther hFind hSame
    rcases hBacked other row hFind hOther with
      ⟨before, hBefore, hFollows⟩
    apply hash_ne_of_issue hIssue hBefore
    rw [← hFreshHash, hSame, hFollows.tokenHash]
  · intro first row second row' hIsFirst hIsSecond hFirst
      hSecond hHash
    rcases hBacked first row hFirst hIsFirst with
      ⟨before, hBefore, hFollows⟩
    rcases hBacked second row' hSecond hIsSecond with
      ⟨before', hBefore', hFollows'⟩
    exact hDistinct first before second before' hBefore
      hBefore' (hFollows.tokenHash.symm.trans
        (hHash.trans hFollows'.tokenHash))

/- A token issued after a revocation is the only open one. -/
theorem singleLive_reissue
    (hSingle : SingleLive tokens)
    (hIssue :
      issueToken (revokeTokensForCase tokens now caseId).1 id
        caseId tokenHash expiresAt superseded = some issued) :
    SingleLive issued := by
  rcases issueToken_eq_some hIssue with
    ⟨⟨fresh, hFresh, hFreshCase, -, -, -⟩, -, hBacked⟩
  have hOthers := hSingle.backed
    (kept_revoke tokens now caseId).2
  intro first row second row' hFirst hSecond hOpen hOpen' hCase
  apply eq_of_issue
    (R := fun row row' => row.revokedAt = none ∧
      row'.revokedAt = none ∧ row.caseId = row'.caseId)
    hFresh (fun _ _ h => ⟨h.2.1, h.1, h.2.2.symm⟩) ?_ ?_
    hFirst hSecond ⟨hOpen, hOpen', hCase⟩
  · intro other row hOther hFind hSame
    rcases hBacked other row hFind hOther with
      ⟨before, hBefore, hFollows⟩
    have hGone := revoked_of_revoke hBefore
      (hFollows.caseId.symm.trans
        (hSame.2.2.symm.trans hFreshCase))
    rw [hFollows.isOpen hSame.2.1] at hGone
    cases hGone
  · intro first row second row' hIsFirst hIsSecond hFirst
      hSecond hSame
    rcases hBacked first row hFirst hIsFirst with
      ⟨before, hBefore, hFollows⟩
    rcases hBacked second row' hSecond hIsSecond with
      ⟨before', hBefore', hFollows'⟩
    exact hOthers first before second before' hBefore hBefore'
      (hFollows.isOpen hSame.1) (hFollows'.isOpen hSame.2.1)
      (hFollows.caseId.symm.trans
        (hSame.2.2.trans hFollows'.caseId))

end Remediation

end RegEngine
