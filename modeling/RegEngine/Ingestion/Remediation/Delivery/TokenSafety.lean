import RegEngine.Ingestion.Remediation.Delivery

/-
  What the tokens of a tenant keep in every run: one open
  token for a case, one session for a raw token, and, where
  no token is re-minted after it was revoked, no live token
  for a notification that a revocation had met.

  Main declarations:
    * `Delivery.TokenSafe`
    * `Delivery.Orderly`
    * `Delivery.tokenSafe_of_orderly`
-/

--------
-- What A Step May Do
--------

namespace RegEngine

namespace Remediation

section

namespace Delivery

variable {ω ρ : Type} [DecidableEq ω] [DecidableEq ρ]

/-
  After a step a case has at most one open token and no raw
  token has two sessions; a drainer makes no live token for a
  row that was enqueued before a revocation for its case.
-/
def TokenSafe
    (sha256Hex : String → String)
    (s : Delivery ω ρ)
    (a : DeliveryAction ω ρ) : Prop :=
  ∀ next, s.step sha256Hex a = some next →
    SingleLive next.tokens ∧ next.sessions.Nodup ∧
      ∀ drainer newId rawToken due stage,
        a = .remint drainer newId rawToken →
          (s.drainers drainer).busy = some (due, stage) →
            due.id ∈ s.doomed →
              ∀ row, next.tokens.find newId = some row →
                ¬ row.IsLive next.now

/-
  A drainer re-mints the link of a token that is not revoked
  since it was checked, or that has expired since.
-/
def Orderly (s : Delivery ω ρ) : DeliveryAction ω ρ → Prop
| .remint drainer _ _ =>
    match (s.drainers drainer).busy with
    | some (_, .checked tokenId token) =>
        s.now < token.expiresAt →
          ∀ row ∈ s.tokens.find tokenId, row.revokedAt = none
    | _ => True
| _ => True

omit [DecidableEq ω] [DecidableEq ρ] in
/- Whether a step is orderly can be decided. -/
instance
    (s : Delivery ω ρ)
    (a : DeliveryAction ω ρ) :
    Decidable (Orderly s a) :=
  match a with
  | .remint _ _ _ => by
      dsimp only [Orderly]
      split <;> infer_instance
  | .wait _ | .transition _ _ _ | .createLink _ _ _ _ _
  | .revokeLink _ | .resolveToken _ _ | .exchange _ _
  | .dueRows _ _ | .claim _ | .check _ _ | .remintFails _
  | .send _ _ | .finish _ | .crash _ => isTrue trivial

end Delivery

end

--------
-- The Invariant
--------

section

namespace Delivery

variable {ω ρ : Type}

/-
  The tokens, the tokens that requests have read, and the raw
  tokens that sessions were minted for.
-/
structure TokenInv
    (sha256Hex : String → String)
    (s : Delivery ω ρ) : Prop where
  single : SingleLive s.tokens
  distinct : DistinctHashes s.tokens
  requests : ∀ request rawToken id read,
    s.requests request = some (rawToken, id, read) →
      ∃ row, s.tokens.find id = some row ∧
        row.tokenHash = sha256Hex rawToken
  nodup : s.sessions.Nodup
  sessions : ∀ rawToken ∈ s.sessions,
    ∃ id row, s.tokens.find id = some row ∧
      row.tokenHash = sha256Hex rawToken ∧
        1 ≤ row.exchangeCount

/-
  The token of a notification is one of its case, and it is
  not live once a revocation has met the notification.
-/
def Bound
    (s : Delivery ω ρ)
    (id : Nat)
    (tokenId : Option Nat) : Prop :=
  ∀ token, tokenId = some token →
    ∃ row tokenRow, s.outbox.find id = some row ∧
      s.tokens.find token = some tokenRow ∧
        tokenRow.caseId = row.caseId ∧
          (id ∈ s.doomed → ¬ tokenRow.IsLive s.now)

/- The rows that a drainer has read. -/
structure DrainerInv
    (s : Delivery ω ρ)
    (drainer : Drainer) : Prop where
  batch : ∀ due ∈ drainer.batch, s.Bound due.id due.tokenId
  busy : ∀ due stage, drainer.busy = some (due, stage) →
    s.Bound due.id due.tokenId
  checked : ∀ due tokenId token,
    drainer.busy = some (due, .checked tokenId token) →
      due.tokenId = some tokenId ∧
        ∀ row, s.tokens.find tokenId = some row →
          row.Follows token

/- The notifications, and the drainers at work on them. -/
structure LinkInv (s : Delivery ω ρ) : Prop where
  outbox : ∀ id row, s.outbox.find id = some row →
    s.Bound id row.tokenId
  drainers : ∀ drainer, s.DrainerInv (s.drainers drainer)
  doomed : ∀ id ∈ s.doomed, ∃ row, s.outbox.find id = some row

end Delivery

end

--------
-- What Every Step Keeps
--------

section

namespace Delivery

variable {ω ρ : Type} {sha256Hex : String → String}
  {s next : Delivery ω ρ}

/-
  What no step undoes: tokens and notifications stay, and a
  notification that a revocation meets has no live token.
-/
structure Advances (s next : Delivery ω ρ) : Prop where
  time : s.now ≤ next.now
  tokens : Kept s.tokens next.tokens
  outbox : ∀ id row, s.outbox.find id = some row →
    ∃ row', next.outbox.find id = some row' ∧
      row'.caseId = row.caseId
  doomed : ∀ id ∈ next.doomed, id ∈ s.doomed ∨
    ∀ row, next.outbox.find id = some row →
      ∀ token tokenRow,
        next.tokens.find token = some tokenRow →
          tokenRow.caseId = row.caseId →
            ¬ tokenRow.IsLive next.now

theorem Bound.advance
    {id : Nat}
    {tokenId : Option Nat}
    (hAdvances : Advances s next)
    (hBound : s.Bound id tokenId) :
    next.Bound id tokenId := by
  intro token hToken
  rcases hBound token hToken with
    ⟨row, tokenRow, hRow, hTokenRow, hCase, hDoomed⟩
  rcases hAdvances.outbox id row hRow with
    ⟨row', hRow', hRowCase⟩
  rcases hAdvances.tokens token tokenRow hTokenRow with
    ⟨tokenRow', hTokenRow', hFollows⟩
  have hCase' : tokenRow'.caseId = row'.caseId := by
    rw [hFollows.caseId, hRowCase, hCase]
  refine ⟨row', tokenRow', hRow', hTokenRow', hCase', ?_⟩
  intro hNow
  rcases hAdvances.doomed id hNow with hBefore | hGone
  · exact hFollows.not_isLive hAdvances.time (hDoomed hBefore)
  · exact hGone row' hRow' token tokenRow' hTokenRow' hCase'

variable {drainer : Drainer}

theorem DrainerInv.advance
    (hAdvances : Advances s next)
    (hDrainer : s.DrainerInv drainer) :
    next.DrainerInv drainer := by
  refine ⟨?_, ?_, ?_⟩
  · intro due hDue
    exact (hDrainer.batch due hDue).advance hAdvances
  · intro due stage hBusy
    exact (hDrainer.busy due stage hBusy).advance hAdvances
  · intro due tokenId token hBusy
    rcases hDrainer.checked due tokenId token hBusy with
      ⟨hToken, hSame⟩
    refine ⟨hToken, ?_⟩
    intro row' hRow'
    rcases hDrainer.busy due _ hBusy tokenId hToken with
      ⟨-, row, -, hRow, -⟩
    rcases hAdvances.tokens tokenId row hRow with
      ⟨row'', hRow'', hFollows⟩
    rw [hRow', Option.some.injEq] at hRow''
    rw [hRow'']
    exact hFollows.trans (hSame row hRow)

theorem LinkInv.advance
    (hInv : LinkInv s)
    (hAdvances : Advances s next)
    (hOutbox : ∀ id row, next.outbox.find id = some row →
      next.Bound id row.tokenId)
    (hDrainers : ∀ drainer,
      next.drainers drainer = s.drainers drainer ∨
        next.DrainerInv (next.drainers drainer))
    (hDoomed : ∀ id ∈ next.doomed,
      ∃ row, next.outbox.find id = some row) :
    LinkInv next := by
  refine ⟨hOutbox, ?_, hDoomed⟩
  intro drainer
  rcases hDrainers drainer with hSame | hNew
  · rw [hSame]
    exact (hInv.drainers drainer).advance hAdvances
  · exact hNew

theorem TokenInv.advance
    (hInv : TokenInv sha256Hex s)
    (hKept : Kept s.tokens next.tokens)
    (hSingle : SingleLive next.tokens)
    (hDistinct : DistinctHashes next.tokens)
    (hRequests : next.requests = s.requests)
    (hSessions : next.sessions = s.sessions) :
    TokenInv sha256Hex next := by
  refine ⟨hSingle, hDistinct, ?_, ?_, ?_⟩
  · intro request rawToken id read hRequest
    rw [hRequests] at hRequest
    rcases hInv.requests request rawToken id read hRequest with
      ⟨row, hRow, hHash⟩
    rcases hKept id row hRow with ⟨row', hRow', hFollows⟩
    exact ⟨row', hRow', hFollows.tokenHash.trans hHash⟩
  · rw [hSessions]
    exact hInv.nodup
  · intro rawToken hRaw
    rw [hSessions] at hRaw
    rcases hInv.sessions rawToken hRaw with
      ⟨id, row, hRow, hHash, hCount⟩
    rcases hKept id row hRow with ⟨row', hRow', hFollows⟩
    exact ⟨id, row', hRow', hFollows.tokenHash.trans hHash,
      Nat.le_trans hCount hFollows.exchanges⟩

theorem kept_refl
    (tokens : TokenTable) :
    Kept tokens tokens :=
  fun _ row hFind => ⟨row, hFind, TokenRow.Follows.refl row⟩

/- A step that leaves the tokens and requests alone. -/
theorem TokenInv.frame
    (hInv : TokenInv sha256Hex s)
    (hTokens : next.tokens = s.tokens)
    (hRequests : next.requests = s.requests)
    (hSessions : next.sessions = s.sessions) :
    TokenInv sha256Hex next := by
  refine hInv.advance ?_ ?_ ?_ hRequests hSessions
  · rw [hTokens]
    exact kept_refl s.tokens
  · rw [hTokens]
    exact hInv.single
  · rw [hTokens]
    exact hInv.distinct

variable [DecidableEq ω]

/- A drainer goes on, with rows whose tokens are bound. -/
theorem LinkInv.put
    {drainer : ω}
    {state : Drainer}
    (hInv : LinkInv s)
    (hState : s.DrainerInv state) :
    LinkInv (s.put drainer state) := by
  refine ⟨hInv.outbox, ?_, hInv.doomed⟩
  intro other
  by_cases hSame : other = drainer
  · simp only [Delivery.put, hSame, Function.update_self]
    exact ⟨hState.batch, hState.busy, hState.checked⟩
  · simp only [Delivery.put, Function.update_of_ne hSame]
    have hOther := hInv.drainers other
    exact ⟨hOther.batch, hOther.busy, hOther.checked⟩

omit [DecidableEq ω] in
/- The row that a drainer works on goes to another stage. -/
theorem DrainerInv.stage
    {due : DueRow}
    {stage : Stage}
    (hDrainer : s.DrainerInv drainer)
    (hBound : s.Bound due.id due.tokenId)
    (hStage : ∀ tokenId token,
      stage ≠ .checked tokenId token) :
    s.DrainerInv ⟨some (due, stage), drainer.batch⟩ := by
  refine ⟨hDrainer.batch, ?_, ?_⟩
  · intro due' stage' hBusy
    rw [Option.some.injEq, Prod.mk.injEq] at hBusy
    rw [← hBusy.1]
    exact hBound
  · intro due' tokenId token hBusy
    rw [Option.some.injEq, Prod.mk.injEq] at hBusy
    exact absurd hBusy.2 (hStage tokenId token)

omit [DecidableEq ω] in
/- A drainer puts its row down. -/
theorem DrainerInv.rest
    {batch : List DueRow}
    (hBatch : ∀ due ∈ batch, s.Bound due.id due.tokenId) :
    s.DrainerInv ⟨none, batch⟩ :=
  ⟨hBatch, nofun, nofun⟩

omit [DecidableEq ω] in
/-
  One notification changes, but not its case and token.
-/
theorem LinkInv.setRow
    (hInv : LinkInv s)
    (id : Nat)
    (f : OutboxRow → OutboxRow)
    (hCase : ∀ row, (f row).caseId = row.caseId)
    (hToken : ∀ row, (f row).tokenId = row.tokenId) :
    LinkInv { s with outbox := s.outbox.set id f } ∧
      Advances s { s with outbox := s.outbox.set id f } := by
  have hAdvances :
      Advances s { s with outbox := s.outbox.set id f } := by
    refine ⟨Int.le_refl _, kept_refl _, ?_,
      fun _ h => .inl h⟩
    intro other row hFind
    refine ⟨_, Keyed.find_set_eq_some.mpr ⟨row, hFind, rfl⟩,
      ?_⟩
    split
    · exact hCase row
    · rfl
  refine ⟨hInv.advance hAdvances ?_ (fun _ => .inl rfl) ?_,
    hAdvances⟩
  · intro other row hFind
    rcases Keyed.find_set_eq_some.mp hFind with
      ⟨before, hBefore, hRow⟩
    have hSame : row.tokenId = before.tokenId := by
      rw [hRow]
      split
      · exact hToken before
      · rfl
    rw [hSame]
    exact (hInv.outbox other before hBefore).advance hAdvances
  · intro other hDoomed
    rcases hInv.doomed other hDoomed with ⟨row, hRow⟩
    rcases hAdvances.outbox other row hRow with ⟨row', hRow', -⟩
    exact ⟨row', hRow'⟩

end Delivery

end

--------
-- Buyers And Suppliers
--------

section

namespace Delivery

variable {ω ρ : Type} {sha256Hex : String → String}
  {s next : Delivery ω ρ} {caseId : Nat}

/- What holds between two steps. -/
structure Inv
    (sha256Hex : String → String)
    (s : Delivery ω ρ) : Prop where
  token : TokenInv sha256Hex s
  link : LinkInv s

/- The tokens after a case's tokens are issued anew. -/
theorem TokenInv.reissue
    {newId : Nat}
    {tokenHash : String}
    {expiresAt : Int}
    {superseded : Option Nat}
    {tokens : TokenTable}
    (hInv : TokenInv sha256Hex s)
    (hIssue :
      issueToken (revokeTokensForCase s.tokens s.now caseId).1
        newId caseId tokenHash expiresAt superseded =
          some tokens) :
    Kept s.tokens tokens ∧ SingleLive tokens ∧
      DistinctHashes tokens := by
  have hRevoke := kept_revoke s.tokens s.now caseId
  have hDistinct := hInv.distinct.backed hRevoke.2
  refine ⟨?_, singleLive_reissue hInv.single hIssue,
    distinctHashes_issue hDistinct hIssue⟩
  intro id row hFind
  rcases hRevoke.1 id row hFind with ⟨row', hFind', hFirst⟩
  rcases (issueToken_eq_some hIssue).2.1 id row' hFind' with
    ⟨row'', hFind'', hSecond⟩
  exact ⟨row'', hFind'', hSecond.trans hFirst⟩

variable {rawToken : String}

theorem createLink_inv
    {request : LinkRequest}
    {tokenId outboxId : Nat}
    (hInv : Inv sha256Hex s)
    (hStep : s.createLink sha256Hex caseId request tokenId
      rawToken outboxId = some next) :
    Inv sha256Hex next := by
  simp only [createLink, Option.bind_eq_bind,
    Option.bind_eq_some_iff] at hStep
  rcases hStep with
    ⟨found, -, fields, -, status, -, tokens, hIssue, hStep⟩
  split at hStep
  · cases hStep
  · rename_i hFree
    rcases hInv.token.reissue hIssue with
      ⟨hKept, hSingle, hDistinct⟩
    have hNone := Keyed.find_eq_none_iff.mpr hFree
    have hAdvances : Advances s next := by
      rw [← Option.some.inj hStep]
      refine ⟨Int.le_refl _, hKept, ?_, fun _ h => .inl h⟩
      intro id row hFind
      exact ⟨row, (Keyed.find_add_eq_some hNone).mpr
        (.inr hFind), rfl⟩
    cases hStep
    refine ⟨hInv.token.advance hKept hSingle hDistinct rfl rfl,
      hInv.link.advance hAdvances ?_ (fun _ => .inl rfl) ?_⟩
    · intro id row hFind
      rcases (Keyed.find_add_eq_some hNone).mp hFind with
        ⟨hId, hRow⟩ | hBefore
      · intro token hToken
        rw [hRow] at hToken
        rcases (issueToken_eq_some hIssue).1 with
          ⟨fresh, hFresh, hCase, -⟩
        refine ⟨row, fresh, hFind, ?_, ?_, ?_⟩
        · rw [← Option.some.inj hToken]
          exact hFresh
        · rw [hRow]
          exact hCase
        · intro hDoomed
          rcases hInv.link.doomed id hDoomed with
            ⟨before, hBefore⟩
          rw [hId, hNone] at hBefore
          cases hBefore
      · exact (hInv.link.outbox id row hBefore).advance
          hAdvances
    · intro id hDoomed
      rcases hInv.link.doomed id hDoomed with ⟨row, hRow⟩
      exact ⟨row, (Keyed.find_add_eq_some hNone).mpr
        (.inr hRow)⟩

theorem revokeLink_inv
    (hInv : Inv sha256Hex s)
    (hStep : s.revokeLink caseId = some next) :
    Inv sha256Hex next := by
  simp only [revokeLink, Option.bind_eq_bind,
    Option.bind_eq_some_iff] at hStep
  rcases hStep with ⟨found, -, hStep⟩
  have hRevoke := kept_revoke s.tokens s.now caseId
  have hAdvances : Advances s next := by
    rw [← Option.some.inj hStep]
    refine ⟨Int.le_refl _, hRevoke.1,
      fun id row hFind => ⟨row, hFind, rfl⟩, ?_⟩
    intro id hDoomed
    rcases List.mem_append.mp hDoomed with hBefore | hNew
    · exact .inl hBefore
    · right
      intro row hRow token tokenRow hTokenRow hCase hLive
      rcases List.mem_map.mp hNew with ⟨entry, hEntry, hId⟩
      rcases List.mem_filter.mp hEntry with
        ⟨hMem, hEntryCase⟩
      have hSame : s.outbox.find id = some entry.2 := by
        rw [← hId]
        exact Keyed.find_eq_some_iff.mpr hMem
      rw [hRow, Option.some.injEq] at hSame
      have hGone := revoked_of_revoke hTokenRow (by
        rw [hCase, hSame]
        exact of_decide_eq_true hEntryCase)
      rw [hLive.1] at hGone
      cases hGone
  cases hStep
  refine ⟨hInv.token.advance hRevoke.1
      (hInv.token.single.backed hRevoke.2)
      (hInv.token.distinct.backed hRevoke.2) rfl rfl,
    hInv.link.advance hAdvances ?_ (fun _ => .inl rfl) ?_⟩
  · intro id row hFind
    exact (hInv.link.outbox id row hFind).advance hAdvances
  · intro id hDoomed
    rcases List.mem_append.mp hDoomed with hBefore | hNew
    · exact hInv.link.doomed id hBefore
    · rcases List.mem_map.mp hNew with ⟨entry, hEntry, hId⟩
      refine ⟨entry.2, ?_⟩
      rw [← hId]
      exact Keyed.find_eq_some_iff.mpr
        (List.mem_filter.mp hEntry).1

/- Links do not depend on the requests and sessions. -/
theorem LinkInv.frame
    (hInv : LinkInv s)
    (hAdvances : Advances s next)
    (hOutbox : next.outbox = s.outbox)
    (hDrainers : next.drainers = s.drainers)
    (hDoomed : next.doomed = s.doomed) :
    LinkInv next := by
  refine hInv.advance hAdvances ?_ ?_ ?_
  · intro id row hFind
    rw [hOutbox] at hFind
    exact (hInv.outbox id row hFind).advance hAdvances
  · intro drainer
    left
    rw [hDrainers]
  · rw [hDoomed, hOutbox]
    exact hInv.doomed

variable [DecidableEq ρ] {request : ρ}

theorem resolveToken_inv
    (hInv : Inv sha256Hex s) :
    Inv sha256Hex (s.resolveToken sha256Hex request rawToken) := by
  have hAdvances : Advances s
      (s.resolveToken sha256Hex request rawToken) :=
    ⟨Int.le_refl _, kept_refl _,
      fun id row hFind => ⟨row, hFind, rfl⟩, fun _ h => .inl h⟩
  refine ⟨⟨hInv.token.single, hInv.token.distinct, ?_,
    hInv.token.nodup, hInv.token.sessions⟩,
    hInv.link.frame hAdvances rfl rfl rfl⟩
  intro other raw id read hRead
  by_cases hSame : other = request
  · simp only [resolveToken, hSame, Function.update_self,
      Option.map_eq_some_iff] at hRead
    rcases hRead with ⟨found, hFound, hEq⟩
    rw [Prod.mk.injEq] at hEq
    rw [hEq.2] at hFound
    rw [← hEq.1]
    unfold resolveActiveToken at hFound
    split at hFound
    · cases hFound
    · rename_i foundId row hLookup
      split at hFound
      · cases hFound
      · rw [Option.some.injEq, Prod.mk.injEq] at hFound
        refine ⟨row, ?_, ?_⟩
        · rw [← hFound.1]
          exact Keyed.find_eq_some_iff.mpr
            (List.mem_of_find?_eq_some hLookup)
        · simpa using List.find?_some hLookup
  · simp only [resolveToken, Function.update_of_ne hSame]
      at hRead
    exact hInv.token.requests other raw id read hRead

/- A request that ends leaves what the others have read. -/
theorem TokenInv.close
    (hInv : TokenInv sha256Hex s)
    (request : ρ) :
    TokenInv sha256Hex { s with
      requests := Function.update s.requests request none } := by
  refine ⟨hInv.single, hInv.distinct, ?_, hInv.nodup,
    hInv.sessions⟩
  intro other raw id read hRead
  by_cases hSame : other = request
  · simp [hSame] at hRead
  · simp only [Function.update_of_ne hSame] at hRead
    exact hInv.requests other raw id read hRead

theorem exchange_inv
    {rawSession : String}
    (hInv : Inv sha256Hex s)
    (hStep : s.exchange sha256Hex request rawSession =
      some next) :
    Inv sha256Hex next := by
  have hClosed := hInv.token.close request
  unfold exchange at hStep
  split at hStep
  · cases hStep
  · rename_i rawToken read hRequest
    split at hStep
    · cases hStep
      refine ⟨hClosed, hInv.link.frame ?_ rfl rfl rfl⟩
      exact ⟨Int.le_refl _, kept_refl _,
        fun id row hFind => ⟨row, hFind, rfl⟩,
        fun _ h => .inl h⟩
    · rename_i tokens hExchange
      cases hStep
      rcases exchangeForSession_eq_some hExchange with
        ⟨row, hRow, hCount, hTokens⟩
      subst hTokens
      have hKept := kept_exchange s.tokens s.now read.1
        (sha256Hex rawSession)
      rcases hInv.token.requests request rawToken read.1 read.2
          hRequest with ⟨found, hFound, hHash⟩
      rw [hRow, Option.some.injEq] at hFound
      rw [← hFound] at hHash
      have hOld : TokenInv sha256Hex { s with
          requests := Function.update s.requests request none
          tokens := s.tokens.set read.1
            (exchangeRow s.now (sha256Hex rawSession)) } :=
        hClosed.advance hKept.1
          (hInv.token.single.backed hKept.2)
          (hInv.token.distinct.backed hKept.2) rfl rfl
      refine ⟨⟨hOld.single, hOld.distinct, hOld.requests, ?_,
        ?_⟩, hInv.link.frame ?_ rfl rfl rfl⟩
      · refine List.nodup_cons.mpr ⟨?_, hInv.token.nodup⟩
        -- an earlier session has used the only exchange
        intro hEarlier
        rcases hInv.token.sessions rawToken hEarlier with
          ⟨id, other, hOther, hOtherHash, hUsed⟩
        have hSame := hInv.token.distinct id other read.1 row
          hOther hRow (hOtherHash.trans hHash.symm)
        rw [hSame, hRow, Option.some.injEq] at hOther
        rw [← hOther] at hUsed
        exact absurd hCount (Nat.not_lt.mpr hUsed)
      · intro raw hRaw
        rcases List.mem_cons.mp hRaw with hNew | hBefore
        · refine ⟨read.1, _, Keyed.find_set_eq_some.mpr
            ⟨row, hRow, rfl⟩, ?_, ?_⟩
          · rw [if_pos rfl, hNew]
            exact hHash
          · rw [if_pos rfl]
            exact Nat.succ_pos _
        · exact hOld.sessions raw hBefore
      · exact ⟨Int.le_refl _, hKept.1,
          fun id row hFind => ⟨row, hFind, rfl⟩,
          fun _ h => .inl h⟩

end Delivery

end

--------
-- Drainers
--------

section

namespace Delivery

variable {ω ρ : Type} [DecidableEq ω]
  {sha256Hex : String → String} {s next : Delivery ω ρ}
  {drainer : ω}

theorem dueRows_inv
    {batchSize : Nat}
    (hInv : Inv sha256Hex s)
    (hStep : s.dueRows drainer batchSize = some next) :
    Inv sha256Hex next := by
  unfold dueRows at hStep
  split at hStep
  · cases hStep
    refine ⟨hInv.token.frame rfl rfl rfl, hInv.link.put ?_⟩
    apply DrainerInv.rest
    intro due hDue
    rcases List.mem_map.mp hDue with ⟨entry, hEntry, hDueEq⟩
    rw [← hDueEq]
    have hMem := (List.mem_filter.mp
      (List.mem_of_mem_take hEntry)).1
    exact hInv.link.outbox entry.1 entry.2
      (Keyed.find_eq_some_iff.mpr hMem)
  · cases hStep

theorem claim_inv
    (hInv : Inv sha256Hex s)
    (hStep : s.claim drainer = some next) :
    Inv sha256Hex next := by
  have hDrainer := hInv.link.drainers drainer
  unfold claim at hStep
  split at hStep
  · rename_i due rest hBusy hBatch
    have hRows : ∀ other ∈ due :: rest,
        s.Bound other.id other.tokenId := by
      rw [← hBatch]
      exact hDrainer.batch
    have hRest : s.DrainerInv ⟨none, rest⟩ := by
      apply DrainerInv.rest
      intro other hOther
      exact hRows other (List.mem_cons_of_mem due hOther)
    split at hStep
    · cases hStep
      have hSet := hInv.link.setRow due.id
        (fun row => { row with
          status := .sending
          claimedAt := some s.now })
        (fun _ => rfl) (fun _ => rfl)
      refine ⟨hInv.token.frame rfl rfl rfl, hSet.1.put ?_⟩
      have hBound := hRows due (List.mem_cons_self)
      exact (hRest.advance hSet.2).stage
        (hBound.advance hSet.2) (by simp)
    · cases hStep
      exact ⟨hInv.token.frame rfl rfl rfl,
        hInv.link.put hRest⟩
  · cases hStep

theorem check_inv
    {suppressed : Bool}
    (hInv : Inv sha256Hex s)
    (hStep : s.check drainer suppressed = some next) :
    Inv sha256Hex next := by
  have hDrainer := hInv.link.drainers drainer
  unfold check at hStep
  split at hStep
  · rename_i due hBusy
    cases hStep
    refine ⟨hInv.token.frame rfl rfl rfl, hInv.link.put ?_⟩
    refine ⟨hDrainer.batch, ?_, ?_⟩
    · intro due' stage hDue
      rw [Option.some.injEq, Prod.mk.injEq] at hDue
      rw [← hDue.1]
      exact hDrainer.busy due _ hBusy
    · intro due' tokenId token hDue
      rw [Option.some.injEq, Prod.mk.injEq] at hDue
      rw [← hDue.1]
      have hStage := hDue.2
      unfold checkStage at hStage
      split at hStage
      · cases hStage
      · split at hStage
        · cases hStage
        · split at hStage
          · cases hStage
          · rename_i found hFound
            split at hStage
            · cases hStage
            · rename_i row hRow
              split at hStage
              · cases hStage
              · rw [Stage.checked.injEq] at hStage
                rw [← hStage.1, ← hStage.2]
                refine ⟨hFound, ?_⟩
                intro row' hRow'
                rw [hRow, Option.some.injEq] at hRow'
                rw [← hRow']
                exact TokenRow.Follows.refl row
  · cases hStep

variable {due : DueRow} {rawToken : String}

/- A drainer is done with the checks or with the row. -/
theorem stage_inv
    {stage : Stage}
    (stage' : Stage)
    (hInv : Inv sha256Hex s)
    (hBusy : (s.drainers drainer).busy = some (due, stage))
    (hStage : ∀ tokenId token,
      stage' ≠ .checked tokenId token) :
    Inv sha256Hex (s.put drainer
      ⟨some (due, stage'), (s.drainers drainer).batch⟩) := by
  have hDrainer := hInv.link.drainers drainer
  refine ⟨hInv.token.frame rfl rfl rfl, hInv.link.put ?_⟩
  exact hDrainer.stage (hDrainer.busy due stage hBusy) hStage

theorem remintFails_inv
    (hInv : Inv sha256Hex s)
    (hStep : s.remintFails drainer = some next) :
    Inv sha256Hex next := by
  unfold remintFails at hStep
  split at hStep
  · rename_i due tokenId token hBusy
    cases hStep
    exact stage_inv (.done .failing) hInv hBusy (by simp)
  · cases hStep

theorem send_inv
    {delivered : Bool}
    (hInv : Inv sha256Hex s)
    (hStep : s.send drainer delivered = some next) :
    Inv sha256Hex next := by
  unfold send at hStep
  split at hStep
  · rename_i due hBusy
    cases hStep
    have hStage := stage_inv
      (.done (if delivered then .sent else .failing)) hInv
      hBusy nofun
    exact ⟨hStage.token.frame rfl rfl rfl,
      hStage.link.frame
        ⟨Int.le_refl _, kept_refl _,
          fun id row hFind => ⟨row, hFind, rfl⟩,
          fun _ h => .inl h⟩ rfl rfl rfl⟩
  · cases hStep

theorem crash_inv
    (hInv : Inv sha256Hex s) :
    Inv sha256Hex (s.put drainer .idle) :=
  ⟨hInv.token.frame rfl rfl rfl,
    hInv.link.put (DrainerInv.rest nofun)⟩

/- An outcome says nothing about the token. -/
theorem finish_keeps
    (now : Int)
    (due : DueRow)
    (row : OutboxRow)
    (outcome : Outcome) :
    (outcome.finish now due row).caseId = row.caseId ∧
      (outcome.finish now due row).tokenId = row.tokenId := by
  cases outcome with
  | sent => exact ⟨rfl, rfl⟩
  | skipped reason => exact ⟨rfl, rfl⟩
  | failing =>
      simp only [Outcome.finish, sendFailure]
      split <;> exact ⟨rfl, rfl⟩

theorem finish_inv
    (hInv : Inv sha256Hex s)
    (hStep : s.finish drainer = some next) :
    Inv sha256Hex next := by
  unfold finish at hStep
  split at hStep
  · rename_i due outcome hBusy
    cases hStep
    have hSet := hInv.link.setRow due.id
      (outcome.finish s.now due)
      (fun row => (finish_keeps s.now due row outcome).1)
      (fun row => (finish_keeps s.now due row outcome).2)
    refine ⟨hInv.token.frame rfl rfl rfl, hSet.1.put ?_⟩
    apply DrainerInv.rest
    intro other hOther
    exact ((hInv.link.drainers drainer).batch other
      hOther).advance hSet.2
  · cases hStep

omit [DecidableEq ω] in
/-
  A re-mint of a token that is still live: the notification
  was not met by a revocation.
-/
theorem not_doomed_of_orderly
    {tokenId newId : Nat}
    {token : TokenRow}
    (hInv : LinkInv s)
    (hOrderly : Orderly s (.remint drainer newId rawToken))
    (hBusy : (s.drainers drainer).busy =
      some (due, .checked tokenId token))
    (hFresh : s.now < token.expiresAt) :
    due.id ∉ s.doomed := by
  intro hDoomed
  have hDrainer := hInv.drainers drainer
  rcases hDrainer.checked due tokenId token hBusy with
    ⟨hToken, hSame⟩
  rcases hDrainer.busy due _ hBusy tokenId hToken with
    ⟨row, tokenRow, -, hTokenRow, -, hGone⟩
  simp only [Orderly, hBusy] at hOrderly
  apply hGone hDoomed
  refine ⟨hOrderly hFresh tokenRow hTokenRow, ?_⟩
  rw [(hSame tokenRow hTokenRow).expiresAt]
  exact hFresh

theorem remint_inv
    {newId : Nat}
    (hInv : Inv sha256Hex s)
    (hOrderly : Orderly s (.remint drainer newId rawToken))
    (hStep : s.remint sha256Hex drainer newId rawToken =
      some next) :
    Inv sha256Hex next ∧
      ∀ due stage,
        (s.drainers drainer).busy = some (due, stage) →
          due.id ∈ s.doomed →
            ∀ row, next.tokens.find newId = some row →
              ¬ row.IsLive next.now := by
  have hDrainer := hInv.link.drainers drainer
  unfold remint at hStep
  split at hStep
  · rename_i due tokenId token hBusy
    simp only [Option.bind_eq_bind,
      Option.bind_eq_some_iff] at hStep
    rcases hStep with ⟨tokens, hIssue, hStep⟩
    rcases hInv.token.reissue hIssue with
      ⟨hKept, hSingle, hDistinct⟩
    rcases (issueToken_eq_some hIssue).1 with
      ⟨fresh, hFresh, hFreshCase, -, hExpires, -⟩
    rcases hDrainer.checked due tokenId token hBusy with
      ⟨hToken, hSame⟩
    have hDead : due.id ∈ s.doomed →
        ¬ fresh.IsLive s.now := by
      intro hDoomed hLive
      have hTime := hLive.2
      rw [hExpires] at hTime
      exact not_doomed_of_orderly hInv.link hOrderly hBusy
        hTime hDoomed
    have hAdvances : Advances s { s with
        tokens := tokens
        outbox := s.outbox.set due.id (fun row =>
          { row with tokenId := some newId }) } := by
      refine ⟨Int.le_refl _, hKept, ?_, fun _ h => .inl h⟩
      intro id row hFind
      refine ⟨_, Keyed.find_set_eq_some.mpr
        ⟨row, hFind, rfl⟩, ?_⟩
      split <;> rfl
    have hLink : LinkInv { s with
        tokens := tokens
        outbox := s.outbox.set due.id (fun row =>
          { row with tokenId := some newId }) } := by
      refine hInv.link.advance hAdvances ?_
        (fun _ => .inl rfl) ?_
      · intro id row hFind
        rcases Keyed.find_set_eq_some.mp hFind with
          ⟨before, hBefore, hRow⟩
        split at hRow
        · rename_i hId
          intro token' hToken'
          rcases hDrainer.busy due _ hBusy tokenId hToken with
            ⟨outboxRow, tokenRow, hOutbox, hTokenRow, hCase, -⟩
          rw [← hId, hBefore, Option.some.injEq] at hOutbox
          rw [← hOutbox, (hSame tokenRow hTokenRow).caseId]
            at hCase
          rw [hRow, Option.some.injEq] at hToken'
          refine ⟨row, fresh, hFind, ?_, ?_, ?_⟩
          · rw [← hToken']
            exact hFresh
          · rw [hFreshCase, hRow]
            exact hCase
          · intro hDoomed
            rw [hId] at hDoomed
            exact hDead hDoomed
        · rw [hRow]
          exact (hInv.link.outbox id before hBefore).advance
            hAdvances
      · intro id hDoomed
        rcases hInv.link.doomed id hDoomed with ⟨row, hRow⟩
        rcases hAdvances.outbox id row hRow with
          ⟨row', hRow', -⟩
        exact ⟨row', hRow'⟩
    cases hStep
    refine ⟨⟨hInv.token.advance hKept hSingle hDistinct rfl rfl,
      hLink.put ?_⟩, ?_⟩
    · have hNew := hDrainer.advance hAdvances
      exact hNew.stage (hNew.busy due _ hBusy) nofun
    · intro due' stage hDue hDoomed row hRow
      rw [hBusy, Option.some.injEq, Prod.mk.injEq] at hDue
      rw [← hDue.1] at hDoomed
      have hRowIs : fresh = row :=
        Option.some.inj (hFresh.symm.trans hRow)
      rw [← hRowIs]
      exact hDead hDoomed
  · cases hStep

end Delivery

end

--------
-- Runs
--------

namespace Delivery

variable {ω ρ : Type} {sha256Hex : String → String}

theorem inv_start
    (sha256Hex : String → String)
    (now : Int)
    (cases : Keyed Nat LinkCase) :
    Inv sha256Hex (start now cases : Delivery ω ρ) := by
  refine ⟨⟨?_, ?_, ?_, List.nodup_nil, ?_⟩, ⟨?_, ?_, ?_⟩⟩
  · intro id row other otherRow hFind
    cases hFind
  · intro id row other otherRow hFind
    cases hFind
  · intro request rawToken id read hRequest
    cases hRequest
  · intro rawToken hRaw
    cases hRaw
  · intro id row hFind
    cases hFind
  · intro drainer
    exact DrainerInv.rest nofun
  · intro id hDoomed
    cases hDoomed

/- A step that leaves tokens, notifications and drainers. -/
theorem Inv.frame
    {s next : Delivery ω ρ}
    (hInv : Inv sha256Hex s)
    (hTime : s.now ≤ next.now)
    (hTokens : next.tokens = s.tokens)
    (hRequests : next.requests = s.requests)
    (hSessions : next.sessions = s.sessions)
    (hOutbox : next.outbox = s.outbox)
    (hDrainers : next.drainers = s.drainers)
    (hDoomed : next.doomed = s.doomed) :
    Inv sha256Hex next := by
  refine ⟨hInv.token.frame hTokens hRequests hSessions,
    hInv.link.frame ⟨hTime, ?_, ?_, ?_⟩ hOutbox hDrainers
      hDoomed⟩
  · rw [hTokens]
    exact kept_refl s.tokens
  · intro id row hFind
    exact ⟨row, by rw [hOutbox, hFind], rfl⟩
  · intro id hId
    rw [hDoomed] at hId
    exact .inl hId

variable [DecidableEq ω] [DecidableEq ρ]
  {s next : Delivery ω ρ} {a : DeliveryAction ω ρ}

/- Every orderly step keeps the invariant. -/
theorem step_inv
    (hInv : Inv sha256Hex s)
    (hOrderly : Orderly s a)
    (hStep : s.step sha256Hex a = some next) :
    Inv sha256Hex next := by
  cases a with
  | wait seconds =>
      cases hStep
      refine hInv.frame ?_ rfl rfl rfl rfl rfl rfl
      exact Int.le_add_of_nonneg_right (Int.natCast_nonneg _)
  | transition caseId expectedFrom toStatus =>
      simp only [step, moveCase, Option.bind_eq_bind,
        Option.bind_eq_some_iff] at hStep
      rcases hStep with ⟨found, -, status, -, hStep⟩
      cases hStep
      exact hInv.frame (Int.le_refl _) rfl rfl rfl rfl rfl rfl
  | createLink caseId request tokenId rawToken outboxId =>
      exact createLink_inv hInv hStep
  | revokeLink caseId => exact revokeLink_inv hInv hStep
  | resolveToken request rawToken =>
      cases hStep
      exact resolveToken_inv hInv
  | exchange request rawSession => exact exchange_inv hInv hStep
  | dueRows drainer batchSize => exact dueRows_inv hInv hStep
  | claim drainer => exact claim_inv hInv hStep
  | check drainer suppressed => exact check_inv hInv hStep
  | remint drainer newId rawToken =>
      exact (remint_inv hInv hOrderly hStep).1
  | remintFails drainer => exact remintFails_inv hInv hStep
  | send drainer delivered => exact send_inv hInv hStep
  | finish drainer => exact finish_inv hInv hStep
  | crash drainer =>
      cases hStep
      exact crash_inv hInv

/-
  In a run whose re-mints are orderly every step is safe: one
  open token for a case, one session for a raw token, and no
  live token for a notification after a revocation met it.
-/
theorem tokenSafe_of_orderly
    (sha256Hex : String → String)
    (now : Int)
    (cases : Keyed Nat LinkCase)
    (actions : List (DeliveryAction ω ρ))
    (hOrderly :
      Machine.Meets (step sha256Hex) Orderly
        (start now cases : Delivery ω ρ) actions) :
    Machine.Meets (step sha256Hex) (TokenSafe sha256Hex)
      (start now cases : Delivery ω ρ) actions := by
  apply Machine.Meets.of_invariant ?_ ?_
    (inv_start sha256Hex now cases) hOrderly
  · intro s a next hInv hOrderly hStep
    exact step_inv hInv hOrderly hStep
  · intro s a hInv hOrderly next hStep
    have hNext := step_inv hInv hOrderly hStep
    refine ⟨hNext.token.single, hNext.token.nodup, ?_⟩
    intro drainer newId rawToken due stage hAction
    subst hAction
    exact (remint_inv hInv hOrderly hStep).2 due stage

/- One case whose supplier is to be asked. -/
def sampleCases : Keyed Nat LinkCase :=
  Keyed.empty.add 1
    ⟨.supplierActionRequired, ["kdes.quantity"]⟩

def sampleLink : LinkRequest :=
  ⟨none, some "supplier@example.com", 72⟩

/- A drainer that is about to re-mint the link of a row. -/
def checkedRun : List (DeliveryAction Unit Unit) :=
  [.createLink 1 sampleLink 10 "first" 100,
    .dueRows () 50, .claim (), .check () false]

/-
  The link is re-minted and sent, and the supplier uses it
  before the buyer revokes.
-/
def deliveredRun : List (DeliveryAction Unit Unit) :=
  checkedRun ++
    [.remint () 11 "second", .send () true, .finish (),
      .resolveToken () "second", .exchange () "session",
      .revokeLink 1, .resolveToken () "second"]

theorem tokenSafe_deliveredRun :
    (Machine.run (step id)
        (start 0 sampleCases : Delivery Unit Unit)
        deliveredRun).isSome = true ∧
      Machine.Meets (step id) (TokenSafe id)
        (start 0 sampleCases : Delivery Unit Unit)
        deliveredRun :=
  ⟨by decide,
    tokenSafe_of_orderly id 0 sampleCases deliveredRun
      (by decide)⟩

/-
  The buyer revokes between the check and the re-mint, which
  makes a live token all the same.
-/
theorem not_tokenSafe_of_revoked :
    ¬ ∀ (ω ρ : Type) [DecidableEq ω] [DecidableEq ρ]
        (sha256Hex : String → String)
        (now : Int)
        (cases : Keyed Nat LinkCase)
        (actions : List (DeliveryAction ω ρ)),
      Machine.Meets (step sha256Hex) (TokenSafe sha256Hex)
        (start now cases : Delivery ω ρ) actions := by
  intro hSafe
  have hLast := hSafe Unit Unit id 0 sampleCases
    ((checkedRun ++ [.revokeLink 1]) ++
      [.remint () 11 "second"])
  have hRows :
      ((Machine.run (step id)
        (start 0 sampleCases : Delivery Unit Unit)
        (checkedRun ++ [.revokeLink 1])).bind (fun mid =>
          (step id mid (.remint () 11 "second")).bind
            (fun next => (next.tokens.find 11).map (fun row =>
              ((mid.drainers ()).busy.map (fun busy =>
                  busy.1.id),
                mid.doomed, row.revokedAt,
                decide (next.now < row.expiresAt)))))) =
        some (some 100, [100], none, true) := by
    decide
  rcases Option.bind_eq_some_iff.mp hRows with
    ⟨mid, hMid, hRows⟩
  rcases Option.bind_eq_some_iff.mp hRows with
    ⟨next, hNext, hRows⟩
  rcases Option.map_eq_some_iff.mp hRows with
    ⟨row, hRow, hSeen⟩
  rw [Prod.mk.injEq, Prod.mk.injEq, Prod.mk.injEq] at hSeen
  rcases hSeen with ⟨hBusy, hDoomed, hOpen, hTime⟩
  rcases Option.map_eq_some_iff.mp hBusy with
    ⟨busy, hBusy, hId⟩
  apply (hLast.last hMid next hNext).2.2 () 11 "second" busy.1
    busy.2 rfl hBusy ?_ row hRow
  · exact ⟨hOpen, of_decide_eq_true hTime⟩
  · rw [hId, hDoomed]
    exact List.mem_singleton_self 100

end Delivery

end Remediation

end RegEngine
