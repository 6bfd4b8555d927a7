import RegEngine.Ingestion.Webhook.Stored

/-
  The response of the webhook against what it commits: one
  result for each event, counts that add up, accepted events
  that are stored, and their ids billed and published. The
  books are kept by every path but two: a batch attempt that
  fails after an id was handed to the graph sync, and an event
  of the fallback whose hooks raise after its savepoint is
  released.

  Main declarations:
    * `Webhook.Accounts`
    * `Webhook.isTidy`
    * `Webhook.ingestEvents_accounts_iff`
-/

--------
-- What The Response Should Say
--------

namespace RegEngine

namespace Webhook

section

/- The ids of the results that say accepted. -/
def acceptedIds (results : List EventResult) : List Uuid :=
  results.filterMap (fun result =>
    match result.status with
    | .accepted => result.eventId
    | .rejected => none)

/-
  A result answers an event. When it says accepted, the event
  is stored under the id of the result.
-/
def Answers
    (request : Request)
    (db : Db)
    (event : IngestEvent)
    (result : EventResult) : Prop :=
  result.traceabilityLotCode = event.traceabilityLotCode ∧
    result.cteType = event.cteType.value ∧
    match result.status with
    | .accepted =>
        ∃ eventId, result.eventId = some eventId ∧
          StoredUnder request db event eventId
    | .rejected => result.eventId = none

/-
  The response accounts for the events. There is one result
  for each event, in some order, and the counts add up. An
  accepted event is stored: its row was there before, or is
  new and not rejected; and every new row is that of an
  accepted event. The ids billed and published are the
  accepted ones.
-/
structure Accounts
    (request : Request)
    (events : List IngestEvent)
    (before : Db)
    (response : IngestResponse)
    (session : Session) : Prop where
  answers : ∃ order, order.Perm events ∧
    List.Forall₂ (Answers request session.db) order
      response.events
  total : response.total = events.length
  accepted :
    response.accepted = (acceptedIds response.events).length
  sum : response.accepted + response.rejected = response.total
  rows : ∃ added,
    session.db.cteEvents = before.cteEvents ++ added ∧
      ∀ row ∈ added, row.validationStatus ≠ .rejected ∧
        row.id ∈ acceptedIds response.events
  billed :
    session.billableEventIds = acceptedIds response.events
  published :
    session.published = acceptedIds response.events

--------
-- The Books Of A Session
--------

open CtePersistence (StoreResult)

/-
  The books of a session that has answered some events. `out`
  are the ids that an attempt since rolled back has published.
-/
structure Books
    (request : Request)
    (before : Db)
    (out : List Uuid)
    (answered : List IngestEvent)
    (session : Session) : Prop where
  answers : List.Forall₂ (Answers request session.db) answered
    session.results
  accepted :
    session.accepted = (acceptedIds session.results).length
  sum : session.accepted + session.rejected =
    session.results.length
  rows : ∃ added,
    session.db.cteEvents = before.cteEvents ++ added ∧
      ∀ row ∈ added, row.validationStatus ≠ .rejected ∧
        row.id ∈ acceptedIds session.results
  billed :
    session.billableEventIds = acceptedIds session.results
  published :
    session.published = out ++ acceptedIds session.results

variable {request : Request} {before : Db} {out : List Uuid}
  {answered events : List IngestEvent} {session : Session}
  {event : IngestEvent}

theorem acceptedIds_append
    (first second : List EventResult) :
    acceptedIds (first ++ second) =
      acceptedIds first ++ acceptedIds second := by
  simp [acceptedIds]

/- Stored events stay stored when rows are added. -/
theorem Answers.mono
    {db db' : Db}
    {result : EventResult}
    (hRows : db.cteEvents ⊆ db'.cteEvents)
    (hAnswers : Answers request db event result) :
    Answers request db' event result := by
  rcases hAnswers with ⟨hLot, hType, hStatus⟩
  refine ⟨hLot, hType, ?_⟩
  split
  · rename_i hAccepted
    rw [hAccepted] at hStatus
    rcases hStatus with ⟨eventId, hId, row, hRow, hRest⟩
    exact ⟨eventId, hId, row, hRows hRow, hRest⟩
  · rename_i hRejected
    rw [hRejected] at hStatus
    exact hStatus

theorem books_start
    (db : Db) :
    Books request db [] [] (Session.start db) :=
  ⟨List.Forall₂.nil, rfl, rfl, ⟨[], by simp [Session.start],
    by simp⟩, rfl, rfl⟩

/- A rejected event is one more result. -/
theorem Books.reject
    (errors : List String)
    (hBooks : Books request before out answered session) :
    Books request before out (answered ++ [event])
      (session.reject event errors) := by
  have hIds :
      acceptedIds (session.reject event errors).results =
        acceptedIds session.results := by
    simp [Session.reject, acceptedIds]
  refine ⟨?_, ?_, ?_, ?_, ?_, ?_⟩
  · refine List.rel_append hBooks.answers
      (List.Forall₂.cons ?_ List.Forall₂.nil)
    exact ⟨rfl, rfl, rfl⟩
  · rw [hIds]
    exact hBooks.accepted
  · have hSum := hBooks.sum
    simp only [Session.reject, List.length_append,
      List.length_singleton]
    omega
  · rw [hIds]
    exact hBooks.rows
  · rw [hIds]
    exact hBooks.billed
  · rw [hIds]
    exact hBooks.published

/- An event that is stored, accepted and published. -/
theorem Books.accept
    {stored : StoreResult × Db}
    (hBooks : Books request before out answered session)
    (hStores : Stores request session.db stored.2 [event]
      [stored.1]) :
    Books request before out (answered ++ [event])
      ((session.accept event stored.1).publish
        stored.1.eventId stored.2) := by
  rcases hStores.rows with ⟨added, hAdded, hNew⟩
  rcases hBooks.rows with ⟨earlier, hEarlier, hOld⟩
  have hIds :
      acceptedIds ((session.accept event stored.1).publish
          stored.1.eventId stored.2).results =
        acceptedIds session.results ++ [stored.1.eventId] := by
    simp [Session.accept, Session.publish, acceptedIds]
  have hKept : session.db.cteEvents ⊆ stored.2.cteEvents := by
    rw [hAdded]
    exact List.subset_append_left _ _
  refine ⟨?_, ?_, ?_, ?_, ?_, ?_⟩
  · refine List.rel_append
      (hBooks.answers.imp (fun _ _ h => h.mono hKept))
      (List.Forall₂.cons ⟨rfl, rfl, stored.1.eventId, rfl, ?_⟩
        List.Forall₂.nil)
    exact (List.forall₂_cons.mp hStores.names).1
  · rw [hIds, List.length_append, List.length_singleton,
      ← hBooks.accepted]
    rfl
  · have hSum := hBooks.sum
    simp only [Session.accept, Session.publish,
      List.length_append, List.length_singleton]
    omega
  · refine ⟨earlier ++ added, ?_, ?_⟩
    · rw [← List.append_assoc, ← hEarlier]
      exact hAdded
    · intro row hRow
      rw [hIds]
      rcases List.mem_append.mp hRow with hBefore | hHere
      · exact ⟨(hOld row hBefore).1,
          List.mem_append_left _ (hOld row hBefore).2⟩
      · rcases hNew row hHere with
          ⟨hStatus, result, hResult, hId⟩
        rw [List.mem_singleton.mp hResult] at hId
        exact ⟨hStatus, List.mem_append_right _ (by
          rw [hId]
          exact List.mem_singleton_self _)⟩
  · rw [hIds, ← hBooks.billed]
    rfl
  · rw [hIds, ← List.append_assoc, ← hBooks.published]
    rfl

end

--------
-- The Checks
--------

section

variable {request : Request} {before : Db} {out : List Uuid}
  {answered events : List IngestEvent} {session : Session}

/-
  The books after a phase that answers some of the events and
  leaves the others, with nothing published.
-/
def Sifts
    (request : Request)
    (before : Db)
    (answered events : List IngestEvent)
    (session : Session)
    (left : List IngestEvent) : Prop :=
  ∃ refused, (refused ++ left).Perm events ∧
    Books request before [] (answered ++ refused) session ∧
      session.published = []

variable {left : List IngestEvent}

theorem Sifts.refuse
    {event : IngestEvent}
    (hSifts :
      Sifts request before (answered ++ [event]) events session
        left) :
    Sifts request before answered (event :: events) session
      left := by
  rcases hSifts with ⟨refused, hPerm, hBooks, hNone⟩
  refine ⟨event :: refused, hPerm.cons event, ?_, hNone⟩
  rwa [List.append_assoc, List.singleton_append] at hBooks

theorem Sifts.keep
    {event : IngestEvent}
    (hSifts :
      Sifts request before answered events session left) :
    Sifts request before answered (event :: events) session
      (event :: left) := by
  rcases hSifts with ⟨refused, hPerm, hBooks⟩
  exact ⟨refused, List.perm_middle.trans (hPerm.cons event),
    hBooks⟩

theorem screen_sifts
    (seen : List String)
    (events : List IngestEvent)
    (hBooks : Books request before [] answered session)
    (hNone : session.published = []) :
    Sifts request before answered events
      (screen request seen session events).1
      (screen request seen session events).2 := by
  induction events generalizing seen answered session with
  | nil =>
      exact ⟨[], List.Perm.refl _, by
        rwa [List.append_nil], hNone⟩
  | cons event rest ih =>
      rw [screen]
      split
      · rename_i errors _
        exact (ih _ (hBooks.reject errors) hNone).refuse
      · exact (ih _ hBooks hNone).keep

theorem enforce_sifts
    {kept : Session × List IngestEvent}
    (hBooks : Books request before [] answered session)
    (hNone : session.published = [])
    (hEnforce : enforce request session events = .ok kept) :
    Sifts request before answered events kept.1 kept.2 := by
  induction events generalizing answered session kept with
  | nil =>
      cases hEnforce
      exact ⟨[], List.Perm.refl _, by
        rwa [List.append_nil], hNone⟩
  | cons event rest ih =>
      rw [enforce] at hEnforce
      rcases Outcome.bind_eq_ok.mp hEnforce with
        ⟨verdict, -, hEnforce⟩
      cases verdict with
      | some reason =>
          exact (ih (hBooks.reject _) hNone hEnforce).refuse
      | none =>
          rcases Outcome.bind_eq_ok.mp hEnforce with
            ⟨later, hLater, hEnforce⟩
          cases Outcome.pure_eq_ok.mp hEnforce
          exact (ih hBooks hNone hLater).keep

end

--------
-- The Batch Attempt
--------

section

open CtePersistence (StoreResult CtePayload)

variable {request : Request} {before : Db} {out : List Uuid}
  {answered events : List IngestEvent} {session : Session}
  {pairs : List (StoreResult × IngestEvent)}

/- The result of an event that is stored. -/
def acceptedResult (pair : StoreResult × IngestEvent) :
    EventResult :=
  ⟨pair.2.traceabilityLotCode, pair.2.cteType.value, .accepted,
    some pair.1.eventId, some pair.1.sha256Hash,
    some pair.1.chainHash, []⟩

/- A session after some events were stored and accepted. -/
structure Extends
    (pairs : List (StoreResult × IngestEvent))
    (session after : Session) : Prop where
  results : after.results =
    session.results ++ pairs.map acceptedResult
  accepted : after.accepted = session.accepted + pairs.length
  rejected : after.rejected = session.rejected
  billed : after.billableEventIds =
    session.billableEventIds ++ pairs.map (·.1.eventId)
  published : after.published =
    session.published ++ pairs.map (·.1.eventId)
  rows : after.db.cteEvents = session.db.cteEvents

variable {after : Session}

/- A batch attempt that raises nothing accepts every event. -/
theorem batchLoop_extends
    (hLoop : batchLoop request session pairs = (after, none)) :
    Extends pairs session after := by
  induction pairs generalizing session with
  | nil =>
      cases hLoop
      exact ⟨by simp, rfl, rfl, by simp, by simp, rfl⟩
  | cons pair rest ih =>
      rcases pair with ⟨result, event⟩
      simp only [batchLoop] at hLoop
      cases hRequire : require request .batch event
          result.eventId session.db with
      | error raised => simp [hRequire] at hLoop
      | ok db =>
          cases hAfter : afterStore request .batch event with
          | some raised => simp [hRequire, hAfter] at hLoop
          | none =>
              simp only [hRequire, hAfter] at hLoop
              have hRest := ih hLoop
              have hSame : db.cteEvents = session.db.cteEvents :=
                congrArg Prod.fst (require_beside hRequire)
              refine ⟨?_, ?_, hRest.rejected, ?_, ?_,
                hRest.rows.trans hSame⟩
              · rw [hRest.results]
                simp [Session.accept, Session.publish,
                  acceptedResult]
              · rw [hRest.accepted, List.length_cons]
                simp only [Session.accept, Session.publish]
                omega
              · rw [hRest.billed]
                simp [Session.accept, Session.publish]
              · rw [hRest.published]
                simp [Session.accept, Session.publish]

/- The results of stored events answer them. -/
theorem answers_acceptedResult
    {db : Db}
    {results : List StoreResult}
    (hNames : List.Forall₂
      (fun event result =>
        StoredUnder request db event result.eventId)
      events results) :
    List.Forall₂ (Answers request db) events
      ((results.zip events).map acceptedResult) := by
  induction hNames with
  | nil => exact List.Forall₂.nil
  | cons hStored _ ih =>
      exact List.Forall₂.cons
        ⟨rfl, rfl, _, rfl, hStored⟩ ih

theorem acceptedIds_acceptedResult
    (pairs : List (StoreResult × IngestEvent)) :
    acceptedIds (pairs.map acceptedResult) =
      pairs.map (·.1.eventId) := by
  simp [acceptedIds, acceptedResult, List.filterMap_map,
    Function.comp_def]

variable {dicts : List (Uuid × CtePayload)}

/- The batch attempt that succeeds keeps the books. -/
theorem batchAttempt_books
    (hBooks : Books request before [] answered session)
    (hDicts : batchDicts request events = .ok dicts)
    (hTried : batchAttempt request session dicts events =
      (after, none)) :
    Books request before [] (answered ++ events) after := by
  rw [batchAttempt] at hTried
  cases hStore : storeBatch request dicts session.db with
  | error raised => simp [hStore] at hTried
  | ok stored =>
      simp only [hStore] at hTried
      have hStores := storeBatch_stores hDicts hStore
      have hLoop := batchLoop_extends hTried
      have hLength := hStores.names.length_eq
      have hIds :
          acceptedIds after.results =
            acceptedIds session.results ++
              (stored.1.zip events).map (·.1.eventId) := by
        rw [hLoop.results, acceptedIds_append,
          acceptedIds_acceptedResult]
      have hZip :
          (stored.1.zip events).map (·.1.eventId) =
            stored.1.map StoreResult.eventId := by
        have hFirst :
            (stored.1.zip events).map Prod.fst = stored.1 :=
          List.map_fst_zip (by omega)
        calc
          _ = ((stored.1.zip events).map Prod.fst).map
                StoreResult.eventId := by
            rw [List.map_map]
            rfl
          _ = stored.1.map StoreResult.eventId := by
            rw [hFirst]
      rcases hStores.rows with ⟨added, hAdded, hNew⟩
      rcases hBooks.rows with ⟨earlier, hEarlier, hOld⟩
      have hRows : after.db.cteEvents = stored.2.cteEvents :=
        hLoop.rows
      have hKept :
          session.db.cteEvents ⊆ after.db.cteEvents := by
        rw [hRows, hAdded]
        exact List.subset_append_left _ _
      refine ⟨?_, ?_, ?_, ?_, ?_, ?_⟩
      · rw [hLoop.results]
        refine List.rel_append
          (hBooks.answers.imp (fun _ _ h => h.mono hKept)) ?_
        refine (answers_acceptedResult hStores.names).imp ?_
        intro event result hAnswers
        apply hAnswers.mono
        rw [hRows]
        exact List.Subset.refl _
      · rw [hIds, hLoop.accepted, List.length_append,
          List.length_map, hBooks.accepted]
      · have hSum := hBooks.sum
        rw [hLoop.results, hLoop.accepted, hLoop.rejected,
          List.length_append, List.length_map]
        change session.accepted + _ + session.rejected =
          session.results.length + _
        omega
      · refine ⟨earlier ++ added, ?_, ?_⟩
        · rw [hRows, hAdded, hEarlier, List.append_assoc]
        · intro row hRow
          rw [hIds, hZip]
          rcases List.mem_append.mp hRow with hBefore | hHere
          · exact ⟨(hOld row hBefore).1,
              List.mem_append_left _ (hOld row hBefore).2⟩
          · rcases hNew row hHere with
              ⟨hStatus, result, hResult, hId⟩
            exact ⟨hStatus, List.mem_append_right _
              (List.mem_map.mpr ⟨result, hResult, hId⟩)⟩
      · rw [hIds, hLoop.billed, hBooks.billed]
      · rw [hIds, hLoop.published, hBooks.published]
        rfl

/-
  The batch attempt fails before it hands an id to the graph
  sync: the store fails, or the first event does before its
  hooks.
-/
def failsEarly
    (request : Request)
    (db : Db)
    (dicts : List (Uuid × CtePayload))
    (events : List IngestEvent) : Bool :=
  match storeBatch request dicts db with
  | .error _ => true
  | .ok stored =>
      match stored.1.zip events with
      | [] => true
      | (result, event) :: _ =>
          match require request .batch event result.eventId
              stored.2 with
          | .error _ => true
          | .ok _ => false

/- The ids handed to the graph sync only grow. -/
theorem published_prefix_batchLoop
    (request : Request)
    (session : Session)
    (pairs : List (StoreResult × IngestEvent)) :
    session.published <+:
      (batchLoop request session pairs).1.published := by
  induction pairs generalizing session with
  | nil => exact List.prefix_rfl
  | cons pair rest ih =>
      rcases pair with ⟨result, event⟩
      have hMore :
          session.published <+:
            session.published ++ [result.eventId] :=
        List.prefix_append _ _
      simp only [batchLoop]
      cases require request .batch event result.eventId
          session.db with
      | error raised => exact List.prefix_rfl
      | ok db =>
          cases afterStore request .batch event with
          | some raised => exact hMore
          | none =>
              exact hMore.trans (ih
                ((session.accept event result).publish
                  result.eventId db))

theorem published_prefix
    {tried : Session × Option Raised}
    (hLoop : batchLoop request session pairs = tried) :
    session.published <+: tried.1.published := by
  rw [← hLoop]
  exact published_prefix_batchLoop request session pairs

/- An attempt publishes nothing just when it fails early. -/
theorem published_batchAttempt
    {raised : Raised}
    (hTried : batchAttempt request session dicts events =
      (after, some raised)) :
    after.published = session.published ↔
      failsEarly request session.db dicts events = true := by
  rw [batchAttempt] at hTried
  rw [failsEarly]
  cases hStore : storeBatch request dicts session.db with
  | error fault =>
      simp only [hStore, Prod.mk.injEq] at hTried
      simp [← hTried.1]
  | ok stored =>
      simp only [hStore] at hTried ⊢
      cases hPairs : stored.1.zip events with
      | nil => simp [hPairs, batchLoop] at hTried
      | cons pair rest =>
          rcases pair with ⟨result, event⟩
          rw [hPairs] at hTried
          simp only [batchLoop] at hTried
          cases hRequire : require request .batch event
              result.eventId stored.2 with
          | error fault =>
              simp only [hRequire, Prod.mk.injEq] at hTried
              simp [← hTried.1, Session.accept, hRequire]
          | ok db =>
              simp only [hRequire] at hTried
              have hLonger :
                  session.published ++ [result.eventId] <+:
                    after.published := by
                split at hTried
                · rw [← (Prod.mk.inj hTried).1]
                  exact List.prefix_rfl
                · exact published_prefix hTried
              refine iff_of_false ?_ (by simp [hRequire])
              intro hSame
              have hLength := hLonger.length_le
              rw [hSame, List.length_append] at hLength
              simp at hLength

end

--------
-- The Fallback
--------

section

open CtePersistence (StoreResult)

variable {request : Request} {before : Db} {out : List Uuid}
  {answered events : List IngestEvent}
  {session after : Session} {event : IngestEvent}

/-
  The savepoint of an event is released, and then a hook
  raises what the handler takes for a failed store.
-/
def raisesLate
    (request : Request)
    (session : Session)
    (event : IngestEvent) : Bool :=
  match request.outside.preeval .fallback event,
      request.outside.savepointFault event,
      storeOne request event session.db,
      afterStore request .fallback event with
  | .ok none, none, .ok _, some raised =>
      decide (raised ∈ eventHandler)
  | _, _, _, _ => false

/- Some event of the fallback raises late. -/
def anyLate (request : Request) :
    Session → List IngestEvent → Bool
| _, [] => false
| session, event :: rest =>
    raisesLate request session event ||
      match fallbackEvent request session event with
      | .ok next => anyLate request next rest
      | .error _ => false

/- A session in which an event is stored and published. -/
def storedSession
    (session : Session)
    (event : IngestEvent)
    (stored : StoreResult × Db) : Session :=
  (session.accept event stored.1).publish stored.1.eventId
    stored.2

theorem fallbackEvent_cases
    (hEvent : fallbackEvent request session event = .ok after) :
    (raisesLate request session event = false ∧
        ∃ errors, after = session.reject event errors) ∨
      ∃ stored, storeOne request event session.db =
          .ok stored ∧
        ((raisesLate request session event = false ∧
            after = storedSession session event stored) ∨
          (raisesLate request session event = true ∧
            ∃ errors, after =
              (storedSession session event stored).reject event
                errors)) := by
  rcases Outcome.bind_eq_ok.mp hEvent with
    ⟨verdict, hVerdict, hEvent⟩
  cases verdict with
  | some reason =>
      left
      cases Outcome.pure_eq_ok.mp hEvent
      exact ⟨by simp [raisesLate, hVerdict], _, rfl⟩
  | none =>
      rcases Outcome.bind_eq_ok.mp hEvent with
        ⟨_, hSavepoint, hEvent⟩
      have hOpen := failing_eq_ok.mp hSavepoint
      cases hStore : storeOne request event session.db with
      | error raised =>
          left
          simp only [hStore] at hEvent
          split at hEvent
          · cases Outcome.pure_eq_ok.mp hEvent
            exact ⟨by simp [raisesLate, hStore], _, rfl⟩
          · cases hEvent
      | ok stored =>
          right
          refine ⟨stored, rfl, ?_⟩
          simp only [hStore] at hEvent
          cases hAfter : afterStore request .fallback event with
          | none =>
              left
              simp only [hAfter] at hEvent
              cases Outcome.pure_eq_ok.mp hEvent
              exact ⟨by simp [raisesLate, hAfter], rfl⟩
          | some raised =>
              right
              simp only [hAfter] at hEvent
              split at hEvent
              · rename_i hHandled
                cases Outcome.pure_eq_ok.mp hEvent
                exact ⟨by simp [raisesLate, hVerdict, hOpen,
                  hStore, hAfter, hHandled], _, rfl⟩
              · cases hEvent

/- An event that does not raise late keeps the books. -/
theorem fallbackEvent_books
    (hBooks : Books request before out answered session)
    (hEvent : fallbackEvent request session event = .ok after)
    (hLate : raisesLate request session event = false) :
    Books request before out (answered ++ [event]) after := by
  rcases fallbackEvent_cases hEvent with
    ⟨_, errors, hReject⟩ | ⟨stored, hStore, hStored | hLater⟩
  · rw [hReject]
    exact hBooks.reject errors
  · rw [hStored.2]
    exact hBooks.accept (storeOne_stores hStore)
  · rw [hLate] at hLater
    exact absurd hLater.1 Bool.false_ne_true

/- Every event is counted, and one that raises late twice. -/
theorem fallbackEvent_count
    (hEvent : fallbackEvent request session event = .ok after) :
    after.accepted + after.rejected =
      session.accepted + session.rejected + 1 +
        (raisesLate request session event).toNat := by
  rcases fallbackEvent_cases hEvent with
    ⟨hLate, errors, hReject⟩ |
      ⟨stored, hStore, ⟨hLate, hStored⟩ |
        ⟨hLate, errors, hStored⟩⟩
  · rw [hReject, hLate]
    simp only [Session.reject, Bool.toNat_false]
    omega
  · rw [hStored, hLate]
    simp only [storedSession, Session.accept, Session.publish,
      Bool.toNat_false]
    omega
  · rw [hStored, hLate]
    simp only [storedSession, Session.accept, Session.publish,
      Session.reject, Bool.toNat_true]
    omega

/- The fallback keeps the books when no event raises late. -/
theorem fallback_books
    (hBooks : Books request before out answered session)
    (hFallback : fallback request session events = .ok after)
    (hLate : anyLate request session events = false) :
    Books request before out (answered ++ events) after := by
  induction events generalizing answered session with
  | nil =>
      cases Outcome.pure_eq_ok.mp hFallback
      rwa [List.append_nil]
  | cons event rest ih =>
      rcases Outcome.foldlM_cons_eq_ok.mp hFallback with
        ⟨next, hNext, hRest⟩
      rw [anyLate, hNext, Bool.or_eq_false_iff] at hLate
      have hStep := fallbackEvent_books hBooks hNext hLate.1
      have hAll := ih hStep hRest hLate.2
      rwa [List.append_assoc, List.singleton_append] at hAll

/- The fallback counts too many when an event raises late. -/
theorem fallback_count
    (hFallback : fallback request session events = .ok after) :
    session.accepted + session.rejected + events.length +
        (anyLate request session events).toNat ≤
      after.accepted + after.rejected := by
  induction events generalizing session with
  | nil =>
      cases Outcome.pure_eq_ok.mp hFallback
      exact le_refl _
  | cons event rest ih =>
      rcases Outcome.foldlM_cons_eq_ok.mp hFallback with
        ⟨next, hNext, hRest⟩
      have hCount := fallbackEvent_count hNext
      have hTail := ih hRest
      have hLate :
          (anyLate request session (event :: rest)).toNat ≤
            (raisesLate request session event).toNat +
              (anyLate request next rest).toNat := by
        rw [anyLate, hNext]
        cases raisesLate request session event <;>
          cases hRestLate : anyLate request next rest <;>
          simp [hRestLate]
      rw [List.length_cons]
      omega

end

--------
-- The Whole Request
--------

section

open CtePersistence (StoreResult CtePayload)

variable {request : Request} {before : Db} {out : List Uuid}
  {answered events order : List IngestEvent}
  {session after : Session} {response : IngestResponse}

/-
  The events that are left are stored tidily: at once; or one
  by one, after a batch attempt that failed early, with no
  event that raises late.
-/
def storesTidily
    (request : Request)
    (session : Session)
    (events : List IngestEvent) : Bool :=
  match batchDicts request events with
  | .error _ => true
  | .ok dicts =>
      match (batchAttempt request session dicts events).2 with
      | none => true
      | some _ =>
          failsEarly request session.db dicts events &&
            !anyLate request session events

/- The events that pass the checks are stored tidily. -/
def isTidy
    (request : Request)
    (events : List IngestEvent)
    (db : Db) : Bool :=
  let screened := screen request [] (.start db) events
  match enforce request screened.1 screened.2 with
  | .error _ => true
  | .ok kept => storesTidily request kept.1 kept.2

/- Sound books make a response that accounts for its events. -/
theorem Books.accounts
    (hBooks : Books request before [] order session)
    (hPerm : order.Perm events) :
    Accounts request events before
      ⟨session.accepted, session.rejected, events.length,
        session.results⟩ session := by
  refine ⟨⟨order, hPerm, hBooks.answers⟩, rfl,
    hBooks.accepted, ?_, hBooks.rows, hBooks.billed,
    hBooks.published⟩
  have hLength := hBooks.answers.length_eq
  have hEvents := hPerm.length_eq
  have hSum := hBooks.sum
  change session.accepted + session.rejected = events.length
  omega

/- No events are always stored tidily. -/
theorem storesTidily_nil :
    storesTidily request session [] = true := by
  have hDicts : batchDicts request [] = .ok [] := rfl
  rw [storesTidily, hDicts]
  simp only [failsEarly, List.zip_nil_right, anyLate]
  split
  · rfl
  · split <;> rfl

/- A count that is too high accounts for nothing. -/
theorem not_accounts_of_count
    (hCount : events.length < after.accepted + after.rejected) :
    ¬ Accounts request events before
      ⟨after.accepted, after.rejected, events.length,
        after.results⟩ after := by
  intro hAccounts
  have hSum := hAccounts.sum
  change after.accepted + after.rejected = events.length at hSum
  omega

variable {left : List IngestEvent}

/- The fallback, after ids that are out already. -/
theorem fallback_accounts_iff
    (hBooks : Books request before out answered session)
    (hPerm : (answered ++ left).Perm events)
    (hFallback : fallback request session left = .ok after) :
    Accounts request events before
        ⟨after.accepted, after.rejected, events.length,
          after.results⟩ after ↔
      out = [] ∧ anyLate request session left = false := by
  have hLength := hPerm.length_eq
  have hAnswered := hBooks.answers.length_eq
  have hSum := hBooks.sum
  rw [List.length_append] at hLength
  cases hLate : anyLate request session left with
  | true =>
      have hCount := fallback_count hFallback
      rw [hLate, Bool.toNat_true] at hCount
      refine iff_of_false (not_accounts_of_count ?_) (by simp)
      omega
  | false =>
      have hAfter := fallback_books hBooks hFallback hLate
      rw [and_iff_left rfl]
      constructor
      · intro hAccounts
        have hPublished := hAccounts.published
        rw [hAfter.published] at hPublished
        exact List.append_left_eq_self.mp hPublished
      · intro hNone
        rw [hNone] at hAfter
        exact hAfter.accounts hPerm

theorem persistValid_accounts_iff
    (hBooks : Books request before [] answered session)
    (hNone : session.published = [])
    (hPerm : (answered ++ left).Perm events)
    (hPersist : persistValid request session left = .ok after) :
    Accounts request events before
        ⟨after.accepted, after.rejected, events.length,
          after.results⟩ after ↔
      storesTidily request session left = true := by
  rw [persistValid] at hPersist
  split at hPersist
  · rename_i hEmpty
    cases hPersist
    have hNil : left = [] := List.isEmpty_iff.mp hEmpty
    rw [hNil, List.append_nil] at hPerm
    rw [hNil, storesTidily_nil]
    exact iff_of_true (hBooks.accounts hPerm) rfl
  · rcases Outcome.bind_eq_ok.mp hPersist with
      ⟨dicts, hDicts, hPersist⟩
    rw [storesTidily, hDicts]
    rcases hTried : batchAttempt request session dicts left with
      ⟨tried, fault⟩
    simp only [hTried] at hPersist ⊢
    cases fault with
    | none =>
        cases Outcome.pure_eq_ok.mp hPersist
        exact iff_of_true
          ((batchAttempt_books hBooks hDicts hTried).accounts
            hPerm) rfl
    | some raised =>
        simp only at hPersist ⊢
        split at hPersist
        · have hEarly := published_batchAttempt hTried
          rw [hNone] at hEarly
          have hIds := hBooks.published
          rw [hNone, List.nil_append] at hIds
          have hStart :
              Books request before tried.published answered
                { session with published := tried.published } :=
            ⟨hBooks.answers, hBooks.accepted, hBooks.sum,
              hBooks.rows, hBooks.billed, by simp [← hIds]⟩
          rw [fallback_accounts_iff hStart hPerm hPersist, hEarly,
            Bool.and_eq_true, Bool.not_eq_true']
          apply and_congr_right
          intro hFirst
          rw [hEarly.mpr hFirst, ← hNone]
        · cases hPersist

/-
  The response of the webhook accounts for its events just
  when they are stored tidily.
-/
theorem ingestEvents_accounts_iff
    {db : Db}
    (hRun : ingestEvents request events db =
      .ok (response, session)) :
    Accounts request events db response session ↔
      isTidy request events db = true := by
  simp only [ingestEvents] at hRun
  rcases Outcome.bind_eq_ok.mp hRun with ⟨kept, hKept, hRun⟩
  rcases Outcome.bind_eq_ok.mp hRun with ⟨done, hDone, hRun⟩
  have hResponse :
      (⟨done.accepted, done.rejected, events.length,
        done.results⟩, done) = (response, session) := by
    split at hRun
    · rcases Outcome.bind_eq_ok.mp hRun with ⟨_, -, hRun⟩
      rcases Outcome.bind_eq_ok.mp hRun with ⟨_, -, hRun⟩
      exact Outcome.pure_eq_ok.mp hRun
    · rcases Outcome.bind_eq_ok.mp hRun with ⟨_, -, hRun⟩
      exact Outcome.pure_eq_ok.mp hRun
  cases hResponse
  rcases screen_sifts [] events (books_start db) rfl with
    ⟨refused, hScreened, hBooks, hNone⟩
  rcases enforce_sifts hBooks hNone hKept with
    ⟨ruledOut, hEnforced, hKeptBooks, hKeptNone⟩
  have hPerm :
      (([] ++ refused ++ ruledOut) ++ kept.2).Perm events := by
    rw [List.nil_append, List.append_assoc]
    exact (hEnforced.append_left refused).trans hScreened
  simp only [isTidy, hKept]
  exact persistValid_accounts_iff hKeptBooks hKeptNone hPerm
    hDone

end

--------
-- A Harvest
--------

open CtePersistence (StoreResult CtePayload)

def harvestEvent : IngestEvent where
  cteType := .harvesting
  traceabilityLotCode := "LOT-1"
  productDescription := "Apples"
  quantity := ⟨"2.0", Python.isFloatRepr_two⟩
  unitOfMeasure := "cases"
  locationGln := none
  locationName := some "North Field"
  timestamp := "2026-01-01T00:00:00+00:00"
  kdes := [("ftl_covered", .bool true)]
  inputTraceabilityLotCodes := none
  lotCode_length := length_lot_one
  quantity_pos := by decide

/- The digests of that harvest, and its one time stamp. -/
def harvestEventRuntime : Runtime :=
  { Runtime.ofDigests
        [("00000000-0000-0000-0000-000000000003|harvesting|LOT-1|Apples|2.0|cases|North Field||2026-01-01T00:00:00+00:00|\x7b\"ftl_covered\": true, \"ingest_source\": \"erp\"\x7d",
            "ea2e1e2d60afe54049f484304e05ef0aae061493239672e0e0585e856f4a395a"),
          ("GENESIS|ea2e1e2d60afe54049f484304e05ef0aae061493239672e0e0585e856f4a395a",
            "92d6f66657fc9a23e79daf4fec6917cbc833224815041f71b992ee3d183bb515"),
          ("\x7b\"event_type\":\"harvesting\",\"from_facility\":\"North Field\",\"kdes\":\x7b\"ftl_covered\":true,\"ingest_source\":\"erp\"\x7d,\"source\":\"webhook_api\",\"timestamp\":\"2026-01-01T00:00:00+00:00\",\"tlc\":\"LOT-1\",\"to_facility\":\"\"\x7d",
            "bb095ad88a7f1eb904c54b22d3c347e7aaba106ea1d369191fab32a7e10fb1f7"),
          ("\x7b\"event_type\":\"harvesting\",\"kdes\":\x7b\"ftl_covered\":true\x7d,\"location_gln\":\"\",\"location_name\":\"North Field\",\"source\":\"erp\",\"timestamp\":\"2026-01-01T00:00:00+00:00\",\"tlc\":\"LOT-1\"\x7d",
            "6b53c5e769f40ee81cd063b6cc9852fab3574d8e915795953ec1aa518d8b9d72"),
          ("00000000-0000-0000-0000-000000000001|harvesting|LOT-1|Apples|2.0|cases|North Field||2026-01-01T00:00:00+00:00|\x7b\"ftl_covered\": true, \"ingest_source\": \"erp\"\x7d",
            "5bf0557b20da1ae24b44bc28d2562c3d406bde9e5346c35456f4d261fa20de4b"),
          ("00000000-0000-0000-0000-000000000002|harvesting|LOT-1|Apples|2.0|cases|North Field||2026-01-01T00:00:00+00:00|\x7b\"ftl_covered\": true, \"ingest_source\": \"erp\"\x7d",
            "c43b5e30f167ff48011b3666faf23d396767bf880d3f2c1a53bc4ee9abd6fd3d")] with
    fromisoformat := fun _ =>
      some (some ⟨⟨2026, 1, 1⟩, 0, 0, Datetime.isValid_first⟩) }

/- A request whose batch store fails. -/
def harvestRequest : Request where
  rt := harvestEventRuntime
  settings := ⟨90, 24, fun _ => none⟩
  now := ⟨⟨2026, 1, 2⟩, 0, 0, Datetime.isValid_second⟩
  tenantId :=
    ⟨"00000000-0000-0000-0000-0000000000aa", isUuidText_aa⟩
  source := "erp"
  outside :=
    { validateKdes := fun _ => []
      preeval := fun _ _ => .ok none
      candidate := fun _ _ =>
        ⟨⟨"00000000-0000-0000-0000-000000000001", isUuidText_one⟩,
          "2026-01-02T00:00:00+00:00"⟩
      canonical := fun _ _ =>
        ⟨⟨"00000000-0000-0000-0000-000000000002", isUuidText_two⟩,
          "2026-01-02T00:00:00+00:00"⟩
      eventId := fun _ _ =>
        ⟨"00000000-0000-0000-0000-000000000003", isUuidText_three⟩
      correlationId := fun _ => "c-1"
      batchFault := some .runtimeError
      savepointFault := fun _ => none
      storeFault := fun _ => none
      obligations := fun _ _ => .ok []
      evaluate := fun _ _ => none
      releaseFault := fun _ => none
      publish := fun _ _ => none
      learn := fun _ _ => none
      funnelFault := none
      commitFault := none }

/- A request with another catalog hook. -/
def Request.withLearn
    (request : Request)
    (learn : Attempt → IngestEvent → Option Raised) :
    Request :=
  { request with
    outside := { request.outside with learn := learn } }

variable {event : IngestEvent} {request : Request}

theorem storeOne_harvest
    (hRequest : request = harvestRequest)
    (hEvent : event = harvestEvent) :
    (storeOne request event Db.empty).isOk = true := by
  simp only [storeOne, require,
    persistRequiredCanonicalAndEval, persistCanonical,
    normalizeWebhookEvent, prepare,
    TraceabilityEvent.prepareForPersistence,
    CanonicalEventStore.persistEvent,
    CanonicalEventStore.ensurePrepared,
    CanonicalEventStore.persistNewEvent,
    TraceabilityEvent.enforceRawPayloadSize_dumped,
    CanonicalEventStore.eventToParams_dumped]
  rw [hRequest, hEvent]
  decide +kernel

/- The batch attempt prepares the harvest. -/
theorem batchDicts_harvest
    (hRequest : request = harvestRequest)
    (hEvent : event = harvestEvent) :
    (batchDicts request [event]).isOk = true := by
  simp only [batchDicts, normalizeWebhookEvent, prepare,
    TraceabilityEvent.prepareForPersistence,
    TraceabilityEvent.enforceRawPayloadSize_dumped]
  rw [hRequest, hEvent]
  decide +kernel

/- The checks let the harvest pass. -/
theorem refusal_harvest :
    refusal harvestRequest [] harvestEvent = none := by
  decide

/-
  What comes before the hooks does not depend on the catalog
  hook.
-/
theorem screen_withLearn
    (request : Request)
    (learn : Attempt → IngestEvent → Option Raised)
    (session : Session)
    (event : IngestEvent)
    (hPass : refusal request [] event = none) :
    screen (request.withLearn learn) [] session [event] =
      (session, [event]) := by
  have hSame :
      refusal (request.withLearn learn) [] event = none :=
    hPass
  rw [screen, hSame]
  rfl

theorem batchDicts_withLearn
    (request : Request)
    (learn : Attempt → IngestEvent → Option Raised)
    (events : List IngestEvent) :
    batchDicts (request.withLearn learn) events =
      batchDicts request events :=
  rfl

theorem storeOne_withLearn
    (request : Request)
    (learn : Attempt → IngestEvent → Option Raised)
    (event : IngestEvent)
    (db : Db) :
    storeOne (request.withLearn learn) event db =
      storeOne request event db :=
  rfl

theorem fallbackEvent_stored
    (session : Session)
    {stored : StoreResult × Db}
    (hPass : request.outside.preeval .fallback event = .ok none)
    (hOpen : request.outside.savepointFault event = none)
    (hStored :
      storeOne request event session.db = .ok stored) :
    fallbackEvent request session event =
      match afterStore request .fallback event with
      | none => .ok (storedSession session event stored)
      | some raised =>
          if raised ∈ eventHandler then
            .ok (storageError request
              (storedSession session event stored) event)
          else
            .error raised := by
  simp only [fallbackEvent, hPass, hOpen, failing, hStored]
  rfl

variable {db : Db}

/- A request of one event whose batch store fails. -/
theorem ingestEvents_of_batchFault
    {dicts : List (Uuid × CtePayload)}
    {after : Session}
    (hScreen : screen request [] (.start db) [event] =
      (.start db, [event]))
    (hPass : ∀ attempt,
      request.outside.preeval attempt event = .ok none)
    (hDicts : batchDicts request [event] = .ok dicts)
    (hFault : request.outside.batchFault = some .runtimeError)
    (hEvent :
      fallbackEvent request (.start db) event = .ok after)
    (hFunnel : request.outside.funnelFault = none)
    (hCommit : request.outside.commitFault = none) :
    ingestEvents request [event] db =
      .ok (⟨after.accepted, after.rejected, 1, after.results⟩,
        after) := by
  have hEnforce :
      enforce request (.start db) [event] =
        .ok (.start db, [event]) := by
    simp only [enforce, hPass]
    rfl
  have hTried :
      batchAttempt request (.start db) dicts [event] =
        (.start db, some .runtimeError) := by
    simp only [batchAttempt, storeBatch, hFault, failing]
    rfl
  have hFallback :
      fallback request (.start db) [event] = .ok after :=
    Outcome.foldlM_cons_eq_ok.mpr ⟨after, hEvent, rfl⟩
  have hPersist :
      persistValid request (.start db) [event] = .ok after := by
    rw [persistValid, hDicts]
    change (match (batchAttempt request (.start db) dicts
        [event]).2 with
      | none => _
      | some raised => _) = _
    rw [hTried]
    exact hFallback
  simp only [ingestEvents, hScreen, hEnforce, bind, Except.bind,
    hPersist, hFunnel, hCommit, failing]
  split <;> rfl

/- Such a request is tidy when its event does not raise late. -/
theorem isTidy_of_batchFault
    (hScreen : screen request [] (.start db) [event] =
      (.start db, [event]))
    (hPass : ∀ attempt,
      request.outside.preeval attempt event = .ok none)
    (hFault : request.outside.batchFault = some .runtimeError)
    (hHooks : afterStore request .fallback event = none) :
    isTidy request [event] db = true := by
  have hEnforce :
      enforce request (.start db) [event] =
        .ok (.start db, [event]) := by
    simp only [enforce, hPass]
    rfl
  have hEarly :
      ∀ dicts, failsEarly request db dicts [event] = true := by
    intro dicts
    simp only [failsEarly, storeBatch, hFault, failing]
    rfl
  have hLate : anyLate request (.start db) [event] = false := by
    have hRaises :
        raisesLate request (.start db) event = false := by
      simp only [raisesLate, hHooks]
      split <;> simp_all
    rw [anyLate, hRaises, Bool.false_or]
    split <;> rfl
  simp only [isTidy, hScreen, hEnforce, storesTidily]
  split
  · rfl
  · split
    · rfl
    · rename_i dicts _ _ _ _
      rw [hLate]
      exact Bool.and_eq_true_iff.mpr ⟨hEarly dicts, rfl⟩

/- The books of a fallback whose hooks raise nothing. -/
theorem ingestEvents_accounts_harvest :
    ∃ response session,
      ingestEvents harvestRequest [harvestEvent] Db.empty =
          .ok (response, session) ∧
        Accounts harvestRequest [harvestEvent] Db.empty
          response session := by
  rcases Outcome.exists_eq_ok (batchDicts_harvest rfl rfl) with
    ⟨dicts, hDicts⟩
  rcases Outcome.exists_eq_ok (storeOne_harvest rfl rfl) with
    ⟨stored, hStored⟩
  have hScreen :=
    screen_withLearn harvestRequest (fun _ _ => none)
      (.start Db.empty) harvestEvent refusal_harvest
  have hEvent :=
    fallbackEvent_stored (.start Db.empty) rfl rfl hStored
  have hRun := ingestEvents_of_batchFault hScreen
    (fun _ => rfl) hDicts rfl hEvent rfl rfl
  exact ⟨_, _, hRun, (ingestEvents_accounts_iff hRun).mpr
    (isTidy_of_batchFault hScreen (fun _ => rfl) rfl rfl)⟩

/-
  An exception of the catalog hook that its handler does not
  name: the event is stored and reported twice.
-/
theorem not_ingestEvents_accounts :
    ¬ ∀ (request : Request) (events : List IngestEvent)
        (db : Db) (response : IngestResponse)
        (session : Session),
      ingestEvents request events db =
          .ok (response, session) →
        Accounts request events db response session := by
  intro hAccounts
  rcases Outcome.exists_eq_ok (batchDicts_harvest rfl rfl) with
    ⟨dicts, hDicts⟩
  rcases Outcome.exists_eq_ok (storeOne_harvest rfl rfl) with
    ⟨stored, hStored⟩
  let learn : Attempt → IngestEvent → Option Raised :=
    fun _ _ => some .runtimeError
  have hScreen := screen_withLearn harvestRequest learn
    (.start Db.empty) harvestEvent refusal_harvest
  have hEvent :=
    fallbackEvent_stored (.start Db.empty) rfl rfl
      ((storeOne_withLearn harvestRequest learn harvestEvent
        Db.empty).trans hStored)
  have hRun := ingestEvents_of_batchFault hScreen
    (fun _ => rfl)
    ((batchDicts_withLearn harvestRequest learn _).trans hDicts)
    rfl hEvent rfl rfl
  have hSum := (hAccounts _ _ _ _ _ hRun).sum
  change 1 + 1 = 1 at hSum
  omega

end Webhook

end RegEngine
