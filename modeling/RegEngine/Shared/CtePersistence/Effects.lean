import RegEngine.Shared.Ledger
import RegEngine.Shared.Schema.Statements

/-
  What the legacy writers leave in the tables: both write the
  rows of a plan, the single writer that of its one event.

  Main declarations:
    * `CtePersistence.applyPlan`
    * `CtePersistence.BatchPlan.WellFormed`
    * `CtePersistence.writePlan_effect`
-/

--------
-- The Rows Of A Plan
--------

namespace RegEngine

namespace CtePersistence

/- The tables with the rows of a plan. -/
def applyPlan
    (db : Db)
    (tenantId : Uuid)
    (plan : BatchPlan) :
    Db :=
  { db with
    cteEvents := db.cteEvents ++ plan.eventRows
    cteKdes := Db.addKdes db.cteKdes plan.kdeRows
    hashChain := db.hashChain ++ plan.chainRows
    complianceAlerts :=
      Db.addAlerts db.complianceAlerts
        (plan.alertRows.map (fun entry =>
          alertInsertParams tenantId entry.1 entry.2)) }

/- An empty plan changes nothing. -/
theorem applyPlan_empty
    (db : Db)
    (tenantId : Uuid) :
    applyPlan db tenantId BatchPlan.empty = db := by
  simp [applyPlan, BatchPlan.empty, Db.addKdes, Db.addAlerts]

/- The rows of an event go before those of the plan. -/
theorem applyPlan_addNew
    (db : Db)
    (tenantId : Uuid)
    (p : Prepared)
    (eventRow : CteEventRow)
    (entry : HashChainRow)
    (result : StoreResult)
    (plan : BatchPlan) :
    applyPlan db tenantId
        (plan.addNew tenantId p eventRow entry result) =
      applyPlan
        (applyPlan db tenantId
          (BatchPlan.empty.addNew tenantId p eventRow entry
            result))
        tenantId plan := by
  unfold BatchPlan.addNew
  split <;>
    simp [applyPlan, BatchPlan.empty, Db.addKdes, Db.addAlerts,
      List.foldl_append]

theorem BatchPlan.addNew_eventRows
    (plan : BatchPlan)
    (tenantId : Uuid)
    (p : Prepared)
    (eventRow : CteEventRow)
    (entry : HashChainRow)
    (result : StoreResult) :
    (plan.addNew tenantId p eventRow entry result).eventRows =
      eventRow :: plan.eventRows := by
  unfold BatchPlan.addNew
  split <;> rfl

/- The results of a plan with one more event. -/
theorem BatchPlan.addNew_results
    (plan : BatchPlan)
    (tenantId : Uuid)
    (p : Prepared)
    (eventRow : CteEventRow)
    (entry : HashChainRow)
    (result : StoreResult) :
    (plan.addNew tenantId p eventRow entry result).results =
      result :: plan.results := by
  unfold BatchPlan.addNew
  split <;> rfl

/- A guarded chain row is inserted when its event is stored. -/
theorem insertGuardedChainEntry_eq
    {db db' : Db}
    {row : HashChainRow}
    (hEvent :
      ∃ event ∈ db.cteEvents,
        event.id = row.cteEventId ∧
          event.tenantId = row.tenantId)
    (hInsert : insertGuardedChainEntry db row = .ok db') :
    db' = { db with hashChain := db.hashChain ++ [row] } := by
  unfold insertGuardedChainEntry at hInsert
  rw [if_pos (by
    rcases hEvent with ⟨event, hMem, hId, hTenant⟩
    rw [List.any_eq_true]
    exact ⟨event, hMem, by simp [hId, hTenant]⟩)] at hInsert
  exact Ledger.insertChainEntry_eq hInsert

/- Guarded chain rows of stored events are all inserted. -/
theorem foldlM_insertGuardedChainEntry
    {rows : List HashChainRow}
    {db db' : Db}
    (hEvents :
      ∀ row ∈ rows, ∃ event ∈ db.cteEvents,
        event.id = row.cteEventId ∧
          event.tenantId = row.tenantId)
    (hInsert :
      rows.foldlM insertGuardedChainEntry db = .ok db') :
    db' = { db with hashChain := db.hashChain ++ rows } := by
  induction rows generalizing db with
  | nil =>
      rw [List.foldlM_nil] at hInsert
      rw [← Outcome.pure_eq_ok.mp hInsert, List.append_nil]
  | cons row rest ih =>
      rcases Outcome.foldlM_cons_eq_ok.mp hInsert with
        ⟨next, hNext, hRest⟩
      have hDb :=
        insertGuardedChainEntry_eq (hEvents row (by simp)) hNext
      have hFinal :=
        ih (by
          intro other hOther
          rw [hDb]
          exact hEvents other (by simp [hOther])) hRest
      rw [hFinal, hDb]
      simp

--------
-- The Single Writer
--------

variable {p : Prepared} {result : StoreResult} {tenantId : Uuid}
variable {db db' : Db} {now : Datetime} {rt : Runtime}
variable {source : String} {existing : ExistingMap}
variable {nextSequence : Int}
variable {previousChainHash : Option String} {plan : BatchPlan}
variable {prepared : List Prepared} {results : List StoreResult}

/- The rows of an accepted event are those of its plan. -/
theorem writeAccepted_effect
    {db db' : Db}
    {eventRow : CteEventRow}
    {entry : HashChainRow}
    (hStatus : eventRow.validationStatus ≠ .rejected)
    (hId : eventRow.id = p.eventId)
    (hTenant : eventRow.tenantId = tenantId)
    (hEntryId : entry.cteEventId = p.eventId)
    (hEntryTenant : entry.tenantId = tenantId)
    (hWrite :
      writeAccepted
          { db with cteEvents := db.cteEvents ++ [eventRow] }
          tenantId p entry =
        .ok db') :
    db' =
      applyPlan db tenantId
        (BatchPlan.empty.addNew tenantId p eventRow entry
          result) := by
  unfold writeAccepted at hWrite
  rcases Outcome.bind_eq_ok.mp hWrite with
    ⟨withKdes, hKdes, hWrite⟩
  rcases Outcome.bind_eq_ok.mp hWrite with
    ⟨withChain, hChain, hWrite⟩
  have hKdesDb := (Db.foldlM_insertCteKde_ok hKdes).2
  rw [hKdesDb] at hChain
  have hChainDb :=
    insertGuardedChainEntry_eq (by
      refine ⟨eventRow, by simp, ?_, ?_⟩
      · rw [hId, hEntryId]
      · rw [hTenant, hEntryTenant]) hChain
  have hAlerts := Outcome.pure_eq_ok.mp hWrite
  rw [hChainDb, Db.foldl_insertComplianceAlert_eq] at hAlerts
  · rw [← hAlerts]
    simp [applyPlan, BatchPlan.addNew, BatchPlan.empty, hStatus,
      Function.comp_def]
  · intro row hRow
    rcases List.mem_map.mp hRow with ⟨alert, -, hAlert⟩
    rw [← hAlert]
    simp [Db.hasCteEvent, alertInsertParams, hId]

/- A new event leaves the rows of its plan. -/
theorem storeNewEvent_effect
    (hFind : db.findCteByKey tenantId p.idempKey = none)
    (hStore :
      storeNewEvent rt now tenantId source p db =
        .ok (result, db')) :
    ∃ quantity sha256Hash column,
      quantityText p.payload.quantity = some quantity ∧
        payloadHash rt tenantId p.eventId p.payload p.eventType
            quantity p.eventDt.isoformat = .ok sha256Hash ∧
        assertNotExists db tenantId sha256Hash = .ok () ∧
        rt.floatOf p.payload.quantity = some column ∧
        result =
          insertedResult p sha256Hash
            (computeChainHash rt.sha256Hex sha256Hash
              (chainStart db tenantId).1)
            (deriveValidationStatus p.payload.alerts
              p.payload.validatorResults) ∧
        db' =
          applyPlan db tenantId
            (BatchPlan.empty.addNew tenantId p
              (cteEventRow tenantId source p column
                (p.entryDt.getD now).instant sha256Hash
                (computeChainHash rt.sha256Hex sha256Hash
                  (chainStart db tenantId).1)
                (deriveValidationStatus p.payload.alerts
                  p.payload.validatorResults))
              (chainRow tenantId p (chainStart db tenantId).2
                sha256Hash (chainStart db tenantId).1
                (computeChainHash rt.sha256Hex sha256Hash
                  (chainStart db tenantId).1))
              result) := by
  rcases storeNewEvent_cases hStore with
    ⟨quantity, sha256Hash, column, inserted, landed, hText,
      hHash, hFresh, hFloat, hInsert, hResult, hCases⟩
  refine ⟨quantity, sha256Hash, column, hText, hHash, hFresh,
    hFloat, hResult, ?_⟩
  have hInserted := Db.insertCteEvent_cases hInsert
  rw [Db.conflict_of_findCteByKey rfl hFind] at hInserted
  rcases hInserted with ⟨-, hConflict, -⟩ | ⟨-, -, -, hDb⟩
  · simp at hConflict
  · rcases hCases with ⟨hStatus, hDone⟩ | ⟨hStatus, hWrite⟩
    · rw [hDone, hDb]
      simp [applyPlan, BatchPlan.addNew, BatchPlan.empty,
        cteEventRow, hStatus, Db.addKdes, Db.addAlerts]
    · rw [hDb] at hWrite
      exact writeAccepted_effect hStatus rfl rfl rfl rfl hWrite

--------
-- Keys Of A Batch
--------

/- A map without a key has no entry under it. -/
theorem ExistingMap.find_eq_none
    {key : String} :
    existing.find key = none ↔
      ∀ entry ∈ existing, entry.1 ≠ key := by
  simp [ExistingMap.find, List.find?_eq_none]

/- The keys of the batch are looked up in the table. -/
theorem existingMap_find
    (db : Db)
    (tenantId : Uuid)
    {keys : List String}
    {key : String}
    (hKey : key ∈ keys) :
    (existingMap db tenantId keys).find key =
      (db.findCteByKey tenantId key).map storedOf := by
  unfold ExistingMap.find existingMap Db.findCteByKey
  induction db.cteEvents with
  | nil => rfl
  | cons row rest ih =>
      rw [List.filterMap_cons, List.find?_cons]
      cases hRowKey : row.idempotencyKey with
      | none => simpa using ih
      | some rowKey =>
          by_cases hSame : row.tenantId = tenantId ∧ rowKey = key
          · simp [hSame.1, hSame.2, hKey]
          · have hFind :
                (row.tenantId == tenantId &&
                  some rowKey == some key) = false := by
              simpa using hSame
            rw [hFind]
            by_cases hRow :
                row.tenantId = tenantId ∧ rowKey ∈ keys
            · have hNe : (rowKey == key) = false := by
                simpa using fun h => hSame ⟨hRow.1, h⟩
              simp only [hRow, and_self, if_true,
                List.find?_cons, hNe]
              exact ih
            · simp only [hRow, if_false]
              exact ih

--------
-- Well-Formed Plans
--------

open Ledger (columns chainEntry legacyEntries)

/- A result that reports a new event on the ledger. -/
def StoreResult.isNew (result : StoreResult) : Bool :=
  result.success && !result.idempotent

/-
  A plan for one tenant from a point of the chain on: its
  keys are new and distinct, its chain rows go on from the
  point and stand for its accepted events in order, and its
  other rows name its events.
-/
structure BatchPlan.WellFormed
    (sha256Hex : String → String)
    (tenantId : Uuid)
    (previousChainHash : Option String)
    (nextSequence : Int)
    (existing : ExistingMap)
    (plan : BatchPlan) : Prop where
  tenant : ∀ row ∈ plan.eventRows, row.tenantId = tenantId
  fresh :
    ∀ row ∈ plan.eventRows,
      ∃ key, row.idempotencyKey = some key ∧
        existing.find key = none
  distinct :
    plan.eventRows.Pairwise (fun row later =>
      row.idempotencyKey ≠ later.idempotencyKey)
  linked :
    HashChain.Linked (columns sha256Hex) nextSequence
      previousChainHash plan.chainRows
  chainTenant :
    ∀ row ∈ plan.chainRows, row.tenantId = tenantId
  chained :
    plan.chainRows.map chainEntry =
      legacyEntries plan.eventRows
  reported :
    (plan.results.filter StoreResult.isNew).map
        StoreResult.eventId =
      plan.chainRows.map HashChainRow.cteEventId
  kdeRefs :
    ∀ row ∈ plan.kdeRows, ∃ event ∈ plan.eventRows,
      event.id = row.cteEventId
  alertRefs :
    ∀ alert ∈ plan.alertRows, ∃ event ∈ plan.eventRows,
      event.id = alert.1

/- The empty plan goes on from every point. -/
theorem BatchPlan.WellFormed.empty
    (sha256Hex : String → String)
    (tenantId : Uuid)
    (previousChainHash : Option String)
    (nextSequence : Int)
    (existing : ExistingMap) :
    BatchPlan.empty.WellFormed sha256Hex tenantId
      previousChainHash nextSequence existing := by
  constructor <;>
    simp [BatchPlan.empty, legacyEntries, HashChain.Linked]

/- An event that is stored adds no row. -/
theorem BatchPlan.WellFormed.addStored
    {sha256Hex : String → String}
    {plan : BatchPlan}
    (hPlan :
      plan.WellFormed sha256Hex tenantId previousChainHash
        nextSequence existing)
    (stored : Stored) :
    { plan with
      results := stored.result :: plan.results }.WellFormed
        sha256Hex tenantId previousChainHash nextSequence
          existing where
  tenant := hPlan.tenant
  fresh := hPlan.fresh
  distinct := hPlan.distinct
  linked := hPlan.linked
  chainTenant := hPlan.chainTenant
  chained := hPlan.chained
  reported := by
    rw [List.filter_cons_of_neg (by
      simp [StoreResult.isNew, Stored.result])]
    exact hPlan.reported
  kdeRefs := hPlan.kdeRefs
  alertRefs := hPlan.alertRefs

variable {key later : String}
variable {events : List (Uuid × CtePayload)}

/- A key met in the batch is new to the map before it. -/
theorem ExistingMap.find_of_append
    {stored : Stored}
    (hFind :
      ExistingMap.find (existing ++ [(key, stored)]) later =
        none) :
    existing.find later = none ∧ key ≠ later := by
  rw [ExistingMap.find_eq_none] at hFind ⊢
  exact ⟨fun entry hEntry => hFind entry (by simp [hEntry]),
    hFind (key, stored) (by simp)⟩

/- The rows of a new event go before the plan that follows. -/
theorem BatchPlan.WellFormed.addNew
    {sha256Hex : String → String}
    {quantity : Python.Float}
    {entryTimestamp : Int}
    {sha256Hash : String}
    {status : ValidationStatus}
    {stored : Stored}
    (hFind : existing.find p.idempKey = none)
    (hPlan :
      plan.WellFormed sha256Hex tenantId
        (advance status previousChainHash nextSequence
          (computeChainHash sha256Hex sha256Hash
            previousChainHash)).1
        (advance status previousChainHash nextSequence
          (computeChainHash sha256Hex sha256Hash
            previousChainHash)).2
        (existing ++ [(p.idempKey, stored)])) :
    (plan.addNew tenantId p
      (cteEventRow tenantId source p quantity entryTimestamp
        sha256Hash
        (computeChainHash sha256Hex sha256Hash
          previousChainHash)
        status)
      (chainRow tenantId p nextSequence sha256Hash
        previousChainHash
        (computeChainHash sha256Hex sha256Hash
          previousChainHash))
      (insertedResult p sha256Hash
        (computeChainHash sha256Hex sha256Hash
          previousChainHash)
        status)).WellFormed sha256Hex tenantId
          previousChainHash nextSequence existing := by
  have hLater :
      ∀ row ∈ plan.eventRows,
        ∃ key, row.idempotencyKey = some key ∧
          existing.find key = none ∧ p.idempKey ≠ key := by
    intro row hRow
    rcases hPlan.fresh row hRow with ⟨key, hKey, hNone⟩
    exact ⟨key, hKey, ExistingMap.find_of_append hNone⟩
  have hDistinct :
      ∀ row ∈ plan.eventRows,
        some p.idempKey ≠ row.idempotencyKey := by
    intro row hRow
    rcases hLater row hRow with ⟨key, hKey, -, hNe⟩
    simpa [hKey] using hNe
  have hFresh :
      ∀ row ∈ plan.eventRows,
        ∃ key, row.idempotencyKey = some key ∧
          existing.find key = none := by
    intro row hRow
    rcases hLater row hRow with ⟨key, hKey, hNone, -⟩
    exact ⟨key, hKey, hNone⟩
  have hLinked := hPlan.linked
  by_cases hStatus : status = .rejected
  · -- A rejected event leaves the chain where it was.
    simp only [advance, hStatus, if_true] at hLinked
    simp only [BatchPlan.addNew, cteEventRow, hStatus, if_true]
    constructor
    · simpa using hPlan.tenant
    · simpa [hFind] using hFresh
    · exact List.pairwise_cons.mpr ⟨hDistinct, hPlan.distinct⟩
    · exact hLinked
    · exact hPlan.chainTenant
    · simpa [legacyEntries] using hPlan.chained
    · rw [List.filter_cons_of_neg (by
        simp [StoreResult.isNew, insertedResult])]
      exact hPlan.reported
    · intro row hRow
      rcases hPlan.kdeRefs row hRow with ⟨event, hMem, hId⟩
      exact ⟨event, by simp [hMem], hId⟩
    · intro alert hAlert
      rcases hPlan.alertRefs alert hAlert with
        ⟨event, hMem, hId⟩
      exact ⟨event, by simp [hMem], hId⟩
  · simp only [advance, hStatus, if_false] at hLinked
    simp only [BatchPlan.addNew, cteEventRow, hStatus, if_false]
    constructor
    · simpa using hPlan.tenant
    · simpa [hFind] using hFresh
    · exact List.pairwise_cons.mpr ⟨hDistinct, hPlan.distinct⟩
    · exact ⟨rfl, rfl, rfl, hLinked⟩
    · simpa [chainRow] using hPlan.chainTenant
    · have hChained := hPlan.chained
      unfold legacyEntries at hChained ⊢
      rw [List.filter_cons_of_pos (by simpa using hStatus)]
      rw [List.map_cons, List.map_cons, hChained]
      rfl
    · rw [List.filter_cons_of_pos (by
        simp [StoreResult.isNew, insertedResult, hStatus])]
      rw [List.map_cons, List.map_cons, hPlan.reported]
      rfl
    · intro row hRow
      rcases List.mem_append.mp hRow with hNew | hOld
      · rcases List.mem_map.mp hNew with ⟨entry, -, hEntry⟩
        exact ⟨_, List.mem_cons_self, by rw [← hEntry]⟩
      · rcases hPlan.kdeRefs row hOld with ⟨event, hMem, hId⟩
        exact ⟨event, by simp [hMem], hId⟩
    · intro alert hAlert
      rcases List.mem_append.mp hAlert with hNew | hOld
      · rcases List.mem_map.mp hNew with ⟨item, -, hItem⟩
        exact ⟨_, List.mem_cons_self, by rw [← hItem]⟩
      · rcases hPlan.alertRefs alert hOld with
          ⟨event, hMem, hId⟩
        exact ⟨event, by simp [hMem], hId⟩

/- What planning one event comes to. -/
theorem planBatch_cons
    {db : Db}
    {p : Prepared}
    {rest : List Prepared}
    (hPlan :
      planBatch rt now tenantId source db previousChainHash
        nextSequence existing (p :: rest) = .ok plan) :
    (∃ stored later,
        existing.find p.idempKey = some stored ∧
          planBatch rt now tenantId source db
              previousChainHash nextSequence existing rest =
            .ok later ∧
          plan =
            { later with
              results := stored.result :: later.results }) ∨
      (∃ quantity sha256Hash later,
        existing.find p.idempKey = none ∧
          batchQuantity rt p.payload.quantity = .ok quantity ∧
          payloadHash rt tenantId p.eventId p.payload
              p.eventType quantity.repr p.eventDt.isoformat =
            .ok sha256Hash ∧
          assertNotExists db tenantId sha256Hash = .ok () ∧
          planBatch rt now tenantId source db
              (advance
                (deriveValidationStatus p.payload.alerts
                  p.payload.validatorResults)
                previousChainHash nextSequence
                (computeChainHash rt.sha256Hex sha256Hash
                  previousChainHash)).1
              (advance
                (deriveValidationStatus p.payload.alerts
                  p.payload.validatorResults)
                previousChainHash nextSequence
                (computeChainHash rt.sha256Hex sha256Hash
                  previousChainHash)).2
              (existing ++
                [(p.idempKey, ⟨p.eventId, sha256Hash,
                  computeChainHash rt.sha256Hex sha256Hash
                    previousChainHash⟩)])
              rest =
            .ok later ∧
          plan =
            later.addNew tenantId p
              (cteEventRow tenantId source p quantity
                now.instant sha256Hash
                (computeChainHash rt.sha256Hex sha256Hash
                  previousChainHash)
                (deriveValidationStatus p.payload.alerts
                  p.payload.validatorResults))
              (chainRow tenantId p nextSequence sha256Hash
                previousChainHash
                (computeChainHash rt.sha256Hex sha256Hash
                  previousChainHash))
              (insertedResult p sha256Hash
                (computeChainHash rt.sha256Hex sha256Hash
                  previousChainHash)
                (deriveValidationStatus p.payload.alerts
                  p.payload.validatorResults))) := by
  rw [planBatch] at hPlan
  cases hFind : existing.find p.idempKey with
  | some stored =>
      rw [hFind] at hPlan
      rcases Outcome.bind_eq_ok.mp hPlan with
        ⟨later, hLater, hPlan⟩
      exact Or.inl ⟨stored, later, rfl, hLater,
        (Outcome.pure_eq_ok.mp hPlan).symm⟩
  | none =>
      rw [hFind] at hPlan
      rcases Outcome.bind_eq_ok.mp hPlan with
        ⟨quantity, hQuantity, hPlan⟩
      rcases Outcome.bind_eq_ok.mp hPlan with
        ⟨sha256Hash, hHash, hPlan⟩
      rcases Outcome.bind_eq_ok.mp hPlan with
        ⟨⟨⟩, hAbsent, hPlan⟩
      rcases Outcome.bind_eq_ok.mp hPlan with
        ⟨later, hLater, hPlan⟩
      exact Or.inr ⟨quantity, sha256Hash, later, rfl, hQuantity,
        hHash, hAbsent, hLater,
        (Outcome.pure_eq_ok.mp hPlan).symm⟩

/- Every plan of the batch writer is well-formed. -/
theorem planBatch_wellFormed
    {db : Db}
    (hPlan :
      planBatch rt now tenantId source db previousChainHash
        nextSequence existing prepared = .ok plan) :
    plan.WellFormed rt.sha256Hex tenantId previousChainHash
      nextSequence existing := by
  induction prepared generalizing previousChainHash
    nextSequence existing plan with
  | nil =>
      simp only [planBatch, Except.ok.injEq] at hPlan
      rw [← hPlan]
      exact BatchPlan.WellFormed.empty _ _ _ _ _
  | cons p rest ih =>
      rcases planBatch_cons hPlan with
        ⟨stored, later, -, hLater, hEq⟩ |
          ⟨quantity, sha256Hash, later, hFind, -, -, -, hLater,
            hEq⟩
      · rw [hEq]
        exact (ih hLater).addStored stored
      · rw [hEq]
        exact BatchPlan.WellFormed.addNew hFind (ih hLater)

theorem planBatch_keys
    {db : Db}
    (hPlan :
      planBatch rt now tenantId source db previousChainHash
        nextSequence existing prepared = .ok plan) :
    ∀ row ∈ plan.eventRows, ∃ p ∈ prepared,
      row.idempotencyKey = some p.idempKey := by
  induction prepared generalizing previousChainHash
    nextSequence existing plan with
  | nil =>
      simp only [planBatch, Except.ok.injEq] at hPlan
      simp [← hPlan, BatchPlan.empty]
  | cons p rest ih =>
      intro row hRow
      rcases planBatch_cons hPlan with
        ⟨stored, later, -, hLater, hEq⟩ |
          ⟨quantity, sha256Hash, later, -, -, -, -, hLater, hEq⟩
      · rw [hEq] at hRow
        rcases ih hLater row hRow with ⟨q, hMem, hKey⟩
        exact ⟨q, by simp [hMem], hKey⟩
      · rw [hEq, BatchPlan.addNew_eventRows] at hRow
        rcases List.mem_cons.mp hRow with hNew | hOld
        · exact ⟨p, by simp, by rw [hNew]; rfl⟩
        · rcases ih hLater row hOld with ⟨q, hMem, hKey⟩
          exact ⟨q, by simp [hMem], hKey⟩

--------
-- The Batch Writer
--------

open Ledger (chainEntry legacyEntries)

/- The rows of a well-formed plan all land. -/
theorem insertEventRows_eq
    {sha256Hex : String → String}
    {db : Db}
    {inserted : Db × List Uuid}
    (hPlan :
      plan.WellFormed sha256Hex tenantId previousChainHash
        nextSequence existing)
    (hKeys :
      ∀ row ∈ plan.eventRows, ∀ key,
        row.idempotencyKey = some key →
          db.findCteByKey tenantId key = none)
    (hInsert :
      insertEventRows db plan.eventRows = .ok inserted) :
    inserted =
      ({ db with cteEvents := db.cteEvents ++ plan.eventRows },
        plan.eventRows.map CteEventRow.id) := by
  unfold insertEventRows at hInsert
  rcases Outcome.bind_eq_ok.mp hInsert with
    ⟨⟨table, kept⟩, hRows, hInsert⟩
  have hFree :
      CteEventRow.constraints.Free db.cteEvents
        plan.eventRows := by
    refine ⟨?_, hPlan.distinct.imp ?_⟩
    · intro row hRow
      rcases hPlan.fresh row hRow with ⟨key, hKey, -⟩
      apply Db.conflict_of_findCteByKey hKey
      rw [hPlan.tenant row hRow]
      exact hKeys row hRow key hKey
    · intro row later hNe
      simp only [CteEventRow.constraints, Bool.and_eq_false_iff]
      exact Or.inr
        (sameKey_eq_false (fun hSame => hNe hSame.symm))
  have hKept := Table.insertRows_of_free hFree hRows
  rw [← Outcome.pure_eq_ok.mp hInsert,
    Table.insertRows_append hRows, hKept]

/- Writing a well-formed plan leaves its rows. -/
theorem writePlan_effect
    {sha256Hex : String → String}
    (hPlan :
      plan.WellFormed sha256Hex tenantId previousChainHash
        nextSequence existing)
    (hKeys :
      ∀ row ∈ plan.eventRows, ∀ key,
        row.idempotencyKey = some key →
          db.findCteByKey tenantId key = none)
    (hWrite :
      writePlan db tenantId prepared plan =
        .ok (results, db')) :
    results = plan.results ∧
      db' = applyPlan db tenantId plan := by
  unfold writePlan at hWrite
  rcases Outcome.bind_eq_ok.mp hWrite with
    ⟨inserted, hInsert, hWrite⟩
  rw [insertEventRows_eq hPlan hKeys hInsert] at hWrite
  have hLost :
      plan.eventRows.filter (fun row =>
          !(plan.eventRows.map CteEventRow.id).contains
            row.id) = [] := by
    rw [List.filter_eq_nil_iff]
    intro row hRow
    simpa using ⟨row, hRow, rfl⟩
  have hAlerts :
      plan.alertRows.filter (fun entry =>
          (plan.eventRows.map CteEventRow.id).contains
            entry.1) =
        plan.alertRows := by
    rw [List.filter_eq_self]
    intro alert hAlert
    rcases hPlan.alertRefs alert hAlert with ⟨event, hMem, hId⟩
    simpa using ⟨event, hMem, hId⟩
  simp only [hLost, hAlerts, List.filterMap_nil,
    List.isEmpty_nil, if_true] at hWrite
  rcases Outcome.bind_eq_ok.mp hWrite with
    ⟨withKdes, hKdes, hWrite⟩
  rcases Outcome.bind_eq_ok.mp hWrite with
    ⟨withChain, hChain, hWrite⟩
  have hKdesDb := (Db.foldlM_insertCteKde_ok hKdes).2
  rw [hKdesDb] at hChain
  have hChainDb :=
    foldlM_insertGuardedChainEntry (by
      intro row hRow
      have hEntry :
          chainEntry row ∈ legacyEntries plan.eventRows := by
        rw [← hPlan.chained]
        exact List.mem_map_of_mem hRow
      rcases List.mem_map.mp hEntry with ⟨event, hMem, hEq⟩
      have hEvent := (List.mem_filter.mp hMem).1
      refine ⟨event, by simp [hEvent], ?_, ?_⟩
      · exact congrArg Prod.fst hEq
      · rw [hPlan.tenant event hEvent,
          hPlan.chainTenant row hRow]) hChain
  have hPair := Outcome.pure_eq_ok.mp hWrite
  rw [hChainDb, Db.foldl_insertComplianceAlert_eq (by
    intro row hRow
    rcases List.mem_map.mp hRow with ⟨alert, hAlert, hEq⟩
    rcases hPlan.alertRefs alert hAlert with ⟨event, hMem, hId⟩
    rw [← hEq]
    simp only [Db.hasCteEvent, alertInsertParams,
      List.any_append, Bool.or_eq_true]
    right
    rw [List.any_eq_true]
    exact ⟨event, hMem, by simp [hId]⟩)] at hPair
  simp only [Prod.mk.injEq] at hPair
  exact ⟨hPair.1.symm, hPair.2.symm⟩

/- What a batch of the legacy store comes to. -/
theorem storeEventsBatch_cases
    (hStore :
      storeEventsBatch rt now tenantId source events db =
        .ok (results, db')) :
    ∃ prepared plan,
      events.mapM (fun event =>
          prepareEvent rt now source event.1 event.2) =
        .ok prepared ∧
      planBatch rt now tenantId source db
          (chainStart db tenantId).1 (chainStart db tenantId).2
          (existingMap db tenantId
            (prepared.map Prepared.idempKey))
          prepared =
        .ok plan ∧
      (∃ out,
        Table.insertRows CteEventRow.constraints db.cteEvents
          plan.eventRows = .ok out) ∧
      results = plan.results ∧
      db' = applyPlan db tenantId plan := by
  unfold storeEventsBatch at hStore
  cases events with
  | nil =>
      simp only [List.isEmpty_nil, if_true, Except.ok.injEq,
        Prod.mk.injEq] at hStore
      refine ⟨[], BatchPlan.empty, rfl, rfl, ⟨_, rfl⟩,
        hStore.1.symm, ?_⟩
      rw [applyPlan_empty, hStore.2]
  | cons event rest =>
      simp only [List.isEmpty_cons, Bool.false_eq_true,
        if_false] at hStore
      rcases Outcome.bind_eq_ok.mp hStore with
        ⟨prepared, hPrepared, hStore⟩
      rcases Outcome.bind_eq_ok.mp hStore with
        ⟨plan, hPlan, hStore⟩
      have hEffect :=
        writePlan_effect (planBatch_wellFormed hPlan) (by
          intro row hRow key hKey
          rcases planBatch_keys hPlan row hRow with
            ⟨p, hMem, hRowKey⟩
          rcases (planBatch_wellFormed hPlan).fresh row hRow with
            ⟨key', hKey', hNone⟩
          have hSame : key' = key := by simp_all
          have hIn : key ∈ prepared.map Prepared.idempKey := by
            rw [List.mem_map]
            exact ⟨p, hMem, by simp_all⟩
          rw [hSame, existingMap_find db tenantId hIn] at hNone
          simpa using hNone) hStore
      rcases Outcome.bind_eq_ok.mp hStore with
        ⟨inserted, hInsert, -⟩
      rcases Outcome.bind_eq_ok.mp hInsert with ⟨out, hRows, -⟩
      exact ⟨prepared, plan, hPrepared, hPlan, ⟨out, hRows⟩,
        hEffect⟩

--------
-- Results And Rows
--------

/- A result names the tenant's row under the key of its event. -/
def StoreResult.Names
    (tenantId : Uuid)
    (db : Db)
    (p : Prepared)
    (result : StoreResult) : Prop :=
  ∃ row ∈ db.cteEvents,
    row.id = result.eventId ∧ row.tenantId = tenantId ∧
      row.idempotencyKey = some p.idempKey

/-
  A row that is new stands for one of the events: a result
  names it, and its status is that of the event.
-/
def StandsFor
    (prepared : List Prepared)
    (results : List StoreResult)
    (row : CteEventRow) : Prop :=
  ∃ p ∈ prepared, ∃ result ∈ results,
    result.eventId = row.id ∧
      row.validationStatus =
        deriveValidationStatus p.payload.alerts
          p.payload.validatorResults

/- A row of later events stands for one of all events. -/
theorem StandsFor.cons
    {row : CteEventRow}
    (hRow : StandsFor prepared results row)
    (p : Prepared)
    (result : StoreResult) :
    StandsFor (p :: prepared) (result :: results) row := by
  rcases hRow with ⟨q, hMem, other, hOther, hRest⟩
  exact ⟨q, by simp [hMem], other, by simp [hOther], hRest⟩

/- The stored event under the key of an event, or its row. -/
def Found
    (existing : ExistingMap)
    (rows : List CteEventRow)
    (p : Prepared)
    (result : StoreResult) : Prop :=
  (∃ stored,
      existing.find p.idempKey = some stored ∧
        result.eventId = stored.eventId) ∨
    ∃ row ∈ rows,
      row.idempotencyKey = some p.idempKey ∧
        row.id = result.eventId

/- A key of the longer map is the new one or an older one. -/
theorem ExistingMap.find_append_eq_some
    {stored found : Stored}
    (hFind :
      ExistingMap.find (existing ++ [(key, stored)]) later =
        some found) :
    existing.find later = some found ∨
      (key = later ∧ stored = found) := by
  unfold ExistingMap.find at hFind ⊢
  rw [List.find?_append] at hFind
  cases hOld : existing.find? (fun entry => entry.1 == later) with
  | some entry =>
      rw [hOld, Option.some_or] at hFind
      exact Or.inl hFind
  | none =>
      rw [hOld, Option.none_or] at hFind
      by_cases hKey : key = later
      · simp only [List.find?_cons, hKey, beq_self_eq_true,
          Option.map_some, Option.some.injEq] at hFind
        exact Or.inr ⟨hKey, hFind⟩
      · simp [hKey] at hFind

/- The results of a plan, event by event, and its rows. -/
theorem planBatch_named
    {db : Db}
    (hPlan :
      planBatch rt now tenantId source db previousChainHash
        nextSequence existing prepared = .ok plan) :
    List.Forall₂ (Found existing plan.eventRows) prepared
        plan.results ∧
      ∀ row ∈ plan.eventRows,
        StandsFor prepared plan.results row := by
  induction prepared generalizing previousChainHash
    nextSequence existing plan with
  | nil =>
      simp only [planBatch, Except.ok.injEq] at hPlan
      simp [← hPlan, BatchPlan.empty]
  | cons p rest ih =>
      rcases planBatch_cons hPlan with
        ⟨stored, later, hFind, hLater, rfl⟩ |
          ⟨quantity, sha256Hash, later, hFind, -, -, -, hLater,
            rfl⟩
      · rcases ih hLater with ⟨hResults, hRows⟩
        refine ⟨List.Forall₂.cons
          (Or.inl ⟨stored, hFind, rfl⟩) hResults, ?_⟩
        intro row hRow
        exact (hRows row hRow).cons p _
      · rcases ih hLater with ⟨hResults, hRows⟩
        rw [BatchPlan.addNew_results,
          BatchPlan.addNew_eventRows]
        constructor
        · refine List.Forall₂.cons
            (Or.inr ⟨_, List.mem_cons_self, rfl, rfl⟩) ?_
          refine hResults.imp ?_
          intro q result hFound
          rcases hFound with ⟨stored, hKnown, hId⟩ |
            ⟨row, hRow, hBoth⟩
          · rcases ExistingMap.find_append_eq_some hKnown with
              hOld | ⟨hKey, rfl⟩
            · exact Or.inl ⟨stored, hOld, hId⟩
            · -- a key met before in the batch: its own new row
              exact Or.inr ⟨_, List.mem_cons_self,
                congrArg some hKey, hId.symm⟩
          · exact Or.inr
              ⟨row, List.mem_cons_of_mem _ hRow, hBoth⟩
        · intro row hRow
          rcases List.mem_cons.mp hRow with rfl | hOld
          · exact ⟨p, by simp, _, List.mem_cons_self, rfl, rfl⟩
          · exact (hRows row hOld).cons p _

/- Each result of a batch names the row of its event. -/
theorem storeEventsBatch_named
    (hStore :
      storeEventsBatch rt now tenantId source events db =
        .ok (results, db')) :
    ∃ prepared added,
      events.mapM (fun event =>
          prepareEvent rt now source event.1 event.2) =
        .ok prepared ∧
      List.Forall₂ (StoreResult.Names tenantId db') prepared
        results ∧
      db'.cteEvents = db.cteEvents ++ added ∧
      ∀ row ∈ added, StandsFor prepared results row := by
  rcases storeEventsBatch_cases hStore with
    ⟨prepared, plan, hPrepared, hPlan, -, rfl, rfl⟩
  rcases planBatch_named hPlan with ⟨hResults, hRows⟩
  refine ⟨prepared, plan.eventRows, hPrepared, ?_, rfl, hRows⟩
  have hTenant := (planBatch_wellFormed hPlan).tenant
  have hAll :
      ∀ p ∈ prepared, ∀ result,
        Found
            (existingMap db tenantId
              (prepared.map Prepared.idempKey))
            plan.eventRows p result →
          StoreResult.Names tenantId
            (applyPlan db tenantId plan) p result := by
    intro p hMem result hFound
    rcases hFound with ⟨stored, hKnown, hId⟩ |
      ⟨row, hRow, hKey, hId⟩
    · rw [existingMap_find db tenantId
        (List.mem_map_of_mem hMem)] at hKnown
      rcases Option.map_eq_some_iff.mp hKnown with
        ⟨row, hFind, rfl⟩
      have hBoth := List.find?_some hFind
      simp only [Bool.and_eq_true, beq_iff_eq] at hBoth
      exact ⟨row,
        List.mem_append_left _ (List.mem_of_find?_eq_some hFind),
        hId.symm, hBoth⟩
    · exact ⟨row, List.mem_append_right _ hRow, hId,
        hTenant row hRow, hKey⟩
  rw [List.forall₂_iff_get] at hResults ⊢
  refine ⟨hResults.1, ?_⟩
  intro index hLeft hRight
  exact hAll _ (List.get_mem _ _) _
    (hResults.2 index hLeft hRight)

/- The result of a single call names the row of its event. -/
theorem storeEvent_named
    {tenantId eventId : Uuid}
    {payload : CtePayload}
    (hStore :
      storeEvent rt now tenantId source eventId payload db =
        .ok (result, db')) :
    ∃ p added,
      prepareEvent rt now source eventId payload = .ok p ∧
        StoreResult.Names tenantId db' p result ∧
        db'.cteEvents = db.cteEvents ++ added ∧
        ∀ row ∈ added, StandsFor [p] [result] row := by
  rcases storeEvent_cases hStore with
    ⟨p, hPrepare, ⟨existing, hFind, rfl, rfl⟩ |
      ⟨hFind, hNew⟩⟩
  · have hBoth := List.find?_some hFind
    simp only [Bool.and_eq_true, beq_iff_eq] at hBoth
    refine ⟨p, [], hPrepare,
      ⟨existing, List.mem_of_find?_eq_some hFind, rfl, hBoth⟩,
      by simp, by simp⟩
  · rcases storeNewEvent_effect hFind hNew with
      ⟨quantity, sha256Hash, column, -, -, -, -, rfl, rfl⟩
    refine ⟨p, _, hPrepare, ?_, rfl, ?_⟩
    · rw [StoreResult.Names, applyPlan,
        BatchPlan.addNew_eventRows]
      exact ⟨_, List.mem_append_right _ List.mem_cons_self, rfl,
        rfl, rfl⟩
    · rw [BatchPlan.addNew_eventRows]
      intro row hRow
      rw [BatchPlan.empty, List.mem_singleton] at hRow
      rw [hRow]
      exact ⟨p, List.mem_singleton_self p, _,
        List.mem_singleton_self _, rfl, rfl⟩

end CtePersistence

end RegEngine
