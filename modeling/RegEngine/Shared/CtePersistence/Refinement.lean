import RegEngine.Shared.CtePersistence.Effects

/-
  The batch writer of the legacy store against its single
  writer called on the events in turn.

  The batch hashes `str(float(quantity))` where the single
  writer hashes `str(quantity)`, and it stamps every row with
  the clock where the single writer keeps the caller's entry
  time. Where a new event brings neither to bear, both leave
  the same tables.

  Main declarations:
    * `CtePersistence.storeEach`
    * `CtePersistence.newEvents`
    * `CtePersistence.storeEventsBatch_refines_iff`
-/

--------
-- One Event After Another
--------

namespace RegEngine

namespace CtePersistence

/- `store_event` called on the events in turn. -/
def storeEach
    (rt : Runtime)
    (now : Datetime)
    (tenantId : Uuid)
    (source : String) :
    List (Uuid × CtePayload) → Db →
      Except StoreError (List StoreResult × Db)
| [], db => .ok ([], db)
| event :: rest, db => do
    let first ←
      storeEvent rt now tenantId source event.1 event.2 db
    let later ← storeEach rt now tenantId source rest first.2
    return (first.1 :: later.1, later.2)

/- `store_event` on a prepared event. -/
def storePrepared
    (rt : Runtime)
    (now : Datetime)
    (tenantId : Uuid)
    (source : String)
    (p : Prepared)
    (db : Db) :
    Except StoreError (StoreResult × Db) :=
  match db.findCteByKey tenantId p.idempKey with
  | some existing => .ok ((storedOf existing).result, db)
  | none => storeNewEvent rt now tenantId source p db

/- Prepared events stored in turn. -/
def storeEachPrepared
    (rt : Runtime)
    (now : Datetime)
    (tenantId : Uuid)
    (source : String) :
    List Prepared → Db →
      Except StoreError (List StoreResult × Db)
| [], db => .ok ([], db)
| p :: rest, db => do
    let first ← storePrepared rt now tenantId source p db
    let later ←
      storeEachPrepared rt now tenantId source rest first.2
    return (first.1 :: later.1, later.2)

variable {now : Datetime} {prepared : List Prepared}
variable {rt : Runtime} {source : String} {tenantId : Uuid}
variable {p : Prepared} {column : Python.Float}
variable {quantity sha256Hash : String} {texts : List String}
variable {nextSequence : Int}
variable {previousChainHash : Option String}
variable {existing : ExistingMap} {db cur : Db}

/- Preparing reads no table, so it may be done beforehand. -/
theorem storeEach_eq
    {events : List (Uuid × CtePayload)}
    (hPrepared :
      events.mapM (fun event =>
          prepareEvent rt now source event.1 event.2) =
        .ok prepared)
    (db : Db) :
    storeEach rt now tenantId source events db =
      storeEachPrepared rt now tenantId source prepared db := by
  induction events generalizing prepared db with
  | nil =>
      rw [List.mapM_nil] at hPrepared
      rw [← Outcome.pure_eq_ok.mp hPrepared]
      rfl
  | cons event rest ih =>
      rw [List.mapM_cons] at hPrepared
      rcases Outcome.bind_eq_ok.mp hPrepared with
        ⟨p, hFirst, hPrepared⟩
      rcases Outcome.bind_eq_ok.mp hPrepared with
        ⟨later, hRest, hPrepared⟩
      rw [← Outcome.pure_eq_ok.mp hPrepared]
      have hOne :
          storeEvent rt now tenantId source event.1 event.2 db =
            storePrepared rt now tenantId source p db := by
        unfold storeEvent storePrepared
        rw [hFirst]
        rfl
      simp only [storeEach, storeEachPrepared, hOne, ih hRest]

/-
  The events of a batch that are stored anew: their keys are
  neither in the table nor met earlier in the batch.
-/
def newEvents
    (db : Db)
    (tenantId : Uuid) :
    List String → List Prepared → List Prepared
| _, [] => []
| met, p :: rest =>
    if p.idempKey ∈ met ∨
        (db.findCteByKey tenantId p.idempKey).isSome then
      newEvents db tenantId met rest
    else
      p :: newEvents db tenantId (p.idempKey :: met) rest

--------
-- The Hashed Text
--------

open Python (Value Dict)

/- The text that the hash of an event is taken of. -/
def payloadText
    (tenantId : Uuid)
    (p : Prepared)
    (quantity : String) :
    Option String :=
  match normalizeForHashing (.dict (p.payload.kdes.filter
      (fun entry => !descriptionKeys.contains entry.1))) with
  | none => none
  | some stableKdes =>
      match p.payload.canonicalEvent with
      | none =>
          some (Python.join "|"
            [p.eventId.text,
              p.eventType.value,
              p.payload.traceabilityLotCode,
              quantity,
              p.payload.unitOfMeasure.getD "",
              Python.orElse p.payload.locationGln "",
              p.eventDt.isoformat,
              Json.dumps stableKdes])
      | some event =>
          if event.tenantId = tenantId then
            some { event with
              eventId := p.eventId }.contentText
          else
            none

/- The hash of an event is the digest of that text. -/
theorem payloadHash_eq_ok
    {quantity sha256Hash : String} :
    payloadHash rt tenantId p.eventId p.payload p.eventType
        quantity p.eventDt.isoformat = .ok sha256Hash ↔
      ∃ text, payloadText tenantId p quantity = some text ∧
        rt.sha256Hex text = sha256Hash := by
  unfold payloadHash payloadText computeEventHash
    computeCanonicalEventHash
  cases normalizeForHashing (.dict (p.payload.kdes.filter
      (fun entry => !descriptionKeys.contains entry.1))) with
  | none => simp [bind, Except.bind]
  | some stableKdes =>
      cases p.payload.canonicalEvent with
      | none => simp [bind, Except.bind]
      | some event =>
          by_cases hTenant : event.tenantId = tenantId <;>
            simp [bind, Except.bind, hTenant,
              TraceabilityEvent.computeSha256Hash]

/- The text opens with the event's id. -/
theorem take_payloadText
    {quantity text : String}
    (hText : payloadText tenantId p quantity = some text) :
    text.toList.take 36 = p.eventId.text.toList := by
  have hTake :
      ∀ rest : List Char,
        (p.eventId.text.toList ++ rest).take 36 =
          p.eventId.text.toList := by
    intro rest
    rw [← p.eventId.length_toList, List.take_left]
  unfold payloadText at hText
  split at hText
  · simp at hText
  · split at hText
    · rw [← Option.some.inj hText]
      simp only [Python.join, String.toList_append,
        List.append_assoc]
      exact hTake _
    · split at hText
      · rw [← Option.some.inj hText]
        simp only [TraceabilityEvent.contentText, Python.join,
          String.toList_append, List.append_assoc]
        exact hTake _
      · simp at hText

/- Without a canonical event the text tells the quantity. -/
theorem payloadText_quantity
    {quantity quantity' text : String}
    (hText : payloadText tenantId p quantity = some text)
    (hText' : payloadText tenantId p quantity' = some text) :
    p.payload.canonicalEvent.isSome = true ∨
      quantity = quantity' := by
  unfold payloadText at hText hText'
  cases hKdes : normalizeForHashing (.dict
      (p.payload.kdes.filter (fun entry =>
        !descriptionKeys.contains entry.1))) with
  | none =>
      rw [hKdes] at hText
      simp at hText
  | some stableKdes =>
      cases hEvent : p.payload.canonicalEvent with
      | some event => exact Or.inl rfl
      | none =>
          simp only [hKdes, hEvent, Option.some.injEq]
            at hText hText'
          have hSame := congrArg String.toList
            (hText.trans hText'.symm)
          simp only [Python.join, String.toList_append,
            List.append_assoc, List.append_cancel_left_eq]
            at hSame
          exact Or.inr (String.toList_inj.mp
            (List.append_cancel_right hSame))

/- A canonical event's text does not depend on the quantity. -/
theorem payloadText_of_canonicalEvent
    (hEvent : p.payload.canonicalEvent.isSome = true)
    (quantity quantity' : String) :
    payloadText tenantId p quantity =
      payloadText tenantId p quantity' := by
  unfold payloadText
  cases hCases : p.payload.canonicalEvent with
  | none => simp [hCases] at hEvent
  | some event => rfl

theorem quantityText_of_floatOf
    {quantity : Value}
    (hFloat : rt.floatOf quantity = some column) :
    ∃ text, quantityText quantity = some text := by
  cases quantity with
  | list items => simp [rt.floatOf_list] at hFloat
  | dict entries => simp [rt.floatOf_dict] at hFloat
  | bool value => cases value <;> exact ⟨_, rfl⟩
  | _ => exact ⟨_, rfl⟩

/- The quantities that the batch takes are numbers. -/
theorem batchQuantity_eq_ok
    {quantity : Value}
    (hQuantity : batchQuantity rt quantity = .ok column) :
    rt.floatOf quantity = some column := by
  unfold batchQuantity at hQuantity
  split at hQuantity
  · simp at hQuantity
  · split at hQuantity
    · simp at hQuantity
    · rename_i value hFloat
      split at hQuantity
      · simp at hQuantity
      · rw [hFloat, Except.ok.inj hQuantity]

--------
-- Agreement On One Event
--------

/-
  An event on which the two writers agree: the entry time is
  left out or is the clock, and the quantity prints as the
  float it is read as, or the hash is that of a canonical
  event.
-/
structure Agrees
    (rt : Runtime)
    (now : Datetime)
    (p : Prepared) : Prop where
  entry : (p.entryDt.getD now).instant = now.instant
  quantity :
    p.payload.canonicalEvent.isSome = true ∨
      quantityText p.payload.quantity =
        (rt.floatOf p.payload.quantity).map Python.Float.repr

/- The texts that either writer may hash for an event. -/
def hashedTexts
    (rt : Runtime)
    (tenantId : Uuid)
    (p : Prepared) :
    List String :=
  [quantityText p.payload.quantity,
    (rt.floatOf p.payload.quantity).map
      Python.Float.repr].filterMap
        (fun quantity => quantity.bind (payloadText tenantId p))

/- No two of the texts have one digest. -/
def DigestsDiffer
    (rt : Runtime)
    (texts : List String) : Prop :=
  ∀ text ∈ texts, ∀ other ∈ texts,
    rt.sha256Hex text = rt.sha256Hex other → text = other

/- The text that the single writer hashes. -/
theorem mem_hashedTexts_single
    {quantity text : String}
    (hQuantity : quantityText p.payload.quantity = some quantity)
    (hText : payloadText tenantId p quantity = some text) :
    text ∈ hashedTexts rt tenantId p := by
  simp [hashedTexts, hQuantity, hText]

/- The text that the batch writer hashes. -/
theorem mem_hashedTexts_batch
    {text : String}
    (hColumn : rt.floatOf p.payload.quantity = some column)
    (hText : payloadText tenantId p column.repr = some text) :
    text ∈ hashedTexts rt tenantId p := by
  unfold hashedTexts
  rw [List.mem_filterMap]
  exact ⟨some column.repr, by simp [hColumn], hText⟩

/- Where the writers agree, they take one hash. -/
theorem Agrees.payloadHash_eq
    (hAgrees : Agrees rt now p)
    (hColumn : rt.floatOf p.payload.quantity = some column)
    (hQuantity : quantityText p.payload.quantity = some quantity)
    (hHash :
      payloadHash rt tenantId p.eventId p.payload p.eventType
        column.repr p.eventDt.isoformat = .ok sha256Hash) :
    payloadHash rt tenantId p.eventId p.payload p.eventType
      quantity p.eventDt.isoformat = .ok sha256Hash := by
  rcases hAgrees.quantity with hEvent | hSame
  · rw [payloadHash_eq_ok] at hHash ⊢
    rw [payloadText_of_canonicalEvent hEvent quantity
      column.repr]
    exact hHash
  · rw [hQuantity, hColumn, Option.map_some,
      Option.some.injEq] at hSame
    rw [hSame]
    exact hHash

/- Writers that take one hash of an event agree on it. -/
theorem agrees_of_payloadHash
    (hDiffer : DigestsDiffer rt texts)
    (hTexts : ∀ text ∈ hashedTexts rt tenantId p, text ∈ texts)
    (hEntry : (p.entryDt.getD now).instant = now.instant)
    (hColumn : rt.floatOf p.payload.quantity = some column)
    (hQuantity : quantityText p.payload.quantity = some quantity)
    (hBatch :
      payloadHash rt tenantId p.eventId p.payload p.eventType
        column.repr p.eventDt.isoformat = .ok sha256Hash)
    (hSingle :
      payloadHash rt tenantId p.eventId p.payload p.eventType
        quantity p.eventDt.isoformat = .ok sha256Hash) :
    Agrees rt now p := by
  refine ⟨hEntry, ?_⟩
  rcases payloadHash_eq_ok.mp hBatch with
    ⟨text, hText, hDigest⟩
  rcases payloadHash_eq_ok.mp hSingle with
    ⟨text', hText', hDigest'⟩
  have hSame : text' = text :=
    hDiffer text' (hTexts text'
        (mem_hashedTexts_single hQuantity hText'))
      text (hTexts text (mem_hashedTexts_batch hColumn hText))
      (hDigest'.trans hDigest.symm)
  rw [hSame] at hText'
  rcases payloadText_quantity hText' hText with hEvent | hEq
  · exact Or.inl hEvent
  · rw [hQuantity, hColumn, Option.map_some, hEq]
    exact Or.inr rfl

--------
-- The Single Writer Returns
--------

open Ledger (chainStart_congr insertChainEntry_of_start
  chainStart_append)

/- The rows of an accepted event can be written. -/
theorem writeAccepted_returns
    {db : Db}
    {eventRow : CteEventRow}
    {entry : HashChainRow}
    (hId : eventRow.id = p.eventId)
    (hTenant : eventRow.tenantId = tenantId)
    (hEntryId : entry.cteEventId = p.eventId)
    (hEntryTenant : entry.tenantId = tenantId)
    (hSeq : entry.sequenceNum = (chainStart db tenantId).2) :
    ∃ db',
      writeAccepted
          { db with cteEvents := db.cteEvents ++ [eventRow] }
          tenantId p entry =
        .ok db' := by
  unfold writeAccepted
  have hRefs :
      ∀ row ∈ kdeRows tenantId p.eventId p.payload.kdes,
        Db.hasCteEvent
            { db with cteEvents := db.cteEvents ++ [eventRow] }
            row.cteEventId =
          true := by
    intro row hRow
    rcases List.mem_map.mp hRow with ⟨kde, -, hKde⟩
    rw [← hKde]
    simp [Db.hasCteEvent, hId]
  rw [Db.foldlM_insertCteKde_eq hRefs]
  simp only [bind, Except.bind]
  unfold insertGuardedChainEntry
  rw [if_pos (by
    rw [List.any_eq_true]
    exact ⟨eventRow, by simp, by
      simp [hId, hTenant, hEntryId, hEntryTenant]⟩)]
  rw [insertChainEntry_of_start (by
    rw [hEntryTenant, hSeq]
    exact congrArg Prod.snd (chainStart_congr rfl tenantId))]
  exact ⟨_, rfl⟩

/- A new event whose row can be inserted is stored. -/
theorem storeNewEvent_returns
    {db : Db}
    {inserted : List CteEventRow × Bool}
    (hFind : db.findCteByKey tenantId p.idempKey = none)
    (hQuantity : quantityText p.payload.quantity = some quantity)
    (hHash :
      payloadHash rt tenantId p.eventId p.payload p.eventType
        quantity p.eventDt.isoformat = .ok sha256Hash)
    (hFresh : assertNotExists db tenantId sha256Hash = .ok ())
    (hColumn : rt.floatOf p.payload.quantity = some column)
    (hInsert :
      Table.insertRow CteEventRow.constraints db.cteEvents
          (cteEventRow tenantId source p column
            (p.entryDt.getD now).instant sha256Hash
            (computeChainHash rt.sha256Hex sha256Hash
              (chainStart db tenantId).1)
            (deriveValidationStatus p.payload.alerts
              p.payload.validatorResults)) =
        .ok inserted) :
    ∃ out,
      storeNewEvent rt now tenantId source p db = .ok out := by
  have hRow := Table.insertRow_cases hInsert
  rw [Db.conflict_of_findCteByKey rfl hFind] at hRow
  rcases hRow with ⟨-, hConflict, -⟩ | ⟨hLanded, -, -, hTable⟩
  · simp at hConflict
  · unfold storeNewEvent Db.insertCteEvent
    simp only [hQuantity, hHash, hFresh, hColumn, hInsert,
      hTable, Outcome.ofOption, bind, Except.bind, pure,
      Except.pure]
    split
    · exact ⟨_, rfl⟩
    · have hAccepted :
          ∃ written,
            writeAccepted
                { db with
                  cteEvents :=
                    db.cteEvents ++
                      [cteEventRow tenantId source p column
                        (p.entryDt.getD now).instant sha256Hash
                        (computeChainHash rt.sha256Hex
                          sha256Hash (chainStart db tenantId).1)
                        (deriveValidationStatus p.payload.alerts
                          p.payload.validatorResults)] }
                tenantId p
                (chainRow tenantId p (chainStart db tenantId).2
                  sha256Hash (chainStart db tenantId).1
                  (computeChainHash rt.sha256Hex sha256Hash
                    (chainStart db tenantId).1)) =
              .ok written :=
        writeAccepted_returns rfl rfl rfl rfl rfl
      rcases hAccepted with ⟨written, hWrite⟩
      rw [hWrite]
      exact ⟨_, rfl⟩

--------
-- Simulation
--------

open Ledger (chainStart_append chainStart_congr)

/-
  The tables `cur` that the single writer has reached, against
  what the batch carries through its loop: the point of the
  chain, the known keys, and the digests of the rows that were
  added to the tables `db` of the start.
-/
structure Simulates
    (rt : Runtime)
    (tenantId : Uuid)
    (texts : List String)
    (db cur : Db)
    (previousChainHash : Option String)
    (nextSequence : Int)
    (existing : ExistingMap)
    (met : List String)
    (keys : List String) : Prop where
  start :
    chainStart cur tenantId = (previousChainHash, nextSequence)
  known :
    ∀ key ∈ keys,
      existing.find key =
        (cur.findCteByKey tenantId key).map storedOf
  met :
    ∀ key ∈ keys,
      (key ∈ met ∨ (db.findCteByKey tenantId key).isSome) ↔
        (existing.find key).isSome
  hashed :
    ∃ added, cur.cteEvents = db.cteEvents ++ added ∧
      ∀ row ∈ added, ∃ text ∈ texts,
        row.sha256Hash = rt.sha256Hex text ∧
          text.toList.take 36 = row.id.text.toList

/- The rows that the batch plans for one new event. -/
def eventPlan
    (rt : Runtime)
    (now : Datetime)
    (tenantId : Uuid)
    (source : String)
    (previousChainHash : Option String)
    (nextSequence : Int)
    (p : Prepared)
    (column : Python.Float)
    (sha256Hash : String) :
    BatchPlan :=
  BatchPlan.empty.addNew tenantId p
    (cteEventRow tenantId source p column now.instant sha256Hash
      (computeChainHash rt.sha256Hex sha256Hash
        previousChainHash)
      (deriveValidationStatus p.payload.alerts
        p.payload.validatorResults))
    (chainRow tenantId p nextSequence sha256Hash
      previousChainHash
      (computeChainHash rt.sha256Hex sha256Hash
        previousChainHash))
    (insertedResult p sha256Hash
      (computeChainHash rt.sha256Hex sha256Hash
        previousChainHash)
      (deriveValidationStatus p.payload.alerts
        p.payload.validatorResults))

theorem chainStart_eventPlan
    {cur : Db}
    (hStart :
      chainStart cur tenantId =
        (previousChainHash, nextSequence))
    (p : Prepared)
    (column : Python.Float)
    (sha256Hash : String) :
    chainStart
        (applyPlan cur tenantId
          (eventPlan rt now tenantId source previousChainHash
            nextSequence p column sha256Hash))
        tenantId =
      advance
        (deriveValidationStatus p.payload.alerts
          p.payload.validatorResults)
        previousChainHash nextSequence
        (computeChainHash rt.sha256Hex sha256Hash
          previousChainHash) := by
  unfold eventPlan BatchPlan.addNew advance
  by_cases hStatus :
      deriveValidationStatus p.payload.alerts
        p.payload.validatorResults = .rejected
  · simp only [cteEventRow, hStatus, if_true]
    rw [← hStart]
    exact chainStart_congr (by
      simp [applyPlan, BatchPlan.empty]) tenantId
  · simp only [cteEventRow, hStatus, if_false]
    have hAppend :=
      @chainStart_append cur
        (chainRow tenantId p nextSequence sha256Hash
          previousChainHash
          (computeChainHash rt.sha256Hex sha256Hash
            previousChainHash))
        (congrArg Prod.snd hStart).symm
    rw [show (chainRow tenantId p nextSequence sha256Hash
      previousChainHash (computeChainHash rt.sha256Hex sha256Hash
        previousChainHash)).tenantId = tenantId from rfl]
      at hAppend
    exact (chainStart_congr (by
      simp [applyPlan, BatchPlan.empty]) tenantId).trans hAppend

/- The event table after the rows of one event. -/
theorem cteEvents_eventPlan
    (rt : Runtime)
    (now : Datetime)
    (tenantId : Uuid)
    (source : String)
    (cur : Db)
    (previousChainHash : Option String)
    (nextSequence : Int)
    (p : Prepared)
    (column : Python.Float)
    (sha256Hash : String) :
    (applyPlan cur tenantId
        (eventPlan rt now tenantId source previousChainHash
          nextSequence p column sha256Hash)).cteEvents =
      cur.cteEvents ++
        [cteEventRow tenantId source p column now.instant
          sha256Hash
          (computeChainHash rt.sha256Hex sha256Hash
            previousChainHash)
          (deriveValidationStatus p.payload.alerts
            p.payload.validatorResults)] := by
  unfold applyPlan eventPlan
  rw [BatchPlan.addNew_eventRows]
  rfl

/- A key is found before a new row, or it is the row's. -/
theorem findCteByKey_append
    {cur next : Db}
    {row : CteEventRow}
    {tenantId : Uuid}
    {key : String}
    (hTable : next.cteEvents = cur.cteEvents ++ [row])
    (hTenant : row.tenantId = tenantId)
    (hKey : row.idempotencyKey = some key)
    (hFind : cur.findCteByKey tenantId key = none)
    (other : String) :
    next.findCteByKey tenantId other =
      if other = key then some row
      else cur.findCteByKey tenantId other := by
  unfold Db.findCteByKey at *
  rw [hTable, List.find?_append]
  split
  · rename_i hSame
    rw [hSame, hFind]
    simp [hKey, hTenant]
  · rename_i hNe
    rw [List.find?_cons_of_neg (by
      simpa [hKey, hTenant] using fun h => hNe h.symm)]
    simp

variable {key : String} {landed : Bool}
variable {table : List CteEventRow}

/- A map with one more key finds it, or what it found. -/
theorem ExistingMap.find_append
    {stored : Stored}
    (hFind : existing.find key = none)
    (other : String) :
    ExistingMap.find (existing ++ [(key, stored)]) other =
      if other = key then some stored
      else existing.find other := by
  unfold ExistingMap.find at *
  rw [List.find?_append]
  split
  · rename_i hSame
    rw [Option.map_eq_none_iff] at hFind
    rw [hSame, hFind]
    simp
  · rename_i hNe
    rw [List.find?_cons_of_neg (by
      simpa using fun h => hNe h.symm)]
    simp

/- The simulation starts on the tables of the batch. -/
theorem Simulates.start_batch
    (rt : Runtime)
    (tenantId : Uuid)
    (texts : List String)
    (db : Db)
    (keys : List String) :
    Simulates rt tenantId texts db db (chainStart db tenantId).1
      (chainStart db tenantId).2
      (existingMap db tenantId keys) [] keys where
  start := rfl
  known := fun key hKey => existingMap_find db tenantId hKey
  met := by
    intro key hKey
    rw [existingMap_find db tenantId hKey]
    simp
  hashed := ⟨[], by simp, by simp⟩

/- The simulation goes on after a new event. -/
theorem Simulates.addNew
    {rt : Runtime}
    {now : Datetime}
    {tenantId : Uuid}
    {source : String}
    {texts : List String}
    {db cur : Db}
    {previousChainHash : Option String}
    {nextSequence : Int}
    {existing : ExistingMap}
    {met keys : List String}
    {p : Prepared}
    {column : Python.Float}
    {sha256Hash text : String}
    (hSim :
      Simulates rt tenantId texts db cur previousChainHash
        nextSequence existing met (p.idempKey :: keys))
    (hFind : existing.find p.idempKey = none)
    (hText : payloadText tenantId p column.repr = some text)
    (hMem : text ∈ texts)
    (hDigest : rt.sha256Hex text = sha256Hash) :
    Simulates rt tenantId texts db
      (applyPlan cur tenantId
        (eventPlan rt now tenantId source previousChainHash
          nextSequence p column sha256Hash))
      (advance
        (deriveValidationStatus p.payload.alerts
          p.payload.validatorResults)
        previousChainHash nextSequence
        (computeChainHash rt.sha256Hex sha256Hash
          previousChainHash)).1
      (advance
        (deriveValidationStatus p.payload.alerts
          p.payload.validatorResults)
        previousChainHash nextSequence
        (computeChainHash rt.sha256Hex sha256Hash
          previousChainHash)).2
      (existing ++
        [(p.idempKey, ⟨p.eventId, sha256Hash,
          computeChainHash rt.sha256Hex sha256Hash
            previousChainHash⟩)])
      (p.idempKey :: met) keys := by
  have hTable :=
    cteEvents_eventPlan rt now tenantId source cur
      previousChainHash nextSequence p column sha256Hash
  have hNone :
      cur.findCteByKey tenantId p.idempKey = none := by
    have hKnown := hSim.known p.idempKey (by simp)
    rw [hFind] at hKnown
    simpa using hKnown.symm
  refine ⟨chainStart_eventPlan hSim.start p column sha256Hash,
    ?_, ?_, ?_⟩
  · intro key hKey
    rw [ExistingMap.find_append hFind,
      @findCteByKey_append _ _ _ tenantId _ hTable rfl rfl
        hNone]
    split
    · rfl
    · exact hSim.known key (by simp [hKey])
  · intro key hKey
    have hMet := hSim.met key (by simp [hKey])
    rw [ExistingMap.find_append hFind]
    by_cases hSame : key = p.idempKey
    · simp [hSame]
    · simpa [hSame] using hMet
  · rcases hSim.hashed with ⟨added, hCur, hAdded⟩
    refine ⟨added ++ [_], by
      rw [hTable, hCur, List.append_assoc], ?_⟩
    intro row hRow
    rcases List.mem_append.mp hRow with hOld | hNew
    · exact hAdded row hOld
    · rw [List.mem_singleton.mp hNew]
      exact ⟨text, hMem, hDigest.symm, take_payloadText hText⟩

/- The digest of a new event is on no row so far. -/
theorem Simulates.assertNotExists_ok
    {met keys : List String}
    {quantity sha256Hash text : String}
    {row : CteEventRow}
    (hSim :
      Simulates rt tenantId texts db cur previousChainHash
        nextSequence existing met keys)
    (hDiffer : DigestsDiffer rt texts)
    (hText : payloadText tenantId p quantity = some text)
    (hMem : text ∈ texts)
    (hDigest : rt.sha256Hex text = sha256Hash)
    (hId : row.id = p.eventId)
    (hKeys :
      CteEventRow.constraints.violation cur.cteEvents row = none)
    (hFresh : assertNotExists db tenantId sha256Hash = .ok ()) :
    assertNotExists cur tenantId sha256Hash = .ok () := by
  have hDb :
      ∀ other ∈ db.cteEvents,
        ¬ (other.sha256Hash = sha256Hash ∧
          other.tenantId = tenantId) := by
    unfold assertNotExists at hFresh
    split at hFresh
    · simp at hFresh
    · rename_i hNone
      simpa using List.find?_eq_none.mp hNone
  rcases hSim.hashed with ⟨added, hCur, hAdded⟩
  have hAll :
      ∀ other ∈ cur.cteEvents,
        ¬ (other.sha256Hash = sha256Hash ∧
          other.tenantId = tenantId) := by
    intro other hOther
    have hTable := hOther
    rw [hCur] at hTable
    rcases List.mem_append.mp hTable with hOld | hNew
    · exact hDb other hOld
    · rintro ⟨hSha, -⟩
      rcases hAdded other hNew with
        ⟨text', hMem', hSha', hTake'⟩
      have hSame : text' = text :=
        hDiffer text' hMem' text hMem
          (by rw [← hSha', hSha, hDigest])
      -- One text belongs to one id, and ids are not shared.
      rw [hSame, take_payloadText hText,
        String.toList_inj] at hTake'
      have hNe :=
        List.findSome?_eq_none_iff.mp hKeys other hOther
      simp only [CteEventRow.constraints, hId,
        ite_eq_right_iff] at hNe
      have hIds : p.eventId = other.id := by
        cases hP : p.eventId
        cases hO : other.id
        simp_all
      simp at hNe
      exact hNe hIds
  unfold assertNotExists
  have hNone :
      cur.cteEvents.find? (fun other =>
        other.sha256Hash == sha256Hash &&
          other.tenantId == tenantId) = none := by
    rw [List.find?_eq_none]
    simpa using hAll
  rw [hNone]

/- Events stored in turn add their rows at the end. -/
theorem storeEachPrepared_appends
    {db db' : Db}
    {results : List StoreResult}
    (hStore :
      storeEachPrepared rt now tenantId source prepared db =
        .ok (results, db')) :
    ∃ added, db'.cteEvents = db.cteEvents ++ added := by
  induction prepared generalizing db results with
  | nil =>
      simp only [storeEachPrepared, Except.ok.injEq,
        Prod.mk.injEq] at hStore
      exact ⟨[], by rw [← hStore.2, List.append_nil]⟩
  | cons p rest ih =>
      rcases Outcome.bind_eq_ok.mp hStore with
        ⟨⟨first, mid⟩, hFirst, hStore⟩
      rcases Outcome.bind_eq_ok.mp hStore with
        ⟨⟨later, final⟩, hLater, hStore⟩
      have hPair := Outcome.pure_eq_ok.mp hStore
      simp only [Prod.mk.injEq] at hPair
      rcases ih (hPair.2 ▸ hLater) with ⟨added, hAdded⟩
      unfold storePrepared at hFirst
      cases hFind : db.findCteByKey tenantId p.idempKey with
      | some existing =>
          simp only [hFind, Except.ok.injEq,
            Prod.mk.injEq] at hFirst
          exact ⟨added, by rw [hAdded, hFirst.2]⟩
      | none =>
          rw [hFind] at hFirst
          rcases storeNewEvent_effect hFind hFirst with
            ⟨_, _, _, -, -, -, -, -, hDb⟩
          simp only [hDb, applyPlan, List.append_assoc] at hAdded
          exact ⟨_, hAdded⟩

/- What the batch computed for a new event. -/
structure Planned
    (rt : Runtime)
    (tenantId : Uuid)
    (texts : List String)
    (db : Db)
    (p : Prepared)
    (column : Python.Float)
    (sha256Hash : String) : Prop where
  floatOf : rt.floatOf p.payload.quantity = some column
  hash :
    payloadHash rt tenantId p.eventId p.payload p.eventType
      column.repr p.eventDt.isoformat = .ok sha256Hash
  fresh : assertNotExists db tenantId sha256Hash = .ok ()
  texts : ∀ text ∈ hashedTexts rt tenantId p, text ∈ texts

/- The row that the batch writes for a new event. -/
def batchRow
    (rt : Runtime)
    (now : Datetime)
    (tenantId : Uuid)
    (source : String)
    (previousChainHash : Option String)
    (p : Prepared)
    (column : Python.Float)
    (sha256Hash : String) :
    CteEventRow :=
  cteEventRow tenantId source p column now.instant sha256Hash
    (computeChainHash rt.sha256Hex sha256Hash previousChainHash)
    (deriveValidationStatus p.payload.alerts
      p.payload.validatorResults)

/- A row under a new key that can be inserted lands. -/
theorem insertRow_of_findCteByKey
    {cur : Db}
    {row : CteEventRow}
    (hNone : cur.findCteByKey tenantId key = none)
    (hTenant : row.tenantId = tenantId)
    (hKey : row.idempotencyKey = some key)
    (hInsert :
      Table.insertRow CteEventRow.constraints cur.cteEvents row =
        .ok (table, landed)) :
    CteEventRow.constraints.violation cur.cteEvents row = none ∧
      table = cur.cteEvents ++ [row] := by
  have hCases := Table.insertRow_cases hInsert
  rw [← hTenant] at hNone
  rw [Db.conflict_of_findCteByKey hKey hNone] at hCases
  rcases hCases with ⟨-, hConflict, -⟩ | ⟨-, -, hKeys, hTable⟩
  · simp at hConflict
  · exact ⟨hKeys, hTable⟩

/- Where the writers agree, the single one does the same. -/
theorem storePrepared_of_agrees
    {met keys : List String}
    {sha256Hash : String}
    (hSim :
      Simulates rt tenantId texts db cur previousChainHash
        nextSequence existing met (p.idempKey :: keys))
    (hDiffer : DigestsDiffer rt texts)
    (hFind : existing.find p.idempKey = none)
    (hPlanned :
      Planned rt tenantId texts db p column sha256Hash)
    (hInsert :
      Table.insertRow CteEventRow.constraints cur.cteEvents
          (batchRow rt now tenantId source previousChainHash p
            column sha256Hash) =
        .ok (table, landed))
    (hAgrees : Agrees rt now p) :
    storePrepared rt now tenantId source p cur =
      .ok (insertedResult p sha256Hash
          (computeChainHash rt.sha256Hex sha256Hash
            previousChainHash)
          (deriveValidationStatus p.payload.alerts
            p.payload.validatorResults),
        applyPlan cur tenantId
          (eventPlan rt now tenantId source previousChainHash
            nextSequence p column sha256Hash)) := by
  have hNone : cur.findCteByKey tenantId p.idempKey = none := by
    have hKnown := hSim.known p.idempKey (by simp)
    rw [hFind] at hKnown
    simpa using hKnown.symm
  rcases quantityText_of_floatOf hPlanned.floatOf with
    ⟨quantity, hQuantity⟩
  have hHash :=
    hAgrees.payloadHash_eq hPlanned.floatOf hQuantity
      hPlanned.hash
  have hKeys :=
    (insertRow_of_findCteByKey hNone rfl rfl hInsert).1
  rcases payloadHash_eq_ok.mp hPlanned.hash with
    ⟨text, hText, hDigest⟩
  have hFresh :=
    hSim.assertNotExists_ok hDiffer hText
      (hPlanned.texts text
        (mem_hashedTexts_batch hPlanned.floatOf hText))
      hDigest rfl hKeys hPlanned.fresh
  have hStart := hSim.start
  have hReturns :
      ∃ out,
        storeNewEvent rt now tenantId source p cur = .ok out := by
    apply storeNewEvent_returns hNone hQuantity hHash hFresh
      hPlanned.floatOf
    rw [hStart, hAgrees.entry]
    exact hInsert
  rcases hReturns with ⟨⟨result, next⟩, hStore⟩
  unfold storePrepared
  rw [hNone]
  rcases storeNewEvent_effect hNone hStore with
    ⟨quantity', sha', column', hQuantity', hHash', -, hColumn',
      hResult, hDb⟩
  rw [hQuantity, Option.some.injEq] at hQuantity'
  rw [hPlanned.floatOf, Option.some.injEq] at hColumn'
  rw [← hQuantity', hHash, Except.ok.injEq] at hHash'
  rw [hStart, ← hHash'] at hResult
  rw [hStart, ← hHash', ← hColumn', hAgrees.entry, hResult] at hDb
  simp only [hStore, hResult, hDb, eventPlan]

/- A single writer that leaves the batch's row agrees. -/
theorem agrees_of_storePrepared
    {db cur next : Db}
    {sha256Hash : String}
    {result : StoreResult}
    {added rest : List CteEventRow}
    (hDiffer : DigestsDiffer rt texts)
    (hNone : cur.findCteByKey tenantId p.idempKey = none)
    (hPlanned :
      Planned rt tenantId texts db p column sha256Hash)
    (hStore :
      storePrepared rt now tenantId source p cur =
        .ok (result, next))
    (hRows :
      next.cteEvents ++ added =
        cur.cteEvents ++
          batchRow rt now tenantId source previousChainHash p
            column sha256Hash :: rest) :
    Agrees rt now p := by
  unfold storePrepared at hStore
  rw [hNone] at hStore
  rcases storeNewEvent_effect hNone hStore with
    ⟨quantity, sha', column', hQuantity, hHash, -, hColumn, -,
      hDb⟩
  simp only [hDb, applyPlan, BatchPlan.addNew_eventRows,
    BatchPlan.empty, List.append_assoc, List.cons_append,
    List.append_cancel_left_eq, List.cons.injEq] at hRows
  have hSha : sha' = sha256Hash :=
    congrArg CteEventRow.sha256Hash hRows.1
  have hEntry :
      some (p.entryDt.getD now).instant = some now.instant :=
    congrArg CteEventRow.eventEntryTimestamp hRows.1
  rw [hSha] at hHash
  exact agrees_of_payloadHash hDiffer hPlanned.texts
    (Option.some.inj hEntry) hPlanned.floatOf hQuantity
    hPlanned.hash hHash

/- What a result reports of the call. -/
def StoreResult.flags (result : StoreResult) : Bool × Bool :=
  (result.success, result.idempotent)

/-
  The single writer, called on the prepared events in turn,
  reaches the tables `final` and reports as `reported` does.
-/
def ReachesEach
    (rt : Runtime)
    (now : Datetime)
    (tenantId : Uuid)
    (source : String)
    (prepared : List Prepared)
    (cur final : Db)
    (reported : List StoreResult) : Prop :=
  ∃ results,
    storeEachPrepared rt now tenantId source prepared cur =
        .ok (results, final) ∧
      results.map StoreResult.flags =
        reported.map StoreResult.flags

/- The first event of a list, and the rest after it. -/
theorem reachesEach_cons
    {p : Prepared}
    {rest : List Prepared}
    {cur mid final : Db}
    {result : StoreResult}
    {reported : List StoreResult}
    (hStore :
      storePrepared rt now tenantId source p cur =
        .ok (result, mid)) :
    ReachesEach rt now tenantId source (p :: rest) cur final
        (result :: reported) ↔
      ReachesEach rt now tenantId source rest mid final
        reported := by
  unfold ReachesEach
  constructor
  · rintro ⟨results, hEach, hFlags⟩
    rcases Outcome.bind_eq_ok.mp hEach with
      ⟨first, hFirst, hEach⟩
    rw [hStore, Except.ok.injEq] at hFirst
    rcases Outcome.bind_eq_ok.mp hEach with
      ⟨later, hLater, hEach⟩
    have hPair := Outcome.pure_eq_ok.mp hEach
    simp only [Prod.mk.injEq] at hPair
    rw [← hPair.1] at hFlags
    simp only [List.map_cons, List.cons.injEq] at hFlags
    refine ⟨later.1, ?_, hFlags.2⟩
    rw [← hFirst] at hLater
    rw [hLater, ← hPair.2]
  · rintro ⟨later, hLater, hFlags⟩
    refine ⟨result :: later, ?_, by simp [hFlags]⟩
    simp only [storeEachPrepared, hStore, hLater, bind,
      Except.bind, pure, Except.pure]

/- The simulation looks at fewer keys. -/
theorem Simulates.tail
    {met keys : List String}
    {key : String}
    (hSim :
      Simulates rt tenantId texts db cur previousChainHash
        nextSequence existing met (key :: keys)) :
    Simulates rt tenantId texts db cur previousChainHash
      nextSequence existing met keys where
  start := hSim.start
  known := fun other hOther =>
    hSim.known other (List.mem_cons_of_mem key hOther)
  met := fun other hOther =>
    hSim.met other (List.mem_cons_of_mem key hOther)
  hashed := hSim.hashed

/-
  From simulated tables the single writer leaves the rows of
  the batch's plan exactly when it agrees on the new events.
-/
theorem reachesEach_applyPlan_iff
    {met : List String}
    {plan : BatchPlan}
    {out : List CteEventRow × List CteEventRow}
    (hDiffer : DigestsDiffer rt texts)
    (hTexts :
      ∀ p ∈ prepared, ∀ text ∈ hashedTexts rt tenantId p,
        text ∈ texts)
    (hSim :
      Simulates rt tenantId texts db cur previousChainHash
        nextSequence existing met
        (prepared.map Prepared.idempKey))
    (hPlan :
      planBatch rt now tenantId source db previousChainHash
        nextSequence existing prepared = .ok plan)
    (hRows :
      Table.insertRows CteEventRow.constraints cur.cteEvents
        plan.eventRows = .ok out) :
    ReachesEach rt now tenantId source prepared cur
        (applyPlan cur tenantId plan) plan.results ↔
      ∀ p ∈ newEvents db tenantId met prepared,
        Agrees rt now p := by
  induction prepared generalizing cur previousChainHash
    nextSequence existing met plan out with
  | nil =>
      simp only [planBatch, Except.ok.injEq] at hPlan
      rw [← hPlan, applyPlan_empty]
      exact ⟨fun _ => by simp [newEvents],
        fun _ => ⟨[], rfl, rfl⟩⟩
  | cons p rest ih =>
      have hMet := hSim.met p.idempKey (by simp)
      have hKnown := hSim.known p.idempKey (by simp)
      have hRest :
          ∀ q ∈ rest, ∀ text ∈ hashedTexts rt tenantId q,
            text ∈ texts :=
        fun q hq => hTexts q (List.mem_cons_of_mem p hq)
      rcases planBatch_cons hPlan with
        ⟨stored, later, hFind, hLater, hEq⟩ |
          ⟨column, sha256Hash, later, hFind, hQuantity, hHash,
            hFresh, hLater, hEq⟩
      · -- The event is stored, or met earlier in the batch.
        rw [hFind] at hKnown hMet
        rcases Option.map_eq_some_iff.mp hKnown.symm with
          ⟨row, hRow, hStored⟩
        have hStep :
            storePrepared rt now tenantId source p cur =
              .ok (stored.result, cur) := by
          unfold storePrepared
          rw [hRow, ← hStored]
        rw [newEvents, if_pos (hMet.mpr rfl), hEq]
        rw [hEq] at hRows
        exact (reachesEach_cons hStep).trans
          (ih hRest hSim.tail hLater hRows)
      · rw [hFind] at hKnown hMet
        have hNone :
            cur.findCteByKey tenantId p.idempKey = none := by
          simpa using hKnown.symm
        have hPlanned :
            Planned rt tenantId texts db p column sha256Hash :=
          ⟨batchQuantity_eq_ok hQuantity, hHash, hFresh,
            hTexts p List.mem_cons_self⟩
        rw [newEvents, if_neg (fun h => by simpa using hMet.mp h),
          List.forall_mem_cons]
        rw [hEq, BatchPlan.addNew_eventRows] at hRows
        rcases out with ⟨final, kept⟩
        rcases Table.insertRows_cons hRows with
          ⟨table, landed, kept', hInsert, hLaterRows, -⟩
        have hStep :=
          storePrepared_of_agrees hSim hDiffer hFind hPlanned
            hInsert
        rcases payloadHash_eq_ok.mp hHash with
          ⟨text, hText, hDigest⟩
        have hNext :=
          @Simulates.addNew rt now tenantId source texts db cur
            previousChainHash nextSequence existing met _ p
            column sha256Hash text hSim hFind hText
            (hPlanned.texts text
              (mem_hashedTexts_batch hPlanned.floatOf hText))
            hDigest
        have hTable :
            table =
              (applyPlan cur tenantId
                (eventPlan rt now tenantId source
                  previousChainHash nextSequence p column
                  sha256Hash)).cteEvents := by
          rw [cteEvents_eventPlan]
          exact (insertRow_of_findCteByKey hNone rfl rfl
            hInsert).2
        rw [hTable] at hLaterRows
        have hIh := ih hRest hNext hLater hLaterRows
        rw [hEq, applyPlan_addNew, BatchPlan.addNew_results]
        constructor
        · intro hReach
          have hAgrees : Agrees rt now p := by
            rcases hReach with ⟨results, hEach, -⟩
            rcases Outcome.bind_eq_ok.mp hEach with
              ⟨⟨first, mid⟩, hFirst, hEach⟩
            rcases Outcome.bind_eq_ok.mp hEach with
              ⟨⟨others, last⟩, hOthers, hEach⟩
            have hPair := Outcome.pure_eq_ok.mp hEach
            simp only [Prod.mk.injEq] at hPair
            rcases storeEachPrepared_appends hOthers with
              ⟨added, hAdded⟩
            have hTables :
                mid.cteEvents ++ added =
                  cur.cteEvents ++
                    batchRow rt now tenantId source
                        previousChainHash p column sha256Hash ::
                      later.eventRows := by
              rw [← hAdded, hPair.2]
              simp only [applyPlan, BatchPlan.addNew_eventRows,
                BatchPlan.empty, List.append_assoc,
                List.singleton_append]
              rfl
            exact agrees_of_storePrepared hDiffer hNone hPlanned
              hFirst hTables
          exact ⟨hAgrees, hIh.mp
            ((reachesEach_cons (hStep hAgrees)).mp hReach)⟩
        · rintro ⟨hAgrees, hLaterAgree⟩
          exact (reachesEach_cons (hStep hAgrees)).mpr
            (hIh.mpr hLaterAgree)

/-
  A batch that returns leaves the tables, and reports, as the
  single writer does on its events in turn, exactly when the
  two writers agree on the events that are stored anew.
-/
theorem storeEventsBatch_refines_iff
    (rt : Runtime)
    (now : Datetime)
    (tenantId : Uuid)
    (source : String)
    (events : List (Uuid × CtePayload))
    (prepared : List Prepared)
    (db db' : Db)
    (results : List StoreResult)
    (hPrepared :
      events.mapM (fun event =>
          prepareEvent rt now source event.1 event.2) =
        .ok prepared)
    (hDiffer :
      DigestsDiffer rt
        (prepared.flatMap (hashedTexts rt tenantId)))
    (hBatch :
      storeEventsBatch rt now tenantId source events db =
        .ok (results, db')) :
    (∃ singles,
        storeEach rt now tenantId source events db =
            .ok (singles, db') ∧
          singles.map StoreResult.flags =
            results.map StoreResult.flags) ↔
      ∀ p ∈ newEvents db tenantId [] prepared,
        Agrees rt now p := by
  rcases storeEventsBatch_cases hBatch with
    ⟨others, plan, hOthers, hPlan, ⟨out, hRows⟩, hResults, hDb⟩
  rw [hPrepared, Except.ok.injEq] at hOthers
  rw [← hOthers] at hPlan
  rw [storeEach_eq hPrepared, hResults, hDb]
  refine reachesEach_applyPlan_iff hDiffer ?_
    (Simulates.start_batch rt tenantId _ db _) hPlan hRows
  intro p hp text hText
  exact List.mem_flatMap.mpr ⟨p, hp, hText⟩

instance
    (rt : Runtime)
    (now : Datetime)
    (p : Prepared) :
    Decidable (Agrees rt now p) :=
  decidable_of_iff
    ((p.entryDt.getD now).instant = now.instant ∧
      (p.payload.canonicalEvent.isSome = true ∨
        quantityText p.payload.quantity =
          (rt.floatOf p.payload.quantity).map
            Python.Float.repr))
    ⟨fun h => ⟨h.1, h.2⟩, fun h => ⟨h.entry, h.quantity⟩⟩

/- A harvest of one case, entered at a time or at none. -/
def harvestPayload (entry : TimestampArg) : CtePayload where
  eventType := .str "harvesting"
  traceabilityLotCode := "LOT-1"
  productDescription := none
  quantity := .float ⟨"1.0", Python.isFloatRepr_one⟩
  unitOfMeasure := some "cases"
  eventTimestamp := .datetime ⟨⟨2026, 1, 1⟩, 0, 0, Datetime.isValid_first⟩
  locationGln := none
  locationName := none
  kdes := []
  alerts := []
  epcisEventType := none
  epcisAction := none
  epcisBizStep := none
  sourceEventId := none
  eventEntryTimestamp := entry
  validatorResults := []
  canonicalEvent := none

def harvestBatch (entry : TimestampArg) :
    List (Uuid × CtePayload) :=
  [(⟨"00000000-0000-0000-0000-000000000001", isUuidText_one⟩,
    harvestPayload entry)]

/- The tenant, the clock and the digests of the batch. -/
def harvestTenant : Uuid :=
  ⟨"00000000-0000-0000-0000-0000000000aa", isUuidText_aa⟩

def harvestClock : Datetime :=
  ⟨⟨2026, 1, 2⟩, 0, 0, Datetime.isValid_second⟩

def harvestRuntime : Runtime :=
  Runtime.ofDigests
    [("\x7b\"event_type\":\"harvesting\",\"kdes\":\x7b\x7d,\"location_gln\":\"\",\"location_name\":\"\",\"source\":\"csv\",\"timestamp\":\"2026-01-01T00:00:00+00:00\",\"tlc\":\"LOT-1\"\x7d",
        "8344dd465cff88cfc12e349788351ba6ae36e18dd742b29365cfdd45443ff417"),
      ("00000000-0000-0000-0000-000000000001|harvesting|LOT-1|1.0|cases||2026-01-01T00:00:00+00:00|\x7b\x7d",
        "e57c3052b7e406bac36bdc63e81fa9dcc256291bca85bd280cd5f209b6f93427"),
      ("GENESIS|e57c3052b7e406bac36bdc63e81fa9dcc256291bca85bd280cd5f209b6f93427",
        "4c14befd1c5169c7e301490de0dbbebca33055a5879815f68930085819a99328")]

/- Without an entry time the writers leave the same tables. -/
theorem storeEventsBatch_refines_harvestBatch :
    ∃ results db' singles,
      storeEventsBatch harvestRuntime harvestClock harvestTenant
          "csv" (harvestBatch .none) Db.empty =
        .ok (results, db') ∧
      storeEach harvestRuntime harvestClock harvestTenant "csv"
          (harvestBatch .none) Db.empty =
        .ok (singles, db') := by
  have hReturns :
      (storeEventsBatch harvestRuntime harvestClock
        harvestTenant "csv" (harvestBatch .none)
        Db.empty).isOk = true := by
    decide
  have hAgree :
      (match (harvestBatch .none).mapM (fun event =>
          prepareEvent harvestRuntime harvestClock "csv" event.1
            event.2) with
        | .ok prepared =>
            decide
              ((∀ text ∈ prepared.flatMap
                  (hashedTexts harvestRuntime harvestTenant),
                ∀ other ∈ prepared.flatMap
                    (hashedTexts harvestRuntime harvestTenant),
                  harvestRuntime.sha256Hex text =
                      harvestRuntime.sha256Hex other →
                    text = other) ∧
                ∀ p ∈ newEvents Db.empty harvestTenant []
                    prepared,
                  Agrees harvestRuntime harvestClock p)
        | .error _ => false) = true := by
    decide +kernel
  cases hPrepared :
      (harvestBatch .none).mapM (fun event =>
        prepareEvent harvestRuntime harvestClock "csv" event.1
          event.2) with
  | error raised => simp [hPrepared] at hAgree
  | ok prepared =>
      rw [hPrepared] at hAgree
      rcases of_decide_eq_true hAgree with ⟨hDiffer, hAll⟩
      cases hBatch :
          storeEventsBatch harvestRuntime harvestClock
            harvestTenant "csv" (harvestBatch .none)
            Db.empty with
      | error raised =>
          rw [hBatch] at hReturns
          exact Bool.noConfusion hReturns
      | ok out =>
          rcases (storeEventsBatch_refines_iff harvestRuntime
              harvestClock harvestTenant "csv"
              (harvestBatch .none) prepared Db.empty out.2 out.1
              hPrepared hDiffer hBatch).mpr hAll with
            ⟨singles, hEach, -⟩
          exact ⟨out.1, out.2, singles, rfl, hEach⟩

/- The entry time of the caller, half a day before the clock. -/
def entryTime : TimestampArg :=
  .datetime ⟨⟨2026, 1, 1⟩, 43200000000, 0, by decide⟩

/- The batch stores the clock, the single writer the time. -/
theorem storeEventsBatch_drops_entryTime :
    (storeEventsBatch harvestRuntime harvestClock harvestTenant
        "csv" (harvestBatch entryTime)
        Db.empty).toOption.map (fun out =>
          out.2.cteEvents.map CteEventRow.eventEntryTimestamp) =
        some [some harvestClock.instant] ∧
      ¬ ∃ results db' singles,
        storeEventsBatch harvestRuntime harvestClock
            harvestTenant "csv" (harvestBatch entryTime)
            Db.empty =
          .ok (results, db') ∧
        storeEach harvestRuntime harvestClock harvestTenant "csv"
            (harvestBatch entryTime) Db.empty =
          .ok (singles, db') := by
  have hBatchEntry :
      (storeEventsBatch harvestRuntime harvestClock
        harvestTenant "csv" (harvestBatch entryTime)
        Db.empty).toOption.map (fun out =>
          out.2.cteEvents.map CteEventRow.eventEntryTimestamp) =
        some [some harvestClock.instant] := by
    decide
  have hEachEntry :
      (storeEach harvestRuntime harvestClock harvestTenant "csv"
        (harvestBatch entryTime) Db.empty).toOption.map
          (fun out =>
            out.2.cteEvents.map
              CteEventRow.eventEntryTimestamp) =
        some [some (harvestClock.instant - 43200000000)] := by
    decide
  refine ⟨hBatchEntry, ?_⟩
  rintro ⟨results, db', singles, hBatch, hEach⟩
  rw [hBatch] at hBatchEntry
  rw [hEach] at hEachEntry
  simp only [Except.toOption, Option.map_some,
    Option.some.injEq] at hBatchEntry hEachEntry
  rw [hBatchEntry] at hEachEntry
  simp only [List.cons.injEq, Option.some.injEq,
    and_true] at hEachEntry
  omega

end CtePersistence

end RegEngine
