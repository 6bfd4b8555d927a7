import RegEngine.Shared.IdentityResolution.Registration

/-
  Merging entities and reversing a merge
  (`services/shared/identity_resolution/merging.py`).

  Main declarations:
    * `Identity.mergeEntitiesBulk`
    * `Identity.splitEntity`
    * `Identity.call`
-/

--------
-- Merge
--------

namespace RegEngine

namespace Identity

/- `_require_entity` for each participant in turn. -/
def requireEntities
    (s : Identity) : List String → Except IdentityFailure Unit
| [] => .ok ()
| entityId :: rest => do
    requireEntity s entityId
    requireEntities s rest

/- The entities of some ids, made active or inactive. -/
def setActive
    (entities : List CanonicalEntity)
    (entityIds : List String)
    (isActive : Bool) : List CanonicalEntity :=
  entities.map (fun entity =>
    if entity.entityId ∈ entityIds then
      { entity with isActive := isActive }
    else
      entity)

def aliasesOf
    (s : Identity)
    (entityId : String) : List AliasKey :=
  (s.aliases.rows.filter (fun row =>
    row.1 = entityId)).map Prod.snd

/-
  The aliases of the sources go to the target, unless the
  target has them already.
-/
def repointAliases
    (aliases : Owners String AliasKey)
    (sourceEntityIds : List String)
    (targetEntityId : String) : Owners String AliasKey :=
  aliases.reassign (fun entityId key =>
    if entityId ∈ sourceEntityIds ∧
        ¬ aliases.Holds targetEntityId key then
      targetEntityId
    else
      entityId)

/- The aliases the sources still have are deleted. -/
def removeAliases
    (aliases : Owners String AliasKey)
    (sourceEntityIds : List String) :
    Owners String AliasKey :=
  aliases.keep (fun entityId _ =>
    decide (entityId ∉ sourceEntityIds))

/- Pending reviews that touch a source become matches. -/
def closeReviews
    (reviews : List IdentityReview)
    (sourceEntityIds : List String) : List IdentityReview :=
  reviews.map (fun review =>
    if review.status = .pending ∧
        (review.entityAId ∈ sourceEntityIds ∨
          review.entityBId ∈ sourceEntityIds) then
      { review with status := .confirmedMatch }
    else
      review)

/- A new row of `fsma.entity_merge_history`. -/
def recordMerge
    (history : List MergeRecord)
    (performedBy : Option String)
    (record : MergeRecord) :
    Except IdentityFailure (List MergeRecord) :=
  if performedBy = none then
    .error .integrityError
  else if record.mergeId ∈ history.map (·.mergeId) then
    .error .integrityError
  else
    .ok (history ++ [record])

/-
  `merge_entities_bulk`, with the `uuid4` it draws. The
  snapshot is taken under the name that the loop over the
  sources leaves behind: of the last source.
-/
def mergeEntitiesBulk
    (s : Identity)
    (mergeId : String)
    (sourceEntityIds : List String)
    (targetEntityId : String)
    (performedBy : Option String) :
    Except IdentityFailure Identity :=
  match sourceEntityIds.getLast? with
  | none => .error .valueError
  | some sourceEntityId =>
      if ¬ sourceEntityIds.Nodup then
        .error .valueError
      else if targetEntityId ∈ sourceEntityIds then
        .error .valueError
      else do
        requireEntities s (sourceEntityIds ++ [targetEntityId])
        let aliasSnapshot :=
          [(sourceEntityId, s.aliasesOf sourceEntityId)]
        let history ←
          recordMerge s.history performedBy
            { mergeId := mergeId
              action := .merge
              sourceEntityIds := sourceEntityIds
              targetEntityId := targetEntityId
              isReversed := false
              aliasSnapshot := some aliasSnapshot }
        .ok
          { entities :=
              setActive s.entities sourceEntityIds false
            aliases :=
              removeAliases
                (repointAliases s.aliases sourceEntityIds
                  targetEntityId)
                sourceEntityIds
            history := history
            reviews := closeReviews s.reviews sourceEntityIds }

--------
-- Split
--------

/- An alias goes from the target back to a source. -/
def restoreAlias
    (sourceEntityId targetEntityId : String)
    (aliases : Owners String AliasKey)
    (key : AliasKey) : Owners String AliasKey :=
  if key.aliasType = "" ∨ key.aliasValue = "" then
    aliases
  else
    aliases.reassign (fun entityId key' =>
      if entityId = targetEntityId ∧ key' = key then
        sourceEntityId
      else
        entityId)

/- `alias_snapshot.get(src_id, [])`. -/
def snapshotOf
    (snapshot : List (String × List AliasKey))
    (entityId : String) : List AliasKey :=
  (snapshot.lookup entityId).getD []

/- One round of the loop over the sources. -/
def restoreSource
    (snapshot : List (String × List AliasKey))
    (targetEntityId : String)
    (s : Identity)
    (sourceEntityId : String) : Identity :=
  { s with
    entities := setActive s.entities [sourceEntityId] true
    aliases :=
      (snapshotOf snapshot sourceEntityId).foldl
        (restoreAlias sourceEntityId targetEntityId)
        s.aliases }

/- The row of a merge, marked as reversed. -/
def markReversed
    (history : List MergeRecord)
    (mergeId : String) : List MergeRecord :=
  history.map (fun record =>
    if record.mergeId = mergeId then
      { record with isReversed := true }
    else
      record)

/- `split_entity`, with the `uuid4` it draws. -/
def splitEntity
    (s : Identity)
    (splitId : String)
    (mergeId : String)
    (performedBy : Option String) :
    Except IdentityFailure Identity :=
  match s.history.find? (fun record =>
      record.mergeId = mergeId) with
  | none => .error .valueError
  | some record =>
      if record.action ≠ .merge then
        .error .valueError
      else if record.isReversed then
        .error .valueError
      else
        match record.aliasSnapshot with
        | none => .error .valueError
        | some snapshot => do
            let restored :=
              record.sourceEntityIds.foldl
                (restoreSource snapshot record.targetEntityId)
                s
            let history ←
              recordMerge (markReversed s.history mergeId)
                performedBy
                { mergeId := splitId
                  action := .split
                  sourceEntityIds := record.sourceEntityIds
                  targetEntityId := record.targetEntityId
                  isReversed := false
                  aliasSnapshot := none }
            .ok { restored with history := history }

end Identity

end RegEngine

--------
-- Operations
--------

namespace RegEngine

/- The operations on the identity tables. -/
inductive IdentityOp where
  | registerEntity
      (entityId : String)
      (registration : Registration)
  | addAlias (entityId aliasType aliasValue : String)
  | mergeEntitiesBulk
      (mergeId : String)
      (sourceEntityIds : List String)
      (targetEntityId : String)
      (performedBy : Option String)
  | splitEntity
      (splitId mergeId : String)
      (performedBy : Option String)
  deriving DecidableEq, Repr

namespace Identity

def call
    (lower : String → String)
    (s : Identity) :
    IdentityOp → Except IdentityFailure Identity
| .registerEntity entityId registration =>
    registerEntity lower s entityId registration
| .addAlias entityId aliasType aliasValue =>
    addAlias lower s entityId aliasType aliasValue
| .mergeEntitiesBulk mergeId sources target performedBy =>
    mergeEntitiesBulk s mergeId sources target performedBy
| .splitEntity splitId mergeId performedBy =>
    splitEntity s splitId mergeId performedBy

--------
-- What A Merge Does
--------

section

variable {s s' : Identity}

/- The aliases of an entity are those it holds. -/
theorem mem_aliasesOf
    {entityId : String}
    {key : AliasKey} :
    key ∈ s.aliasesOf entityId ↔
      s.aliases.Holds entityId key := by
  simp [aliasesOf, Owners.Holds]

variable {entityIds : List String}
variable {aliases : Owners String AliasKey} {key : AliasKey}
variable {sourceEntityIds : List String}
variable {performedBy : Option String}

/- All participants are there when none of them is missing. -/
theorem requireEntities_eq_ok
    {u : Unit}
    (hRequire : requireEntities s entityIds = .ok u) :
    ∀ entityId ∈ entityIds, s.Exists entityId := by
  induction entityIds with
  | nil => simp
  | cons entityId rest ih =>
      rcases Outcome.bind_eq_ok.mp hRequire with
        ⟨u', hFirst, hRest⟩
      unfold requireEntity at hFirst
      split at hFirst
      · rename_i hExists
        intro other hOther
        rcases List.mem_cons.mp hOther with rfl | hOther
        · exact hExists
        · exact ih hRest other hOther
      · cases hFirst

variable {isActive : Bool} {mergeId targetEntityId : String}
variable {source target owner : String}

/- An entity is made active or inactive by its id. -/
theorem active_setActive
    {entityId : String}
    (hEntities :
      s'.entities = setActive s.entities entityIds isActive) :
    s'.Active entityId ↔
      if entityId ∈ entityIds then
        isActive = true ∧ s.Exists entityId
      else
        s.Active entityId := by
  simp only [Active, Exists, hEntities, setActive, List.mem_map]
  constructor
  · rintro ⟨entity, ⟨before, hMem, rfl⟩, hId, hActive⟩
    by_cases hIn : before.entityId ∈ entityIds
    · rw [if_pos hIn] at hId hActive
      rw [← hId, if_pos hIn]
      exact ⟨hActive, before, hMem, rfl⟩
    · rw [if_neg hIn] at hId hActive
      rw [← hId, if_neg hIn]
      exact ⟨before, hMem, rfl, hActive⟩
  · by_cases hIn : entityId ∈ entityIds
    · rw [if_pos hIn]
      rintro ⟨hActive, before, hMem, rfl⟩
      refine ⟨_, ⟨before, hMem, rfl⟩, ?_, ?_⟩
      · rw [if_pos hIn]
      · rw [if_pos hIn]
        exact hActive
    · rw [if_neg hIn]
      rintro ⟨before, hMem, rfl, hActive⟩
      refine ⟨_, ⟨before, hMem, rfl⟩, ?_, ?_⟩
      · rw [if_neg hIn]
      · rw [if_neg hIn]
        exact hActive

/- No entity is lost or added. -/
theorem exists_setActive
    {entityId : String}
    (hEntities :
      s'.entities = setActive s.entities entityIds isActive) :
    s'.Exists entityId ↔ s.Exists entityId := by
  simp only [Exists, hEntities, setActive, List.mem_map]
  constructor
  · rintro ⟨entity, ⟨before, hMem, rfl⟩, rfl⟩
    refine ⟨before, hMem, ?_⟩
    split <;> rfl
  · rintro ⟨before, hMem, rfl⟩
    refine ⟨_, ⟨before, hMem, rfl⟩, ?_⟩
    split <;> rfl

/-
  After a merge the target has its own aliases and those of
  the sources, and the sources have none. No alias is lost:
  the target has none of a source already.
-/
theorem holds_merged
    {targetEntityId : String}
    {owner : String}
    (hTarget : targetEntityId ∉ sourceEntityIds) :
    (removeAliases
        (repointAliases aliases sourceEntityIds
          targetEntityId)
        sourceEntityIds).Holds owner key ↔
      (owner ∉ sourceEntityIds ∧ aliases.Holds owner key) ∨
        (owner = targetEntityId ∧
          ∃ source ∈ sourceEntityIds,
            aliases.Holds source key) := by
  unfold removeAliases repointAliases
  rw [Owners.holds_keep, Owners.holds_reassign,
    decide_eq_true_eq]
  constructor
  · rintro ⟨⟨before, hBefore, hOwner⟩, hNot⟩
    split at hOwner
    · rename_i hMoved
      exact Or.inr ⟨hOwner.symm, before, hMoved.1, hBefore⟩
    · rw [hOwner] at hBefore
      exact Or.inl ⟨hNot, hBefore⟩
  · rintro (⟨hNot, hHolds⟩ | ⟨rfl, source, hSource, hHolds⟩)
    · refine ⟨⟨owner, hHolds, ?_⟩, hNot⟩
      rw [if_neg]
      exact fun hMoved => hNot hMoved.1
    · refine ⟨⟨source, hHolds, ?_⟩, hTarget⟩
      rw [if_pos]
      refine ⟨hSource, ?_⟩
      intro hOwn
      rw [hOwn.unique hHolds] at hTarget
      exact hTarget hSource

/-
  What a merge has checked, and the rows it leaves.
-/
structure Merged
    (s s' : Identity)
    (mergeId : String)
    (sourceEntityIds : List String)
    (targetEntityId : String) : Prop where
  nodup : sourceEntityIds.Nodup
  target_not_mem : targetEntityId ∉ sourceEntityIds
  participants :
    ∀ entityId ∈ sourceEntityIds ++ [targetEntityId],
      s.Exists entityId
  fresh : mergeId ∉ s.history.map (·.mergeId)
  entities :
    s'.entities = setActive s.entities sourceEntityIds false
  aliases :
    s'.aliases =
      removeAliases
        (repointAliases s.aliases sourceEntityIds
          targetEntityId)
        sourceEntityIds
  reviews : s'.reviews = closeReviews s.reviews sourceEntityIds
  history :
    ∃ source, sourceEntityIds.getLast? = some source ∧
      s'.history =
        s.history ++
          [{ mergeId := mergeId
             action := .merge
             sourceEntityIds := sourceEntityIds
             targetEntityId := targetEntityId
             isReversed := false
             aliasSnapshot :=
              some [(source, s.aliasesOf source)] }]

/- A new row of the history comes with an id of its own. -/
theorem recordMerge_eq_ok
    {history history' : List MergeRecord}
    {record : MergeRecord}
    (hRecord :
      recordMerge history performedBy record = .ok history') :
    record.mergeId ∉ history.map (·.mergeId) ∧
      history' = history ++ [record] := by
  unfold recordMerge at hRecord
  split at hRecord
  · cases hRecord
  · split at hRecord
    · cases hRecord
    · rename_i hFresh
      rw [Except.ok.injEq] at hRecord
      exact ⟨hFresh, hRecord.symm⟩

theorem mergeEntitiesBulk_spec
    (hMerge :
      mergeEntitiesBulk s mergeId sourceEntityIds
        targetEntityId performedBy = .ok s') :
    Merged s s' mergeId sourceEntityIds targetEntityId := by
  unfold mergeEntitiesBulk at hMerge
  split at hMerge
  · cases hMerge
  · rename_i source hLast
    split at hMerge
    · cases hMerge
    · rename_i hNodup
      split at hMerge
      · cases hMerge
      · rename_i hTarget
        rcases Outcome.bind_eq_ok.mp hMerge with
          ⟨u, hRequire, hRest⟩
        rcases Outcome.bind_eq_ok.mp hRest with
          ⟨history, hRecord, hState⟩
        rcases recordMerge_eq_ok hRecord with ⟨hFresh, rfl⟩
        rw [Except.ok.injEq] at hState
        rw [← hState]
        exact
          { nodup := not_not.mp hNodup
            target_not_mem := hTarget
            participants := requireEntities_eq_ok hRequire
            fresh := hFresh
            entities := rfl
            aliases := rfl
            reviews := rfl
            history := ⟨source, hLast, rfl⟩ }

/- The aliases after a merge. -/
theorem Merged.holds_iff
    (hMerged :
      Merged s s' mergeId sourceEntityIds targetEntityId)
    {owner : String}
    {key : AliasKey} :
    s'.aliases.Holds owner key ↔
      (owner ∉ sourceEntityIds ∧ s.aliases.Holds owner key) ∨
        (owner = targetEntityId ∧
          ∃ source ∈ sourceEntityIds,
            s.aliases.Holds source key) := by
  rw [hMerged.aliases]
  exact holds_merged hMerged.target_not_mem

--------
-- What A Split Does
--------

/- An alias that a split can put back. -/
def Restorable (key : AliasKey) : Prop :=
  key.aliasType ≠ "" ∧ key.aliasValue ≠ ""

instance (key : AliasKey) : Decidable (Restorable key) := by
  unfold Restorable
  infer_instance

/- After one alias was put back. -/
theorem holds_restoreAlias
    {source target : String}
    {key key' : AliasKey}
    {owner : String} :
    (restoreAlias source target aliases key).Holds owner key' ↔
      (owner = source ∧ key' = key ∧ Restorable key ∧
          aliases.Holds target key) ∨
        (aliases.Holds owner key' ∧
          ¬ (owner = target ∧ key' = key ∧
            Restorable key)) := by
  unfold restoreAlias Restorable
  split
  · rename_i hEmpty
    grind
  · rename_i hFull
    rw [Owners.holds_reassign]
    constructor
    · rintro ⟨before, hBefore, hOwner⟩
      split at hOwner
      · rename_i hMoved
        rw [hMoved.1, hMoved.2] at hBefore
        grind
      · rename_i hNot
        grind
    · rintro (⟨rfl, rfl, -, hHolds⟩ | ⟨hHolds, hNot⟩)
      · exact ⟨target, hHolds, by simp⟩
      · refine ⟨owner, hHolds, ?_⟩
        rw [if_neg]
        grind

/- After the aliases of a snapshot were put back. -/
theorem holds_foldl_restoreAlias
    {source target : String}
    (hNe : source ≠ target)
    (keys : List AliasKey)
    (aliases : Owners String AliasKey)
    {owner : String} :
    (keys.foldl (restoreAlias source target) aliases).Holds
        owner key ↔
      (owner = source ∧ key ∈ keys ∧ Restorable key ∧
          aliases.Holds target key) ∨
        (aliases.Holds owner key ∧
          ¬ (owner = target ∧ key ∈ keys ∧
            Restorable key)) := by
  induction keys generalizing aliases with
  | nil => simp
  | cons first rest ih =>
      rw [List.foldl_cons, ih, holds_restoreAlias,
        holds_restoreAlias]
      have hOne :
          ∀ k, aliases.Holds source k →
            ¬ aliases.Holds target k := by
        intro k hSource hTarget
        exact hNe (hSource.unique hTarget)
      by_cases hKey : key = first
      · subst hKey
        grind
      · grind

/- The keys stay where a split moves aliases. -/
theorem keys_foldl_restoreAlias
    (source target : String)
    (keys : List AliasKey)
    (aliases : Owners String AliasKey) :
    (keys.foldl (restoreAlias source target) aliases).keys =
      aliases.keys := by
  induction keys generalizing aliases with
  | nil => rfl
  | cons first rest ih =>
      rw [List.foldl_cons, ih]
      unfold restoreAlias
      split
      · rfl
      · exact Owners.keys_reassign _

/- A split gives aliases to its sources and nobody else. -/
theorem holds_of_foldl_restoreAlias
    {keys : List AliasKey}
    (hHolds :
      (keys.foldl (restoreAlias source target) aliases).Holds
        owner key) :
    aliases.Holds owner key ∨ owner = source := by
  induction keys generalizing aliases with
  | nil => exact Or.inl hHolds
  | cons first rest ih =>
      rcases ih hHolds with hFirst | hOwner
      · rcases Iff.mp holds_restoreAlias hFirst with
          ⟨hOwner, -⟩ | ⟨hBefore, -⟩
        · exact Or.inr hOwner
        · exact Or.inl hBefore
      · exact Or.inr hOwner

/- A split takes aliases from its target and nobody else. -/
theorem holds_foldl_restoreAlias_of_ne
    (hOwner : owner ≠ target)
    {keys : List AliasKey}
    (hHolds : aliases.Holds owner key) :
    (keys.foldl (restoreAlias source target) aliases).Holds
      owner key := by
  induction keys generalizing aliases with
  | nil => exact hHolds
  | cons first rest ih =>
      apply ih
      apply Iff.mpr holds_restoreAlias
      exact Or.inr ⟨hHolds, fun hMoved => hOwner hMoved.1⟩

/-
  The loop of a split over the sources: they are active after
  it, and aliases only go from the target to them.
-/
structure Restores
    (s s' : Identity)
    (sourceEntityIds : List String)
    (targetEntityId : String) : Prop where
  history : s'.history = s.history
  reviews : s'.reviews = s.reviews
  exists_iff :
    ∀ entityId, s'.Exists entityId ↔ s.Exists entityId
  active_iff :
    ∀ entityId, s'.Active entityId ↔
      s.Active entityId ∨
        (entityId ∈ sourceEntityIds ∧ s.Exists entityId)
  keys : s'.aliases.keys = s.aliases.keys
  holds :
    ∀ owner key, s'.aliases.Holds owner key →
      s.aliases.Holds owner key ∨ owner ∈ sourceEntityIds
  kept :
    ∀ owner key, owner ≠ targetEntityId →
      s.aliases.Holds owner key → s'.aliases.Holds owner key

/- The loop over the sources restores them. -/
theorem foldl_restoreSource
    (snapshot : List (String × List AliasKey))
    (target : String)
    (sources : List String)
    (s : Identity) :
    Restores s
      (sources.foldl (restoreSource snapshot target) s)
      sources target := by
  induction sources generalizing s with
  | nil =>
      exact ⟨rfl, rfl, fun _ => Iff.rfl, fun _ => by simp, rfl,
        fun _ _ hHolds => Or.inl hHolds,
        fun _ _ _ hHolds => hHolds⟩
  | cons source rest ih =>
      rw [List.foldl_cons]
      have hRest := ih (restoreSource snapshot target s source)
      have hEntities :
          (restoreSource snapshot target s source).entities =
            setActive s.entities [source] true :=
        rfl
      refine
        ⟨hRest.history, hRest.reviews, ?_, ?_, ?_, ?_, ?_⟩
      · intro entityId
        rw [hRest.exists_iff, exists_setActive hEntities]
      · intro entityId
        simp only [hRest.active_iff, exists_setActive hEntities,
          active_setActive hEntities, List.mem_cons,
          List.not_mem_nil, or_false]
        have hExists : s.Active entityId → s.Exists entityId :=
          Active.exists
        by_cases hSource : entityId = source
        · simp only [hSource, if_true, true_and, true_or]
            at hExists ⊢
          tauto
        · simp only [hSource, if_false, false_or]
      · rw [hRest.keys]
        exact keys_foldl_restoreAlias source target _ _
      · intro owner key hHolds
        rw [List.mem_cons]
        rcases hRest.holds owner key hHolds with
          hHolds | hOwner
        · rcases holds_of_foldl_restoreAlias hHolds with
            hHolds | hOwner
          · exact Or.inl hHolds
          · exact Or.inr (Or.inl hOwner)
        · exact Or.inr (Or.inr hOwner)
      · intro owner key hOwner hHolds
        apply hRest.kept owner key hOwner
        exact holds_foldl_restoreAlias_of_ne hOwner hHolds

/-
  What a split has found, and the rows it leaves.
-/
structure SplitOf
    (s s' : Identity)
    (splitId mergeId : String)
    (record : MergeRecord)
    (snapshot : List (String × List AliasKey)) : Prop where
  found :
    s.history.find? (fun row => row.mergeId = mergeId) =
      some record
  action : record.action = .merge
  snapshot_eq : record.aliasSnapshot = some snapshot
  entities :
    s'.entities =
      (record.sourceEntityIds.foldl
        (restoreSource snapshot record.targetEntityId)
        s).entities
  aliases :
    s'.aliases =
      (record.sourceEntityIds.foldl
        (restoreSource snapshot record.targetEntityId)
        s).aliases
  reviews : s'.reviews = s.reviews
  history :
    s'.history =
      markReversed s.history mergeId ++
        [{ mergeId := splitId
           action := .split
           sourceEntityIds := record.sourceEntityIds
           targetEntityId := record.targetEntityId
           isReversed := false
           aliasSnapshot := none }]

theorem splitEntity_spec
    {splitId mergeId : String}
    (hSplit :
      splitEntity s splitId mergeId performedBy = .ok s') :
    ∃ record snapshot,
      SplitOf s s' splitId mergeId record snapshot := by
  unfold splitEntity at hSplit
  split at hSplit
  · cases hSplit
  · rename_i record hFound
    split at hSplit
    · cases hSplit
    · rename_i hAction
      split at hSplit
      · cases hSplit
      · split at hSplit
        · cases hSplit
        · rename_i snapshot hSnapshot
          rcases Outcome.bind_eq_ok.mp hSplit with
            ⟨history, hRecord, hState⟩
          rcases recordMerge_eq_ok hRecord with ⟨-, rfl⟩
          rw [Except.ok.injEq] at hState
          rw [← hState]
          have hRestores :=
            foldl_restoreSource snapshot
              record.targetEntityId record.sourceEntityIds s
          exact ⟨record, snapshot,
            { found := hFound
              action := not_not.mp hAction
              snapshot_eq := hSnapshot
              entities := rfl
              aliases := rfl
              reviews := hRestores.reviews
              history := rfl }⟩

end

--------
-- What Every Operation Keeps
--------

variable {lower : String → String} {s s' : Identity}

/- An operation loses no entity. -/
theorem call_exists
    {op : IdentityOp}
    (hCall : call lower s op = .ok s')
    {entityId : String}
    (hExists : s.Exists entityId) :
    s'.Exists entityId := by
  cases op with
  | registerEntity newId registration =>
      rcases registerEntity_spec hCall with
        ⟨-, entity, -, -, hAdds⟩
      rcases hExists with ⟨other, hMem, hId⟩
      refine ⟨other, ?_, hId⟩
      rw [hAdds.entities]
      exact List.mem_append_left _ hMem
  | addAlias owner aliasType aliasValue =>
      have hAdds := (addAlias_spec hCall).2
      unfold Exists
      rw [hAdds.entities]
      exact hExists
  | mergeEntitiesBulk mergeId sources target performedBy =>
      have hMerged := mergeEntitiesBulk_spec hCall
      exact (exists_setActive hMerged.entities).mpr hExists
  | splitEntity splitId mergeId performedBy =>
      rcases splitEntity_spec hCall with
        ⟨record, snapshot, hSplitOf⟩
      have hIff :=
        (foldl_restoreSource snapshot record.targetEntityId
          record.sourceEntityIds s).exists_iff entityId
      unfold Exists at hIff ⊢
      rw [hSplitOf.entities, hIff]
      exact hExists

end Identity

end RegEngine
