import RegEngine.Library.Transaction
import RegEngine.Shared.IdentityResolution.Merging

/-
  Every alias that was ever stored resolves to an active
  entity, in the runs that give no alias to an inactive one.

  Main declarations:
    * `Identity.AliasesActive`
    * `Identity.GivesToActive`
    * `Identity.runAll_resolves`
-/

--------
-- Aliases Of Active Entities
--------

namespace RegEngine

namespace Identity

section

variable {lower : String → String} {s s' : Identity}

/- Every alias row belongs to an active entity. -/
def AliasesActive (s : Identity) : Prop :=
  ∀ owner key, s.aliases.Holds owner key → s.Active owner

/-
  An operation gives no alias to an inactive entity: none is
  added to one, and none of a source goes to one.
-/
def GivesToActive (s : Identity) : IdentityOp → Prop
| .registerEntity _ _ => True
| .addAlias entityId _ _ =>
    s.Exists entityId → s.Active entityId
| .mergeEntitiesBulk _ sources target _ =>
    s.Exists target →
      s.Active target ∨
        ∀ source ∈ sources, s.aliasesOf source = []
| .splitEntity _ _ _ => True

instance (s : Identity) (op : IdentityOp) :
    Decidable (s.GivesToActive op) := by
  cases op <;> unfold GivesToActive <;> infer_instance

/- An entity stays active when only aliases are added. -/
theorem Adds.active_iff
    {entityId other : String}
    (hAdds : Adds s s' entityId) :
    s'.Active other ↔ s.Active other := by
  unfold Active
  rw [hAdds.entities]

/- Registration keeps the aliases with active entities. -/
theorem registerEntity_aliasesActive
    {entityId : String}
    {registration : Registration}
    (hActive : AliasesActive s)
    (hRegister :
      registerEntity lower s entityId registration =
        .ok s') :
    AliasesActive s' := by
  rcases registerEntity_spec hRegister with
    ⟨-, entity, hId, hNew, hAdds⟩
  intro owner key hHolds
  rw [hAdds.active_iff]
  rcases hAdds.added owner key hHolds with hBefore | hOwner
  · rcases hActive owner key hBefore with
      ⟨other, hMem, hOther⟩
    exact ⟨other, List.mem_append_left _ hMem, hOther⟩
  · rw [hOwner]
    exact ⟨entity, by simp, hId, hNew⟩

/- An added alias belongs to an active entity or not. -/
theorem addAlias_aliasesActive
    {entityId aliasType aliasValue : String}
    (hActive : AliasesActive s)
    (hGives :
      GivesToActive s (.addAlias entityId aliasType aliasValue))
    (hAdd :
      addAlias lower s entityId aliasType aliasValue =
        .ok s') :
    AliasesActive s' := by
  rcases addAlias_spec hAdd with ⟨hExists, hAdds⟩
  intro owner key hHolds
  rw [hAdds.active_iff]
  rcases hAdds.added owner key hHolds with hBefore | rfl
  · exact hActive owner key hBefore
  · exact hGives hExists

variable {performedBy : Option String}

/- A merge into an active entity keeps its aliases there. -/
theorem mergeEntitiesBulk_aliasesActive
    {mergeId targetEntityId : String}
    {sourceEntityIds : List String}
    (hActive : AliasesActive s)
    (hGives :
      GivesToActive s
        (.mergeEntitiesBulk mergeId sourceEntityIds
          targetEntityId performedBy))
    (hMerge :
      mergeEntitiesBulk s mergeId sourceEntityIds
        targetEntityId performedBy = .ok s') :
    AliasesActive s' := by
  have hMerged := mergeEntitiesBulk_spec hMerge
  intro owner key hHolds
  rw [active_setActive hMerged.entities]
  rcases hMerged.holds_iff.mp hHolds with
    ⟨hNot, hBefore⟩ | ⟨rfl, source, hSource, hBefore⟩
  · rw [if_neg hNot]
    exact hActive owner key hBefore
  · rw [if_neg hMerged.target_not_mem]
    have hExists :=
      hMerged.participants owner (by simp)
    rcases hGives hExists with hTarget | hNone
    · exact hTarget
    · rw [← mem_aliasesOf, hNone source hSource] at hBefore
      cases hBefore

/- A split gives aliases to entities it makes active. -/
theorem splitEntity_aliasesActive
    {splitId mergeId : String}
    (hHistory :
      ∀ record ∈ s.history,
        ∀ source ∈ record.sourceEntityIds, s.Exists source)
    (hActive : AliasesActive s)
    (hSplit :
      splitEntity s splitId mergeId performedBy = .ok s') :
    AliasesActive s' := by
  rcases splitEntity_spec hSplit with
    ⟨record, snapshot, hSplitOf⟩
  have hRestores :=
    foldl_restoreSource snapshot record.targetEntityId
      record.sourceEntityIds s
  have hMem := List.mem_of_find?_eq_some hSplitOf.found
  intro owner key hHolds
  rw [hSplitOf.aliases] at hHolds
  have hIff := hRestores.active_iff owner
  unfold Active at hIff ⊢
  rw [hSplitOf.entities, hIff]
  rcases hRestores.holds owner key hHolds with
    hBefore | hSource
  · exact Or.inl (hActive owner key hBefore)
  · exact Or.inr
      ⟨hSource, hHistory record hMem owner hSource⟩

/- The sources of recorded merges are entities. -/
def SourcesExist (s : Identity) : Prop :=
  ∀ record ∈ s.history,
    ∀ source ∈ record.sourceEntityIds, s.Exists source

variable {op : IdentityOp}

/- What an operation records has sources that are entities. -/
theorem call_sourcesExist
    (hSources : SourcesExist s)
    (hCall : call lower s op = .ok s') :
    SourcesExist s' := by
  have hKeep :
      ∀ record ∈ s.history,
        ∀ source ∈ record.sourceEntityIds,
          s'.Exists source := by
    intro record hMem source hSource
    exact call_exists hCall (hSources record hMem source hSource)
  cases op with
  | registerEntity newId registration =>
      rcases registerEntity_spec hCall with ⟨-, entity, -, -, hAdds⟩
      intro record hMem
      rw [hAdds.history] at hMem
      exact hKeep record hMem
  | addAlias owner aliasType aliasValue =>
      intro record hMem
      rw [(addAlias_spec hCall).2.history] at hMem
      exact hKeep record hMem
  | mergeEntitiesBulk mergeId sources target performedBy =>
      have hMerged := mergeEntitiesBulk_spec hCall
      rcases hMerged.history with ⟨last, -, hHistory⟩
      intro record hMem source hSource
      rw [hHistory, List.mem_append, List.mem_singleton] at hMem
      rcases hMem with hMem | rfl
      · exact hKeep record hMem source hSource
      · exact call_exists hCall
          (hMerged.participants source (by simp_all))
  | splitEntity splitId mergeId performedBy =>
      rcases splitEntity_spec hCall with
        ⟨split, snapshot, hSplitOf⟩
      have hFound := List.mem_of_find?_eq_some hSplitOf.found
      intro record hMem source hSource
      rw [hSplitOf.history, List.mem_append,
        List.mem_singleton] at hMem
      rcases hMem with hMem | rfl
      · rcases List.mem_map.mp hMem with
          ⟨before, hBefore, rfl⟩
        apply hKeep before hBefore
        split at hSource <;> exact hSource
      · exact hKeep split hFound source hSource

/- An operation keeps the aliases with active entities. -/
theorem call_aliasesActive
    (hSources : SourcesExist s)
    (hActive : AliasesActive s)
    (hGives : GivesToActive s op)
    (hCall : call lower s op = .ok s') :
    AliasesActive s' := by
  cases op with
  | registerEntity newId registration =>
      exact registerEntity_aliasesActive hActive hCall
  | addAlias owner aliasType aliasValue =>
      exact addAlias_aliasesActive hActive hGives hCall
  | mergeEntitiesBulk mergeId sources target performedBy =>
      exact mergeEntitiesBulk_aliasesActive hActive hGives hCall
  | splitEntity splitId mergeId performedBy =>
      exact splitEntity_aliasesActive hSources hActive hCall

/- An operation loses no alias. -/
theorem call_keys
    (hCall : call lower s op = .ok s')
    {key : AliasKey}
    (hKey : key ∈ s.aliases.keys) :
    key ∈ s'.aliases.keys := by
  rcases Owners.mem_keys_iff.mp hKey with ⟨owner, hHolds⟩
  rw [Owners.mem_keys_iff]
  cases op with
  | registerEntity newId registration =>
      rcases registerEntity_spec hCall with ⟨-, entity, -, -, hAdds⟩
      exact ⟨owner, hAdds.kept owner key hHolds⟩
  | addAlias other aliasType aliasValue =>
      exact ⟨owner, (addAlias_spec hCall).2.kept owner key hHolds⟩
  | mergeEntitiesBulk mergeId sources target performedBy =>
      have hMerged := mergeEntitiesBulk_spec hCall
      by_cases hOwner : owner ∈ sources
      · exact ⟨target,
          hMerged.holds_iff.mpr
            (Or.inr ⟨rfl, owner, hOwner, hHolds⟩)⟩
      · exact ⟨owner,
          hMerged.holds_iff.mpr (Or.inl ⟨hOwner, hHolds⟩)⟩
  | splitEntity splitId mergeId performedBy =>
      rcases splitEntity_spec hCall with
        ⟨record, snapshot, hSplitOf⟩
      have hKeys :=
        (foldl_restoreSource snapshot record.targetEntityId
          record.sourceEntityIds s).keys
      rw [← Owners.mem_keys_iff, hSplitOf.aliases, hKeys]
      exact hKey

end

--------
-- Runs
--------

variable {lower : String → String} {s : Identity}

/- An alias of active entities finds one of them. -/
theorem find_ne_nil
    (hActive : AliasesActive s)
    {aliasType aliasValue : String}
    (hKey :
      ⟨aliasType,
        normalizeIdentifier lower aliasType aliasValue⟩ ∈
          s.aliases.keys) :
    s.findEntityByAlias lower aliasType aliasValue ≠ [] := by
  rcases Owners.mem_keys_iff.mp hKey with ⟨owner, hHolds⟩
  rcases hActive owner _ hHolds with
    ⟨entity, hMem, hId, hIsActive⟩
  apply List.ne_nil_of_mem
  rw [mem_findEntityByAlias]
  refine ⟨rfl, hMem, hIsActive, ?_⟩
  rw [hId]
  exact hHolds

/- The invariant of the runs. -/
structure Consistent (s : Identity) : Prop where
  sources : SourcesExist s
  active : AliasesActive s

theorem consistent_empty : Consistent empty := by
  refine ⟨?_, ?_⟩
  · intro record hMem
    cases hMem
  · intro owner key hHolds
    exact absurd hHolds (Owners.not_holds_empty owner key)

/- An alias is stored, for some entity. -/
def Stores (key : AliasKey) (s : Identity) : Prop :=
  key ∈ s.aliases.keys

/- A run loses no alias. -/
theorem runAll_stores
    (lower : String → String)
    (transactions : List (Transaction IdentityOp))
    {key : AliasKey}
    (hKey : Stores key s) :
    Stores key (Transaction.runAll (call lower) s transactions) :=
  Transaction.runAll_keeps
    (fun _ _ _ hKey hCall => call_keys hCall hKey) hKey
    transactions

/-
  In every run that gives aliases to active entities only,
  every alias belongs to an active entity, and every alias
  stored at some time is found at any later time.
-/
theorem runAll_resolves
    (lower : String → String)
    (before after : List (Transaction IdentityOp))
    (hGives :
      Transaction.AllMeet (call lower) GivesToActive empty
        (before ++ after)) :
    AliasesActive
        (Transaction.runAll (call lower) empty
          (before ++ after)) ∧
      ∀ aliasType aliasValue,
        ⟨aliasType,
          normalizeIdentifier lower aliasType aliasValue⟩ ∈
            (Transaction.runAll (call lower) empty
              before).aliases.keys →
        findEntityByAlias lower
            (Transaction.runAll (call lower) empty
              (before ++ after))
            aliasType aliasValue ≠ [] := by
  have hConsistent :
      Consistent
        (Transaction.runAll (call lower) empty
          (before ++ after)) :=
    Transaction.runAll_invariant
      (fun _ _ _ hInv hGives hCall =>
        ⟨call_sourcesExist hInv.sources hCall,
          call_aliasesActive hInv.sources hInv.active hGives
            hCall⟩)
      consistent_empty hGives
  refine ⟨hConsistent.active, ?_⟩
  intro aliasType aliasValue hKey
  apply find_ne_nil hConsistent.active
  rw [Transaction.runAll_append]
  exact runAll_stores lower after hKey

/- A facility with a name and no identifier. -/
def facilityNamed (name : String) : Registration :=
  { entityType := "facility"
    canonicalName := name
    gln := none
    gtin := none
    fdaRegistration := none
    internalId := none }

/- Two facilities of one farm, registered under two names. -/
def twoFacilities : Transaction IdentityOp :=
  { calls :=
      [.registerEntity "a" (facilityNamed "Acme Farm"),
        .registerEntity "b" (facilityNamed "ACME Farms")]
    commits := true }

/- The first facility is merged into the second. -/
def mergeFacilities : Transaction IdentityOp :=
  { calls := [.mergeEntitiesBulk "m" ["a"] "b" (some "ops")]
    commits := true }

/- A location number is added to a facility. -/
def addLocation (entityId : String) : Transaction IdentityOp :=
  { calls := [.addAlias entityId "gln" "0614141000005"]
    commits := true }

/- The name of the merged facility and the number resolve. -/
theorem runAll_resolves_mergeFacilities :
    let s :=
      Transaction.runAll (call Python.lower) empty
        ([twoFacilities, mergeFacilities] ++ [addLocation "b"])
    AliasesActive s ∧
      findEntityByAlias Python.lower s "name" "Acme Farm" ≠
        [] := by
  have hGives :
      Transaction.AllMeet (call Python.lower) GivesToActive
        empty
        ([twoFacilities, mergeFacilities] ++
          [addLocation "b"]) := by
    decide
  have hResolves :=
    runAll_resolves Python.lower
      [twoFacilities, mergeFacilities] [addLocation "b"] hGives
  exact ⟨hResolves.1,
    hResolves.2 "name" "Acme Farm" (by decide)⟩

/- A number added to the merged facility is never found. -/
theorem not_aliasesActive_addLocation :
    let s :=
      Transaction.runAll (call Python.lower) empty
        [twoFacilities, mergeFacilities, addLocation "a"]
    s.aliases.Holds "a" ⟨"gln", "0614141000005"⟩ ∧
      findEntityByAlias Python.lower s "gln" "0614141000005" =
        [] ∧
      ¬ AliasesActive s := by
  intro s
  have hHolds :
      s.aliases.Holds "a" ⟨"gln", "0614141000005"⟩ := by
    decide
  refine ⟨hHolds, by decide, ?_⟩
  intro hActive
  have hNot : ¬ s.Active "a" := by
    decide
  exact hNot (hActive "a" _ hHolds)

end Identity

end RegEngine
