import RegEngine.Library.Transaction
import RegEngine.Shared.IdentityResolution.Merging

/-
  A split against the merge it reverses: which aliases come
  back to the sources, whatever happens to other entities in
  between.

  Main declarations:
    * `Identity.Elsewhere`
    * `Identity.Restored`
    * `Identity.splitEntity_restores_iff`
-/

--------
-- What A Split Puts Back
--------

namespace RegEngine

namespace Identity

/- No alias moves for sources that the snapshot leaves out. -/
theorem aliases_foldl_restoreSource
    {last target : String}
    {keys : List AliasKey}
    {sources : List String}
    (hLast : last ∉ sources)
    (s : Identity) :
    (sources.foldl (restoreSource [(last, keys)] target)
        s).aliases =
      s.aliases := by
  induction sources generalizing s with
  | nil => rfl
  | cons source rest ih =>
      rw [List.mem_cons, not_or] at hLast
      have hNone :
          snapshotOf [(last, keys)] source = [] := by
        have hBeq : (source == last) = false :=
          beq_false_of_ne (Ne.symm hLast.1)
        simp [snapshotOf, List.lookup_cons, hBeq]
      rw [List.foldl_cons, ih hLast.2]
      unfold restoreSource
      rw [hNone]
      rfl

/- Only the aliases in the snapshot come back. -/
theorem holds_foldl_restoreSource
    {last target : String}
    {keys : List AliasKey}
    {sources : List String}
    (hNodup : sources.Nodup)
    (hLast : sources.getLast? = some last)
    (hTarget : target ∉ sources)
    {s : Identity}
    {owner : String}
    {key : AliasKey} :
    (sources.foldl (restoreSource [(last, keys)] target)
        s).aliases.Holds owner key ↔
      (owner = last ∧ key ∈ keys ∧ Restorable key ∧
          s.aliases.Holds target key) ∨
        (s.aliases.Holds owner key ∧
          ¬ (owner = target ∧ key ∈ keys ∧
            Restorable key)) := by
  rcases List.getLast?_eq_some_iff.mp hLast with ⟨init, rfl⟩
  have hInit : last ∉ init := by
    rw [List.nodup_append] at hNodup
    intro hMem
    exact hNodup.2.2 last hMem last (by simp) rfl
  have hNe : last ≠ target := by
    rintro rfl
    exact hTarget (by simp)
  have hKeys : snapshotOf [(last, keys)] last = keys := by
    simp [snapshotOf]
  rw [List.foldl_append, List.foldl_cons, List.foldl_nil]
  have hAliases :
      (restoreSource [(last, keys)] target
          (init.foldl (restoreSource [(last, keys)] target) s)
          last).aliases =
        keys.foldl (restoreAlias last target) s.aliases := by
    calc
      _ = (snapshotOf [(last, keys)] last).foldl
            (restoreAlias last target)
            (init.foldl (restoreSource [(last, keys)] target)
              s).aliases := rfl
      _ = _ := by
        rw [hKeys, aliases_foldl_restoreSource hInit]
  rw [hAliases]
  exact holds_foldl_restoreAlias hNe keys s.aliases

--------
-- Between Merge And Split
--------

variable {lower : String → String}

/-
  An operation on other entities than those of a merge. The
  target may gain aliases, also by merges of other entities
  into it.
-/
def Elsewhere
    (sources : List String)
    (target : String)
    (s : Identity) : IdentityOp → Prop
| .registerEntity _ _ => True
| .addAlias entityId _ _ => entityId ∉ sources
| .mergeEntitiesBulk _ sources' target' _ =>
    (∀ source ∈ sources', source ∉ target :: sources) ∧
      target' ∉ sources
| .splitEntity _ mergeId _ =>
    ∀ record ∈ s.history, record.mergeId = mergeId →
      ∀ entityId ∈
        record.targetEntityId :: record.sourceEntityIds,
        entityId ∉ target :: sources

instance
    (sources : List String)
    (target : String)
    (s : Identity)
    (op : IdentityOp) :
    Decidable (Elsewhere sources target s op) :=
  match op with
  | .registerEntity _ _ => isTrue trivial
  | .addAlias _ _ _ => inferInstanceAs (Decidable (_ ∉ _))
  | .mergeEntitiesBulk _ _ _ _ =>
      inferInstanceAs (Decidable ((∀ _ ∈ _, _) ∧ _))
  | .splitEntity _ _ _ =>
      inferInstanceAs (Decidable (∀ _ ∈ _, _ → ∀ _ ∈ _, _))

/-
  What holds between a merge and its split: the sources have
  no alias, the target still has those it had after the merge,
  and the row of the merge is as it was written.
-/
structure Between
    (s₁ : Identity)
    (record : MergeRecord)
    (s : Identity) : Prop where
  none :
    ∀ source ∈ record.sourceEntityIds,
      ∀ key, ¬ s.aliases.Holds source key
  kept :
    ∀ key, s₁.aliases.Holds record.targetEntityId key →
      s.aliases.Holds record.targetEntityId key
  entities :
    ∀ source ∈ record.sourceEntityIds, s.Exists source
  found :
    s.history.find? (fun row =>
      row.mergeId = record.mergeId) = some record

/- The first row found is found with more rows behind it. -/
theorem find?_append_of_find?
    {history more : List MergeRecord}
    {test : MergeRecord → Bool}
    {record : MergeRecord}
    (hFound : history.find? test = some record) :
    (history ++ more).find? test = some record := by
  rw [List.find?_append, hFound, Option.some_or]

/- The row of a merge is found while another is reversed. -/
theorem find?_markReversed
    {history : List MergeRecord}
    {record : MergeRecord}
    {mergeId : String}
    (hOther : record.mergeId ≠ mergeId)
    (hFound :
      history.find? (fun row =>
        row.mergeId = record.mergeId) = some record) :
    (markReversed history mergeId).find? (fun row =>
        row.mergeId = record.mergeId) = some record := by
  unfold markReversed
  rw [List.find?_map]
  have hSame :
      ((fun row : MergeRecord =>
          decide (row.mergeId = record.mergeId)) ∘
        fun row : MergeRecord =>
          if row.mergeId = mergeId then
            { row with isReversed := true }
          else row) =
        fun row => decide (row.mergeId = record.mergeId) := by
    funext row
    simp only [Function.comp]
    split <;> rfl
  rw [hSame, hFound, Option.map_some, if_neg hOther]

/- An operation elsewhere keeps what holds between. -/
theorem call_between
    {s₁ s next : Identity}
    {record : MergeRecord}
    {op : IdentityOp}
    (hBetween : Between s₁ record s)
    (hElsewhere :
      Elsewhere record.sourceEntityIds record.targetEntityId
        s op)
    (hCall : call lower s op = .ok next) :
    Between s₁ record next := by
  have hEntities :
      ∀ source ∈ record.sourceEntityIds,
        next.Exists source := by
    intro source hSource
    exact call_exists hCall
      (hBetween.entities source hSource)
  cases op with
  | registerEntity entityId registration =>
      rcases registerEntity_spec hCall with
        ⟨hNew, entity, -, -, hAdds⟩
      refine ⟨?_, ?_, hEntities, ?_⟩
      · intro source hSource key hHolds
        rcases hAdds.added source key hHolds with
          hBefore | rfl
        · exact hBetween.none source hSource key hBefore
        · exact hNew (hBetween.entities source hSource)
      · intro key hKey
        exact hAdds.kept _ key (hBetween.kept key hKey)
      · rw [hAdds.history]
        exact hBetween.found
  | addAlias entityId aliasType aliasValue =>
      have hAdds := (addAlias_spec hCall).2
      refine ⟨?_, ?_, hEntities, ?_⟩
      · intro source hSource key hHolds
        rcases hAdds.added source key hHolds with
          hBefore | rfl
        · exact hBetween.none source hSource key hBefore
        · exact hElsewhere hSource
      · intro key hKey
        exact hAdds.kept _ key (hBetween.kept key hKey)
      · rw [hAdds.history]
        exact hBetween.found
  | mergeEntitiesBulk mergeId sources target performedBy =>
      have hMerged := mergeEntitiesBulk_spec hCall
      rcases hMerged.history with ⟨last, -, hHistory⟩
      refine ⟨?_, ?_, hEntities, ?_⟩
      · intro source hSource key hHolds
        rcases hMerged.holds_iff.mp hHolds with
          ⟨-, hBefore⟩ | ⟨rfl, -⟩
        · exact hBetween.none source hSource key hBefore
        · exact hElsewhere.2 hSource
      · intro key hKey
        apply hMerged.holds_iff.mpr
        refine Or.inl ⟨?_, hBetween.kept key hKey⟩
        intro hTarget
        exact hElsewhere.1 _ hTarget (by simp)
      · rw [hHistory]
        exact find?_append_of_find? hBetween.found
  | splitEntity splitId mergeId performedBy =>
      rcases splitEntity_spec hCall with
        ⟨other, snapshot, hSplitOf⟩
      have hRestores :=
        foldl_restoreSource snapshot other.targetEntityId
          other.sourceEntityIds s
      have hApart :=
        hElsewhere other
          (List.mem_of_find?_eq_some hSplitOf.found)
          (by simpa using List.find?_some hSplitOf.found)
      refine ⟨?_, ?_, hEntities, ?_⟩
      · intro source hSource key hHolds
        rw [hSplitOf.aliases] at hHolds
        rcases hRestores.holds source key hHolds with
          hBefore | hOther
        · exact hBetween.none source hSource key hBefore
        · exact hApart source (by simp [hOther])
            (by simp [hSource])
      · intro key hKey
        rw [hSplitOf.aliases]
        apply hRestores.kept _ key _ (hBetween.kept key hKey)
        intro hTarget
        exact hApart other.targetEntityId (by simp)
          (by simp [hTarget])
      · rw [hSplitOf.history]
        apply find?_append_of_find?
        apply find?_markReversed _ hBetween.found
        intro hId
        have hMem := List.mem_of_find?_eq_some hBetween.found
        exact hElsewhere record hMem hId
          record.targetEntityId (by simp) (by simp)

/- Operations elsewhere keep what holds between. -/
theorem runAll_between
    {s₁ s : Identity}
    {record : MergeRecord}
    {between : List (Transaction IdentityOp)}
    (hBetween : Between s₁ record s)
    (hElsewhere :
      Transaction.AllMeet (call lower)
        (Elsewhere record.sourceEntityIds
          record.targetEntityId)
        s between) :
    Between s₁ record
      (Transaction.runAll (call lower) s between) :=
  Transaction.runAll_invariant
    (fun _ _ _ hBetween hElsewhere hCall =>
      call_between hBetween hElsewhere hCall)
    hBetween hElsewhere

def mergeRow
    (s : Identity)
    (mergeId : String)
    (sources : List String)
    (target last : String) : MergeRecord :=
  { mergeId := mergeId
    action := .merge
    sourceEntityIds := sources
    targetEntityId := target
    isReversed := false
    aliasSnapshot := some [(last, s.aliasesOf last)] }

/- Right after a merge. -/
theorem Merged.between
    {s₀ s₁ : Identity}
    {mergeId target : String}
    {sources : List String}
    (hMerged : Merged s₀ s₁ mergeId sources target) :
    ∃ last, sources.getLast? = some last ∧
      Between s₁ (mergeRow s₀ mergeId sources target last)
        s₁ := by
  rcases hMerged.history with ⟨last, hLast, hHistory⟩
  refine ⟨last, hLast, ?_, fun _ hKey => hKey, ?_, ?_⟩
  · intro source hSource key hHolds
    rcases hMerged.holds_iff.mp hHolds with
      ⟨hNot, -⟩ | ⟨hTarget, -⟩
    · exact hNot hSource
    · rw [hTarget] at hSource
      exact hMerged.target_not_mem hSource
  · intro source hSource
    apply (exists_setActive hMerged.entities).mpr
    exact hMerged.participants source
      (List.mem_append_left _ hSource)
  · have hNone :
        s₀.history.find? (fun row =>
          row.mergeId = mergeId) = none := by
      rw [List.find?_eq_none]
      intro row hRow hId
      exact hMerged.fresh
        (List.mem_map.mpr ⟨row, hRow, by simpa using hId⟩)
    have hSelf : (mergeRow s₀ mergeId sources target
        last).mergeId = mergeId := rfl
    rw [hHistory, hSelf, List.find?_append, hNone,
      Option.none_or]
    simp [mergeRow]

--------
-- The Split
--------

/-
  A split has undone a merge: the sources are active and have
  the aliases they had before it, and the target has its own
  and those it gained in between.
-/
structure Restored
    (s₀ s₁ s₂ s₃ : Identity)
    (sources : List String)
    (target : String) : Prop where
  active : ∀ source ∈ sources, s₃.Active source
  source_aliases :
    ∀ source ∈ sources, ∀ key,
      s₃.aliases.Holds source key ↔
        s₀.aliases.Holds source key
  target_aliases :
    ∀ key, s₃.aliases.Holds target key ↔
      s₀.aliases.Holds target key ∨
        (s₂.aliases.Holds target key ∧
          ¬ s₁.aliases.Holds target key)

/-
  The snapshot of a merge has all that is needed: only the
  last source has aliases, and none of them is empty.
-/
def SnapshotComplete
    (s : Identity)
    (sources : List String) : Prop :=
  ∀ source ∈ sources, ∀ key, s.aliases.Holds source key →
    sources.getLast? = some source ∧ Restorable key

/-
  A split undoes its merge exactly when the snapshot of the
  merge is complete, after any operations on other entities.
-/
theorem splitEntity_restores_iff
    (lower : String → String)
    (s₀ s₁ s₃ : Identity)
    (mergeId splitId target : String)
    (sources : List String)
    (mergedBy splitBy : Option String)
    (between : List (Transaction IdentityOp))
    (hMerge :
      mergeEntitiesBulk s₀ mergeId sources target mergedBy =
        .ok s₁)
    (hElsewhere :
      Transaction.AllMeet (call lower)
        (Elsewhere sources target) s₁ between)
    (hSplit :
      splitEntity
        (Transaction.runAll (call lower) s₁ between)
        splitId mergeId splitBy = .ok s₃) :
    Restored s₀ s₁
        (Transaction.runAll (call lower) s₁ between) s₃
        sources target ↔
      SnapshotComplete s₀ sources := by
  have hMerged := mergeEntitiesBulk_spec hMerge
  rcases hMerged.between with ⟨last, hLast, hStart⟩
  have hBetween := runAll_between hStart hElsewhere
  rcases splitEntity_spec hSplit with
    ⟨record, snapshot, hSplitOf⟩
  have hRow : record =
      mergeRow s₀ mergeId sources target last :=
    Option.some.inj (hSplitOf.found.symm.trans hBetween.found)
  subst hRow
  have hSnapshot : snapshot = [(last, s₀.aliasesOf last)] :=
    (Option.some.inj hSplitOf.snapshot_eq).symm
  subst hSnapshot
  generalize Transaction.runAll (call lower) s₁ between = s₂
    at hBetween hSplitOf ⊢
  have hMemLast : last ∈ sources :=
    List.mem_of_getLast? hLast
  have hHolds :
      ∀ owner key, s₃.aliases.Holds owner key ↔
        (owner = last ∧ s₀.aliases.Holds last key ∧
            Restorable key ∧ s₂.aliases.Holds target key) ∨
          (s₂.aliases.Holds owner key ∧
            ¬ (owner = target ∧ s₀.aliases.Holds last key ∧
              Restorable key)) := by
    intro owner key
    have hFold :=
      @holds_foldl_restoreSource last target
        (s₀.aliasesOf last) sources hMerged.nodup hLast
        hMerged.target_not_mem s₂ owner key
    rw [mem_aliasesOf] at hFold
    rw [hSplitOf.aliases]
    exact hFold
  have hTarget : target ≠ last := by
    rintro rfl
    exact hMerged.target_not_mem hMemLast
  constructor
  · intro hRestored source hSource key hKey
    have hAfter :=
      (hRestored.source_aliases source hSource key).mpr hKey
    rcases (hHolds source key).mp hAfter with
      ⟨rfl, -, hRestorable, -⟩ | ⟨hBefore, -⟩
    · exact ⟨hLast, hRestorable⟩
    · exact absurd hBefore (hBetween.none source hSource key)
  · intro hComplete
    refine ⟨?_, ?_, ?_⟩
    · intro source hSource
      have hActive :=
        (foldl_restoreSource [(last, s₀.aliasesOf last)]
          target sources s₂).active_iff source
      unfold Active at hActive ⊢
      rw [hSplitOf.entities]
      exact hActive.mpr
        (Or.inr ⟨hSource, hBetween.entities source hSource⟩)
    · intro source hSource key
      rw [hHolds]
      constructor
      · rintro (⟨rfl, hKey, -⟩ | ⟨hBefore, -⟩)
        · exact hKey
        · exact absurd hBefore
            (hBetween.none source hSource key)
      · intro hKey
        rcases hComplete source hSource key hKey with
          ⟨hIsLast, hRestorable⟩
        have hEq : last = source :=
          Option.some.inj (hLast.symm.trans hIsLast)
        have hMoved : s₁.aliases.Holds target key :=
          hMerged.holds_iff.mpr
            (Or.inr ⟨rfl, source, hSource, hKey⟩)
        left
        rw [hEq]
        exact ⟨rfl, hKey, hRestorable,
          hBetween.kept key hMoved⟩
    · intro key
      rw [hHolds]
      constructor
      · rintro (⟨hEq, -⟩ | ⟨hBefore, hNot⟩)
        · exact absurd hEq hTarget
        · by_cases hMoved : s₁.aliases.Holds target key
          · rcases hMerged.holds_iff.mp hMoved with
              ⟨-, hOwn⟩ | ⟨-, source, hSource, hKey⟩
            · exact Or.inl hOwn
            · rcases hComplete source hSource key hKey with
                ⟨hIsLast, hRestorable⟩
              have hEq : last = source :=
                Option.some.inj (hLast.symm.trans hIsLast)
              rw [← hEq] at hKey
              exact absurd ⟨rfl, hKey, hRestorable⟩ hNot
          · exact Or.inr ⟨hBefore, hMoved⟩
      · rintro (hOwn | ⟨hBefore, hGained⟩)
        · refine Or.inr ⟨?_, ?_⟩
          · apply hBetween.kept
            exact hMerged.holds_iff.mpr
              (Or.inl ⟨hMerged.target_not_mem, hOwn⟩)
          · rintro ⟨-, hKey, -⟩
            exact hTarget (hOwn.unique hKey)
        · refine Or.inr ⟨hBefore, ?_⟩
          rintro ⟨-, hKey, -⟩
          exact hGained
            (hMerged.holds_iff.mpr
              (Or.inr ⟨rfl, last, hMemLast, hKey⟩))

def firm (entityId canonicalName : String) : CanonicalEntity :=
  { entityId := entityId
    entityType := "firm"
    canonicalName := canonicalName
    gln := none
    gtin := none
    fdaRegistration := none
    internalId := none
    isActive := true }

/- Four firms, each with its name for an alias. -/
def fourFirms : Identity :=
  { entities :=
      [firm "a" "Acme", firm "b" "ACME", firm "t" "Acme Inc",
        firm "x" "Acme Foods"]
    aliases :=
      { rows :=
          [("a", ⟨"name", "Acme"⟩), ("b", ⟨"name", "ACME"⟩),
            ("t", ⟨"name", "Acme Inc"⟩),
            ("x", ⟨"name", "Acme Foods"⟩)]
        unique := by decide }
    history := []
    reviews := [] }

/- Another firm is merged into the same target. -/
def otherMerge : List (Transaction IdentityOp) :=
  [{ calls := [.mergeEntitiesBulk "n" ["x"] "t" (some "ops")]
     commits := true }]

/- The merge of one source is undone. -/
theorem splitEntity_restores_one_source :
    ∃ s₁ s₃,
      mergeEntitiesBulk fourFirms "m" ["a"] "t"
          (some "ops") = .ok s₁ ∧
        splitEntity
          (Transaction.runAll (call Python.lower) s₁ otherMerge)
          "s" "m" (some "ops") = .ok s₃ ∧
        Restored fourFirms s₁
          (Transaction.runAll (call Python.lower) s₁ otherMerge)
          s₃ ["a"] "t" := by
  have hRun :
      (do
        let s₁ ←
          mergeEntitiesBulk fourFirms "m" ["a"] "t" (some "ops")
        let s₃ ←
          splitEntity
            (Transaction.runAll (call Python.lower) s₁
              otherMerge)
            "s" "m" (some "ops")
        .ok
          (decide
            (Transaction.AllMeet (call Python.lower)
              (Elsewhere ["a"] "t") s₁ otherMerge),
            s₃.aliases.rows.length)) =
        (.ok (true, 4) : Except IdentityFailure (Bool × Nat)) := by
    decide
  rcases Outcome.bind_eq_ok.mp hRun with ⟨s₁, hMerge, hRest⟩
  rcases Outcome.bind_eq_ok.mp hRest with ⟨s₃, hSplit, hPair⟩
  rw [Except.ok.injEq, Prod.mk.injEq] at hPair
  refine ⟨s₁, s₃, hMerge, hSplit, ?_⟩
  rw [splitEntity_restores_iff Python.lower fourFirms s₁ s₃ "m"
    "s" "t" ["a"] (some "ops") (some "ops") otherMerge hMerge
    (of_decide_eq_true hPair.1) hSplit]
  have hAll :
      ∀ key ∈ fourFirms.aliasesOf "a", Restorable key := by
    decide
  intro source hSource key hKey
  rw [List.mem_singleton] at hSource
  subst hSource
  exact ⟨rfl, hAll key (mem_aliasesOf.mpr hKey)⟩

/-
  Of two sources merged and split at once, the first does not
  get its name back.
-/
theorem not_restored_two_sources :
    ∃ s₁ s₃,
      mergeEntitiesBulk fourFirms "m" ["a", "b"] "t"
          (some "ops") = .ok s₁ ∧
        splitEntity s₁ "s" "m" (some "ops") = .ok s₃ ∧
        s₃.aliases.Holds "t" ⟨"name", "Acme"⟩ ∧
        ¬ Restored fourFirms s₁ s₁ s₃ ["a", "b"] "t" := by
  have hRun :
      (do
        let s₁ ←
          mergeEntitiesBulk fourFirms "m" ["a", "b"] "t"
            (some "ops")
        let s₃ ← splitEntity s₁ "s" "m" (some "ops")
        .ok s₃.aliases.rows) =
        (.ok
          [("t", ⟨"name", "Acme"⟩), ("b", ⟨"name", "ACME"⟩),
            ("t", ⟨"name", "Acme Inc"⟩),
            ("x", ⟨"name", "Acme Foods"⟩)] :
          Except IdentityFailure
            (List (String × AliasKey))) := by
    decide
  rcases Outcome.bind_eq_ok.mp hRun with ⟨s₁, hMerge, hRest⟩
  rcases Outcome.bind_eq_ok.mp hRest with ⟨s₃, hSplit, hRows⟩
  rw [Except.ok.injEq] at hRows
  refine ⟨s₁, s₃, hMerge, hSplit, ?_, ?_⟩
  · simp [Owners.Holds, hRows]
  · intro hRestored
    have hBack :=
      (hRestored.source_aliases "a" (by simp)
        ⟨"name", "Acme"⟩).mpr (by decide)
    simp [Owners.Holds, hRows] at hBack

end Identity

end RegEngine
