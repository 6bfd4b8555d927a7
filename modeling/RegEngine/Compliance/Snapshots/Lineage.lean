import RegEngine.Compliance.Snapshots
import RegEngine.Library.Machine

/-
  Seals, attestations and successors of the compliance
  snapshots over whole runs of overlapping requests.

  Main declarations:
    * `Snapshots.Store.AppendOnly`
    * `Snapshots.singleLineage_iff_unsuperseded`
    * `Snapshots.not_singleLineage`
-/

--------
-- A Single Attested Lineage
--------

namespace RegEngine

namespace Snapshots

section

variable {ω : Type}

/- Every stored hash verifies as v2 over its row. -/
def Store.AllSealed (env : Env) (s : Store ω) : Prop :=
  ∀ id row, s.rows.find id = some row →
    sealVersion env row = some hashVersion

/- How many attestations were written to a row. -/
def Store.attestations (s : Store ω) (id : String) : Nat :=
  s.history.count (.attested id)

/- The rows by which a row was superseded. -/
def Write.successor? (id : String) : Write → Option String
| .attested _ => none
| .superseded other newId => if other = id then some newId else none

def Store.successors (s : Store ω) (id : String) :
    List String :=
  s.history.filterMap (Write.successor? id)

/-
  What becomes of the superseded rows of a state further on in
  a run: nothing, the forward pointer included; they are not
  attested, and get no other successor.
-/
structure Store.AppendOnly (before after : Store ω) : Prop where
  kept :
    ∀ id row, before.rows.find id = some row →
      row.snapshotState = .superseded →
        after.rows.find id = some row
  unattested :
    ∀ id row, before.rows.find id = some row →
      row.snapshotState = .superseded →
        after.attestations id = before.attestations id
  unsucceeded :
    ∀ id row, before.rows.find id = some row →
      row.snapshotState = .superseded →
        after.successors id = before.successors id

theorem Store.AppendOnly.refl
    (s : Store ω) :
    s.AppendOnly s :=
  ⟨fun _ _ hFind _ => hFind, fun _ _ _ _ => rfl,
    fun _ _ _ _ => rfl⟩

theorem Store.AppendOnly.trans
    {first second third : Store ω}
    (hFirst : first.AppendOnly second)
    (hSecond : second.AppendOnly third) :
    first.AppendOnly third := by
  refine ⟨?_, ?_, ?_⟩
  · intro id row hFind hState
    exact hSecond.kept id row
      (hFirst.kept id row hFind hState) hState
  · intro id row hFind hState
    rw [hSecond.unattested id row
      (hFirst.kept id row hFind hState) hState]
    exact hFirst.unattested id row hFind hState
  · intro id row hFind hState
    rw [hSecond.unsucceeded id row
      (hFirst.kept id row hFind hState) hState]
    exact hFirst.unsucceeded id row hFind hState

variable [DecidableEq ω]

/-
  A single attested lineage: in every state of a run the seals
  hold and no row has two successors, and superseded rows stay
  as they are.
-/
structure SingleLineage
    (env : Env)
    (s : Store ω)
    (actions : List (Action ω)) : Prop where
  allSealed :
    ∀ before, before <+: actions →
      (s.run env before).AllSealed env
  oneSuccessor :
    ∀ before, before <+: actions → ∀ id,
      ((s.run env before).successors id).length ≤ 1
  appendOnly :
    ∀ before later, before <+: later → later <+: actions →
      (s.run env before).AppendOnly (s.run env later)

/- The row that a step attests or supersedes. -/
def Store.target (env : Env) (s : Store ω) :
    Action ω → Option String
| .attest request now payload =>
    match s.read request with
    | none => none
    | some (id, row) =>
        match attestSnapshot env row payload now with
        | .error _ => none
        | .ok _ => some id
| .refreeze request now createdBy newId alerts =>
    match s.read request with
    | none => none
    | some (id, row) =>
        match refreezeSnapshot env row createdBy newId now
            alerts with
        | .error _ => none
        | .ok _ =>
            if (s.rows.find newId).isSome then none else some id
| _ => none

/-
  A request that writes about the row it has read finds that
  row not superseded.
-/
def Store.Unsuperseded
    (env : Env)
    (s : Store ω)
    (a : Action ω) : Prop :=
  ∀ id ∈ s.target env a, ∀ row, s.rows.find id = some row →
    row.snapshotState ≠ .superseded

/- Whether a step finds its row open can be decided. -/
instance decidableUnsuperseded
    (env : Env)
    (s : Store ω)
    (a : Action ω) :
    Decidable (s.Unsuperseded env a) :=
  decidable_of_iff
    ((s.target env a).all (fun id =>
      (s.rows.find id).all (fun row =>
        row.snapshotState ≠ .superseded)) = true)
    (by simp [Store.Unsuperseded, Option.all_eq_true])

end

--------
-- Superseded Rows
--------

section

variable {ω : Type}

/- A row that is there stays there after an insert. -/
theorem find_add_of_some
    {rows : Keyed String SnapshotRow}
    {newId id : String}
    {new row : SnapshotRow}
    (hFind : rows.find id = some row) :
    (rows.add newId new).find id = some row := by
  rw [Keyed.find_add]
  split
  · rename_i hSame
    rw [← hSame, hFind]
    rfl
  · exact hFind

variable [DecidableEq ω]
variable {a : Action ω} {env : Env} {s : Store ω}

/- A step without a target changes no row there is. -/
theorem Store.step_of_target_eq_none
    (hTarget : s.target env a = none) :
    (∀ id row, s.rows.find id = some row →
        (s.step env a).rows.find id = some row) ∧
      (s.step env a).history = s.history := by
  cases a with
  | create newId now payload alerts =>
    exact ⟨fun _ _ hFind => find_add_of_some hFind, rfl⟩
  | fetch request id =>
    simp only [Store.step]
    split
    · exact ⟨fun _ _ hFind => hFind, rfl⟩
    · exact ⟨fun _ _ hFind => hFind, rfl⟩
  | attest request now payload =>
    simp only [Store.target] at hTarget
    simp only [Store.step]
    split
    · exact ⟨fun _ _ hFind => hFind, rfl⟩
    · rename_i id row hRead
      simp only [hRead] at hTarget
      split
      · exact ⟨fun _ _ hFind => hFind, rfl⟩
      · rename_i attestation hAttest
        simp only [hAttest] at hTarget
        cases hTarget
  | refreeze request now createdBy newId alerts =>
    simp only [Store.target] at hTarget
    simp only [Store.step]
    split
    · exact ⟨fun _ _ hFind => hFind, rfl⟩
    · rename_i id row hRead
      simp only [hRead] at hTarget
      split
      · exact ⟨fun _ _ hFind => hFind, rfl⟩
      · rename_i refreeze hRefreeze
        simp only [hRefreeze] at hTarget
        unfold Store.refreeze
        split
        · exact ⟨fun _ _ hFind => hFind, rfl⟩
        · rename_i hFree
          simp only [hFree] at hTarget
          cases hTarget

/- A step with a target writes about that row alone. -/
theorem Store.step_of_target_eq_some
    {id : String}
    (hTarget : s.target env a = some id) :
    ∃ write,
      (write = .attested id ∨
        ∃ newId, write = .superseded id newId ∧
          ∀ before, s.rows.find id = some before →
            ∃ row, (s.step env a).rows.find id = some row ∧
              row.snapshotState = .superseded) ∧
      (s.step env a).history = s.history ++ [write] ∧
      ∀ other, other ≠ id → ∀ row,
        s.rows.find other = some row →
          (s.step env a).rows.find other = some row := by
  cases a with
  | create newId now payload alerts => cases hTarget
  | fetch request other => cases hTarget
  | attest request now payload =>
    simp only [Store.target] at hTarget
    simp only [Store.step]
    split
    · rename_i hRead
      simp only [hRead] at hTarget
      cases hTarget
    · rename_i id' row hRead
      simp only [hRead] at hTarget
      split
      · rename_i refusal hAttest
        simp only [hAttest] at hTarget
        cases hTarget
      · rename_i attestation hAttest
        simp only [hAttest, Option.some.injEq] at hTarget
        subst hTarget
        refine ⟨.attested id', Or.inl rfl, rfl, ?_⟩
        intro other hNe stored hFind
        change (s.rows.set id' attestation.write).find other = _
        rw [Keyed.find_set, if_neg hNe]
        exact hFind
  | refreeze request now createdBy newId alerts =>
    simp only [Store.target] at hTarget
    simp only [Store.step]
    split
    · rename_i hRead
      simp only [hRead] at hTarget
      cases hTarget
    · rename_i id' row hRead
      simp only [hRead] at hTarget
      split
      · rename_i refusal hRefreeze
        simp only [hRefreeze] at hTarget
        cases hTarget
      · rename_i refreeze hRefreeze
        simp only [hRefreeze] at hTarget
        unfold Store.refreeze
        split
        · rename_i taken hTaken
          simp only [hTaken] at hTarget
          cases hTarget
        · rename_i hFree
          simp only [hFree] at hTarget
          rw [if_neg (by simp), Option.some.injEq] at hTarget
          subst hTarget
          refine ⟨.superseded id' newId,
            Or.inr ⟨newId, rfl, ?_⟩, rfl, ?_⟩
          · intro before hFind
            refine ⟨refreeze.write before,
              Keyed.find_set_eq_some.mpr
                ⟨before, find_add_of_some hFind, ?_⟩, rfl⟩
            rw [if_pos rfl]
          · intro other hNe stored hFind
            change ((s.rows.add newId refreeze.successor).set
              id' refreeze.write).find other = _
            rw [Keyed.find_set, if_neg hNe]
            exact find_add_of_some hFind

/- A step is append-only when its target is not superseded. -/
theorem appendOnly_step_iff
    (env : Env)
    (s : Store ω)
    (a : Action ω) :
    s.AppendOnly (s.step env a) ↔ s.Unsuperseded env a := by
  cases hTarget : s.target env a with
  | none =>
    rcases Store.step_of_target_eq_none hTarget with
      ⟨hRows, hHistory⟩
    refine iff_of_true ?_ (by simp [Store.Unsuperseded, hTarget])
    refine ⟨fun id row hFind _ => hRows id row hFind, ?_, ?_⟩
    · intro id row _ _
      rw [Store.attestations, hHistory, Store.attestations]
    · intro id row _ _
      rw [Store.successors, hHistory, Store.successors]
  | some id =>
    rcases Store.step_of_target_eq_some hTarget with
      ⟨write, hWrite, hHistory, hRows⟩
    constructor
    · intro hAppend id' hMem stored hFind hState
      rw [hTarget, Option.mem_some_iff] at hMem
      subst hMem
      rcases hWrite with rfl | ⟨newId, rfl, -⟩
      · have hCount := hAppend.unattested id stored hFind hState
        rw [Store.attestations, hHistory, List.count_append,
          List.count_singleton_self] at hCount
        exact absurd hCount (Nat.succ_ne_self _)
      · have hSame := hAppend.unsucceeded id stored hFind hState
        rw [Store.successors, hHistory, List.filterMap_append]
          at hSame
        have hLength := congrArg List.length hSame
        simp [Write.successor?, Store.successors] at hLength
    · intro hOpen
      have hOther : ∀ other row,
          s.rows.find other = some row →
            row.snapshotState = .superseded → other ≠ id := by
        intro other row hFind hState hSame
        rw [hSame] at hFind
        exact hOpen id hTarget row hFind hState
      refine ⟨?_, ?_, ?_⟩
      · intro other row hFind hState
        exact hRows other (hOther other row hFind hState) row
          hFind
      · intro other row hFind hState
        have hNe := hOther other row hFind hState
        have hNone : [write].count (.attested other) = 0 := by
          apply List.count_eq_zero.mpr
          rw [List.mem_singleton]
          rcases hWrite with rfl | ⟨newId, rfl, -⟩
          · simpa using hNe
          · simp
        rw [Store.attestations, hHistory, List.count_append,
          hNone, Nat.add_zero, Store.attestations]
      · intro other row hFind hState
        have hNe := hOther other row hFind hState
        rw [Store.successors, hHistory, List.filterMap_append,
          Store.successors]
        rcases hWrite with rfl | ⟨newId, rfl, -⟩
        · simp [Write.successor?]
        · simp [Write.successor?, hNe.symm]

end

--------
-- Seals
--------

section

/- What no request changes in a row. -/
def SnapshotRow.identity (row : SnapshotRow) : SnapshotRow :=
  { row with
    isAttested := false
    attestedBy := none
    attestedAt := none
    attestationTitle := none
    complianceStatus := ""
    activeAlertCount := 0
    criticalAlertCount := 0
    contentHash := ""
    snapshotState := .valid
    degradationReason := none }

variable {env : Env}

/- A row whose hash is that of its sealed values. -/
theorem sealVersion_of_hash
    {row : SnapshotRow}
    (hHash :
      row.contentHash =
        contentHashV2 env (sealedValues env row)) :
    sealVersion env row = some hashVersion :=
  if_pos hHash.symm

theorem sealVersion_insertedRow
    (env : Env)
    (snapshotName : String)
    (snapshotReason : Option String)
    (createdBy : String)
    (capturedAt : Int)
    (posture : Posture) :
    sealVersion env
        (insertedRow env snapshotName snapshotReason createdBy
          capturedAt posture) =
      some hashVersion :=
  sealVersion_of_hash rfl

/- The forward pointer stands outside the seal. -/
theorem sealVersion_refreeze
    (env : Env)
    (refreeze : Refreeze)
    (row : SnapshotRow) :
    sealVersion env (refreeze.write row) =
      sealVersion env row :=
  rfl

variable {now : Int}

/-
  An attestation seals the row that it is written to, also
  when that is no longer as it was read.
-/
theorem sealVersion_attestation
    {row stored : SnapshotRow}
    {payload : SnapshotAttestRequest}
    {attestation : Attestation}
    (hSealed : sealVersion env row = some hashVersion)
    (hAttest :
      attestSnapshot env row payload now = .ok attestation)
    (hSame : stored.identity = row.identity) :
    sealVersion env (attestation.write stored) =
      some hashVersion := by
  apply sealVersion_of_hash
  have hValues :
      sealedValues env (attestation.write stored) =
        sealedValues env (attestation.write row) := by
    change sealedValues env (attestation.write stored.identity) =
      sealedValues env (attestation.write row.identity)
    rw [hSame]
  rw [hValues]
  simp only [attestSnapshot, hSealed] at hAttest
  split at hAttest
  · cases hAttest
  · rw [← Except.ok.inj hAttest]
    rfl

/- A refreeze freezes a sealed row. -/
theorem sealVersion_successor
    {row : SnapshotRow}
    {createdBy : Option String}
    {newId : String}
    {alerts : Option (Int × Int)}
    {refreeze : Refreeze}
    (hRefreeze :
      refreezeSnapshot env row createdBy newId now alerts =
        .ok refreeze) :
    sealVersion env refreeze.successor = some hashVersion := by
  unfold refreezeSnapshot at hRefreeze
  split at hRefreeze
  · cases hRefreeze
  · split at hRefreeze
    · cases hRefreeze
    · rw [← Except.ok.inj hRefreeze]
      exact sealVersion_insertedRow env _ _ _ _ _

variable {ω : Type}

/-
  Every row is sealed, and what a request has read was sealed
  and has the identity of the row that is there.
-/
structure Store.Inv (env : Env) (s : Store ω) : Prop where
  allSealed : s.AllSealed env
  read :
    ∀ request id row, s.read request = some (id, row) →
      sealVersion env row = some hashVersion ∧
        ∃ stored, s.rows.find id = some stored ∧
          stored.identity = row.identity

variable [DecidableEq ω] {s : Store ω}

theorem Store.Inv.endRead
    (hInv : s.Inv env)
    (request : ω) :
    (s.withRead request none).Inv env := by
  refine ⟨hInv.allSealed, ?_⟩
  intro other id row hRead
  change Function.update _ _ _ _ = _ at hRead
  by_cases hSame : other = request
  · rw [hSame, Function.update_self] at hRead
    cases hRead
  · rw [Function.update_of_ne hSame] at hRead
    exact hInv.read other id row hRead

/- A row is inserted. -/
omit [DecidableEq ω] in
theorem Store.Inv.add
    {s : Store ω}
    (hInv : s.Inv env)
    (newId : String)
    {row : SnapshotRow}
    (hSealed : sealVersion env row = some hashVersion) :
    Store.Inv env
      { s with rows := s.rows.add newId row } := by
  refine ⟨?_, ?_⟩
  · intro id found hFind
    rw [Keyed.find_add] at hFind
    split at hFind
    · cases hTaken : s.rows.find newId with
      | none =>
        rw [hTaken] at hFind
        rw [← Option.some.inj hFind]
        exact hSealed
      | some taken =>
        rw [hTaken] at hFind
        rw [← Option.some.inj hFind]
        exact hInv.allSealed newId taken hTaken
    · exact hInv.allSealed id found hFind
  · intro request id read hRead
    rcases hInv.read request id read hRead with
      ⟨hWas, stored, hFind, hSame⟩
    exact ⟨hWas, stored, find_add_of_some hFind, hSame⟩

/- A row is updated, its identity is kept. -/
omit [DecidableEq ω] in
theorem Store.Inv.set
    {s : Store ω}
    (hInv : s.Inv env)
    {id : String}
    {write : SnapshotRow → SnapshotRow}
    (hSealed : ∀ row, s.rows.find id = some row →
      sealVersion env (write row) = some hashVersion)
    (hIdentity : ∀ row, (write row).identity = row.identity)
    (history : List Write) :
    Store.Inv env
      { s with
        rows := s.rows.set id write
        history := history } := by
  refine ⟨?_, ?_⟩
  · intro other row hFind
    rcases Keyed.find_set_eq_some.mp hFind with
      ⟨before, hBefore, rfl⟩
    split
    · rename_i hSame
      rw [hSame] at hBefore
      exact hSealed before hBefore
    · exact hInv.allSealed other before hBefore
  · intro request other read hRead
    rcases hInv.read request other read hRead with
      ⟨hWas, stored, hFind, hSame⟩
    refine ⟨hWas, _, Keyed.find_set_eq_some.mpr
      ⟨stored, hFind, rfl⟩, ?_⟩
    split
    · rw [hIdentity]
      exact hSame
    · exact hSame

/- Every step keeps the seals. -/
theorem Store.Inv.step
    (hInv : s.Inv env)
    (a : Action ω) :
    (s.step env a).Inv env := by
  cases a with
  | create newId now payload alerts =>
    exact hInv.add newId (sealVersion_insertedRow env _ _ _ _ _)
  | fetch request id =>
    simp only [Store.step]
    split
    · rename_i row hFind
      refine ⟨hInv.allSealed, ?_⟩
      intro other id' read hRead
      change Function.update _ _ _ _ = _ at hRead
      by_cases hSame : other = request
      · rw [hSame, Function.update_self, Option.some.injEq,
          Prod.mk.injEq] at hRead
        rcases hRead with ⟨rfl, rfl⟩
        exact ⟨hInv.allSealed id row hFind, row, hFind, rfl⟩
      · rw [Function.update_of_ne hSame] at hRead
        exact hInv.read other id' read hRead
    · exact hInv
  | attest request now payload =>
    simp only [Store.step]
    split
    · exact hInv
    · rename_i id row hRead
      rcases hInv.read request id row hRead with
        ⟨hSealed, stored, hFind, hSame⟩
      split
      · exact hInv.endRead request
      · rename_i attestation hAttest
        refine Store.Inv.endRead (hInv.set ?_ ?_ _) request
        · intro found hFound
          rw [hFind, Option.some.injEq] at hFound
          rw [← hFound]
          exact sealVersion_attestation hSealed hAttest hSame
        · intro found
          rfl
  | refreeze request now createdBy newId alerts =>
    simp only [Store.step]
    split
    · exact hInv
    · rename_i id row hRead
      split
      · exact hInv.endRead request
      · rename_i refreeze hRefreeze
        apply Store.Inv.endRead
        unfold Store.refreeze
        split
        · exact hInv
        · have hAdded := hInv.add newId
            (sealVersion_successor hRefreeze)
          refine hAdded.set ?_ ?_ _
          · intro found hFound
            rw [sealVersion_refreeze]
            exact hAdded.allSealed id found hFound
          · intro found
            rfl

end

--------
-- Runs
--------

variable {ω : Type} [DecidableEq ω]

/- A row that has a successor is superseded, and has one. -/
def Store.Counted (s : Store ω) : Prop :=
  ∀ id, s.successors id = [] ∨
    (s.successors id).length = 1 ∧
      ∃ row, s.rows.find id = some row ∧
        row.snapshotState = .superseded

variable {a : Action ω} {env : Env} {s : Store ω}

/- The row a step is about has been read, and is there. -/
omit [DecidableEq ω] in
theorem Store.Inv.find_target
    (hInv : s.Inv env)
    {id : String}
    (hTarget : s.target env a = some id) :
    ∃ stored, s.rows.find id = some stored := by
  have hRead : ∃ request row,
      s.read request = some (id, row) := by
    cases a with
    | create newId now payload alerts => cases hTarget
    | fetch request other => cases hTarget
    | attest request now payload =>
      simp only [Store.target] at hTarget
      split at hTarget
      · cases hTarget
      · rename_i id' row hRead
        split at hTarget
        · cases hTarget
        · rw [← Option.some.inj hTarget]
          exact ⟨request, row, hRead⟩
    | refreeze request now createdBy newId alerts =>
      simp only [Store.target] at hTarget
      split at hTarget
      · cases hTarget
      · rename_i id' row hRead
        split at hTarget
        · cases hTarget
        · split at hTarget
          · cases hTarget
          · rw [← Option.some.inj hTarget]
            exact ⟨request, row, hRead⟩
  rcases hRead with ⟨request, row, hRead⟩
  rcases (hInv.read request id row hRead).2 with
    ⟨stored, hFind, -⟩
  exact ⟨stored, hFind⟩

/- A step about an open row keeps the count of successors. -/
theorem Store.Counted.step
    (hInv : s.Inv env)
    (hCounted : s.Counted)
    (hOpen : s.Unsuperseded env a) :
    (s.step env a).Counted := by
  have hAppend := (appendOnly_step_iff env s a).mpr hOpen
  -- a row that has its successor stays as it is
  have hSettled : ∀ id row,
      (s.successors id).length = 1 →
        s.rows.find id = some row →
          row.snapshotState = .superseded →
            ((s.step env a).successors id).length = 1 ∧
              ∃ row', (s.step env a).rows.find id = some row' ∧
                row'.snapshotState = .superseded := by
    intro id row hOne hFind hState
    rw [hAppend.unsucceeded id row hFind hState]
    exact ⟨hOne, row, hAppend.kept id row hFind hState, hState⟩
  intro id
  rcases hCounted id with hNone | ⟨hOne, row, hFind, hState⟩
  · cases hTarget : s.target env a with
    | none =>
      left
      rw [Store.successors,
        (Store.step_of_target_eq_none hTarget).2]
      exact hNone
    | some target =>
      rcases Store.step_of_target_eq_some hTarget with
        ⟨write, hWrite, hHistory, -⟩
      have hSuccessors :
          (s.step env a).successors id =
            (write.successor? id).toList := by
        rw [Store.successors, hHistory, List.filterMap_append]
        change s.successors id ++ _ = _
        rw [hNone, List.nil_append]
        cases hIts : write.successor? id with
        | none => simp [hIts]
        | some newId => simp [hIts]
      rcases hWrite with rfl | ⟨newId, rfl, hSuperseded⟩
      · left
        rw [hSuccessors]
        rfl
      · by_cases hSame : target = id
        · right
          subst hSame
          rcases hInv.find_target hTarget with
            ⟨stored, hStored⟩
          refine ⟨?_, hSuperseded stored hStored⟩
          rw [hSuccessors]
          simp [Write.successor?]
        · left
          rw [hSuccessors]
          simp [Write.successor?, hSame]
  · exact Or.inr (hSettled id row hOne hFind hState)

/-
  From sealed rows and before the first request, a run is a
  single attested lineage exactly when every request that
  writes about a row finds it not superseded.
-/
theorem singleLineage_iff_unsuperseded
    {env : Env}
    {s : Store ω}
    (hSealed : s.AllSealed env)
    (hIdle : ∀ request, s.read request = none)
    (hHistory : s.history = [])
    (actions : List (Action ω)) :
    SingleLineage env s actions ↔
      Machine.Meets (Machine.total (Store.step env))
        (Store.Unsuperseded env) s actions := by
  have hInv : s.Inv env := by
    refine ⟨hSealed, ?_⟩
    intro request id row hRead
    rw [hIdle] at hRead
    cases hRead
  have hRelated := Machine.related_iff_meets
    Store.AppendOnly.refl Store.AppendOnly.trans
    (appendOnly_step_iff env) s actions
  constructor
  · intro hLineage
    exact hRelated.mp hLineage.appendOnly
  · intro hMeets
    have hCounted : s.Counted := by
      intro id
      left
      rw [Store.successors, hHistory]
      rfl
    have hKeeps : ∀ (t : Store ω) (a : Action ω),
        t.Inv env ∧ t.Counted → t.Unsuperseded env a →
          (t.step env a).Inv env ∧ (t.step env a).Counted := by
      rintro t a ⟨hHere, hCount⟩ hOpen
      exact ⟨hHere.step a, hCount.step hHere hOpen⟩
    have hAlways : ∀ before, before <+: actions →
        (s.run env before).Inv env ∧
          (s.run env before).Counted := by
      rintro before ⟨rest, rfl⟩
      exact Machine.foldl_invariant hKeeps ⟨hInv, hCounted⟩
        hMeets.initial
    refine ⟨?_, ?_, hRelated.mpr hMeets⟩
    · intro before hBefore
      exact (hAlways before hBefore).1.allSealed
    · intro before hBefore id
      rcases (hAlways before hBefore).2 id with
        hNone | ⟨hOne, -⟩
      · rw [hNone]
        exact Nat.zero_le _
      · exact Nat.le_of_eq hOne

/- The number of an entry, or the length of its text. -/
def exampleWeight : Json → Nat
| .scalar (.int value) => value.natAbs
| .scalar (.bool true) => 1
| .str text => text.length
| _ => 0

/- A tenant whose hash is a checksum of the payload. -/
def exampleEnv : Env where
  tenantId := "tenant"
  iso := fun micros => toString micros
  digest := fun payload =>
    match payload with
    | .obj entries =>
        toString (entries.foldl (fun total entry =>
          31 * total + exampleWeight entry.2) entries.length)
    | _ => ""

/- No rows and no requests. -/
def Store.empty : Store Bool where
  rows := Keyed.empty
  read := fun _ => none
  history := []

/- A snapshot is frozen, attested, and then superseded. -/
theorem singleLineage_refrozen :
    SingleLineage exampleEnv Store.empty
      [.create "a" 1 ⟨"Audit", none, "ops"⟩ (some (0, 0)),
        .fetch true "a", .attest true 2 ⟨"qa", "QA Lead"⟩,
        .fetch false "a", .refreeze false 3 none "b" none] := by
  refine (singleLineage_iff_unsuperseded ?_ (fun _ => rfl) rfl
    _).mpr ?_
  · intro id row hFind
    cases hFind
  · decide

/-
  A request reads the row and is about to attest it; another
  one reads it, too, and supersedes it first.
-/
def crossedRequests : List (Action Bool) :=
  [.create "a" 1 ⟨"Audit", none, "ops"⟩ (some (0, 0)),
    .fetch true "a", .fetch false "a",
    .refreeze false 2 none "b" (some (0, 0)),
    .attest true 3 ⟨"qa", "QA Lead"⟩]

/- The forward pointer is gone, and the row is attested. -/
theorem not_singleLineage :
    ¬ ∀ actions : List (Action Bool),
      SingleLineage exampleEnv Store.empty actions := by
  intro hAll
  have hAppend :=
    (hAll crossedRequests).appendOnly (crossedRequests.take 4)
      crossedRequests (List.take_prefix 4 _) List.prefix_rfl
  have hBefore :
      (((Store.empty.run exampleEnv
          (crossedRequests.take 4)).rows.find "a").map
            (fun row =>
              (row.snapshotState, row.degradationReason))) =
        some (.superseded,
          some "Superseded by snapshot b re-captured at 2") := by
    decide
  have hAfter :
      (((Store.empty.run exampleEnv crossedRequests).rows.find
          "a").map SnapshotRow.degradationReason) =
        some none := by
    decide
  rcases Option.map_eq_some_iff.mp hBefore with
    ⟨row, hFind, hRow⟩
  rw [Prod.mk.injEq] at hRow
  rw [hAppend.kept "a" row hFind hRow.1, Option.map_some,
    hRow.2] at hAfter
  cases hAfter

end Snapshots

end RegEngine
