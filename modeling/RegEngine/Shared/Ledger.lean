import RegEngine.Shared.CanonicalPersistence.Writer
import RegEngine.Shared.CtePersistence.Batch

/-
  The hash chain as the ledger of four writers: what it means
  for a tenant's rows to be intact, and for a call to append
  to them.

  Main declarations:
    * `Ledger.ChainIntact`
    * `Ledger.Intact`
    * `Ledger.Appends`
-/

--------
-- Intact Chains
--------

namespace RegEngine

open CtePersistence (computeChainHash chainStart)

namespace Ledger

/-
  A tenant's rows are numbered from one, each names the chain
  hash of the row before it, and each carries the hash of its
  event and that name.
-/
def ChainIntact
    (sha256Hex : String → String)
    (rows : List HashChainRow) : Prop :=
  ∀ (index : Nat) (row : HashChainRow),
    rows[index]? = some row →
      row.sequenceNum = index + 1 ∧
        row.previousChainHash =
          (if index = 0 then none
            else (rows[index - 1]?).map
              HashChainRow.chainHash) ∧
        row.chainHash =
          computeChainHash sha256Hex row.eventHash
            row.previousChainHash

/- The chain of every tenant is intact. -/
def Intact
    (sha256Hex : String → String)
    (db : Db) : Prop :=
  ∀ tenantId, ChainIntact sha256Hex (db.chainRows tenantId)

/- The columns of `fsma.hash_chain` as a hash chain. -/
def columns (sha256Hex : String → String) :
    HashChain.Columns HashChainRow String String where
  seq := HashChainRow.sequenceNum
  item := HashChainRow.eventHash
  previous := HashChainRow.previousChainHash
  digest := HashChainRow.chainHash
  link := computeChainHash sha256Hex

/- Intact rows are linked from the genesis. -/
theorem chainIntact_iff_linked
    {sha256Hex : String → String}
    {rows : List HashChainRow} :
    ChainIntact sha256Hex rows ↔
      HashChain.Linked (columns sha256Hex) 1 none rows :=
  (HashChain.linked_iff_getElem? (columns sha256Hex)).symm

/- A database without chain rows is intact. -/
theorem intact_of_nil
    {sha256Hex : String → String}
    {db : Db}
    (hNil : db.hashChain = []) :
    Intact sha256Hex db := by
  intro tenantId index row hGet
  simp [Db.chainRows, hNil] at hGet

/- The head of an intact chain is its last row. -/
theorem chainStart_eq
    {sha256Hex : String → String}
    {db : Db}
    (hIntact : Intact sha256Hex db)
    (tenantId : Uuid) :
    chainStart db tenantId =
      (HashChain.lastDigest (columns sha256Hex) none
          (db.chainRows tenantId),
        1 + ((db.chainRows tenantId).length : Int)) := by
  have hLinked := chainIntact_iff_linked.mp (hIntact tenantId)
  have hHead := HashChain.maxBy_seq (columns sha256Hex) hLinked
  have hRows := hIntact tenantId
  rw [HashChain.lastDigest_eq]
  unfold chainStart Db.chainHead
  rw [show Table.maxBy HashChainRow.sequenceNum
      (db.chainRows tenantId) =
        (db.chainRows tenantId).getLast? from hHead]
  cases hLast : (db.chainRows tenantId).getLast? with
  | none =>
      rw [List.getLast?_eq_none_iff] at hLast
      simp [hLast]
  | some last =>
      rw [List.getLast?_eq_getElem?] at hLast
      have hIdx := (List.getElem?_eq_some_iff.mp hLast).1
      have hSeq := (hRows _ last hLast).1
      refine Prod.ext rfl ?_
      change last.sequenceNum + 1 = _
      rw [hSeq]
      omega

--------
-- Entries
--------

/- The event that a chain row stands for, and its digest. -/
def chainEntry (row : HashChainRow) : Uuid × String :=
  (row.cteEventId, row.eventHash)

/- The event that a legacy row holds, and its digest. -/
def legacyEntry (row : CteEventRow) : Uuid × String :=
  (row.id, row.sha256Hash)

/- The event that a canonical row holds, and its digest. -/
def canonicalEntry (row : TraceabilityEventRow) :
    Uuid × String :=
  (row.eventId, row.sha256Hash.getD "")

/- The entries of the accepted rows of the legacy table. -/
def legacyEntries (rows : List CteEventRow) :
    List (Uuid × String) :=
  (rows.filter (fun row =>
    row.validationStatus != .rejected)).map legacyEntry

/- The entries of the accepted rows of the canonical table. -/
def canonicalEntries (rows : List TraceabilityEventRow) :
    List (Uuid × String) :=
  (rows.filter (fun row =>
    row.status != .rejected)).map canonicalEntry

--------
-- Appending Calls
--------

/-
  Chain rows of one tenant added at the end of the table,
  going on from the tenant's chain head.
-/
structure Appends
    (sha256Hex : String → String)
    (tenantId : Uuid)
    (db db' : Db)
    (added : List HashChainRow) : Prop where
  table : db'.hashChain = db.hashChain ++ added
  tenant : ∀ row ∈ added, row.tenantId = tenantId
  linked :
    HashChain.Linked (columns sha256Hex)
      (chainStart db tenantId).2 (chainStart db tenantId).1 added

variable {db db' : Db} {tenantId : Uuid}

/- A call that leaves the chain alone appends nothing. -/
theorem appends_nil
    {sha256Hex : String → String}
    (hChain : db'.hashChain = db.hashChain) :
    Appends sha256Hex tenantId db db' [] where
  table := by rw [hChain, List.append_nil]
  tenant := by simp
  linked := trivial

variable {added : List HashChainRow}

theorem Appends.chainRows
    {sha256Hex : String → String}
    (hAppends : Appends sha256Hex tenantId db db' added)
    (other : Uuid) :
    db'.chainRows other =
      db.chainRows other ++
        if other = tenantId then added else [] := by
  unfold Db.chainRows
  rw [hAppends.table, List.filter_append]
  congr 1
  split
  · rename_i hSame
    rw [List.filter_eq_self]
    intro row hRow
    simp [hAppends.tenant row hRow, hSame]
  · rename_i hNe
    rw [List.filter_eq_nil_iff]
    intro row hRow
    rw [hAppends.tenant row hRow]
    simpa using fun h => hNe h.symm

/- An append keeps every chain intact. -/
theorem Appends.intact
    {sha256Hex : String → String}
    (hAppends : Appends sha256Hex tenantId db db' added)
    (hIntact : Intact sha256Hex db) :
    Intact sha256Hex db' := by
  intro other
  rw [chainIntact_iff_linked, hAppends.chainRows other]
  split
  · rename_i hSame
    rw [HashChain.linked_append]
    refine ⟨chainIntact_iff_linked.mp (hIntact other), ?_⟩
    have hStart := chainStart_eq hIntact tenantId
    have hLinked := hAppends.linked
    rw [hStart] at hLinked
    rw [hSame]
    exact hLinked
  · rw [List.append_nil]
    exact chainIntact_iff_linked.mp (hIntact other)

/- Two databases with one chain start it alike. -/
theorem chainStart_congr
    (hChain : db'.hashChain = db.hashChain)
    (tenantId : Uuid) :
    chainStart db' tenantId = chainStart db tenantId := by
  simp [chainStart, Db.chainHead, Db.chainRows, hChain]

/- A chain row with the next number is inserted. -/
theorem insertChainEntry_of_start
    {db : Db}
    {row : HashChainRow}
    (hSeq : row.sequenceNum = (chainStart db row.tenantId).2) :
    db.insertChainEntry row =
      .ok { db with hashChain := db.hashChain ++ [row] } := by
  have hBelow :
      ∀ other ∈ db.chainRows row.tenantId,
        other.sequenceNum < row.sequenceNum := by
    intro other hMem
    unfold chainStart at hSeq
    cases hHead : db.chainHead row.tenantId with
    | none =>
        rw [Db.chainHead, Table.maxBy_eq_none] at hHead
        rw [hHead] at hMem
        simp at hMem
    | some head =>
        rw [hHead] at hSeq
        have hLe : other.sequenceNum ≤ head.sequenceNum :=
          Table.le_of_maxBy hMem hHead
        simp only at hSeq
        omega
  have hViolation :
      HashChainRow.constraints.violation db.hashChain row =
        none := by
    simp only [Table.Constraints.violation,
      HashChainRow.constraints, List.findSome?_eq_none_iff,
      ite_eq_right_iff]
    rintro other hMem ⟨hTenant, hSame⟩
    have := hBelow other (by simp [Db.chainRows, hMem, hTenant])
    omega
  have hConflict :
      HashChainRow.constraints.conflict db.hashChain row =
        false := by
    simp [Table.Constraints.conflict, HashChainRow.constraints]
  have hCheck : HashChainRow.constraints.check row = none := rfl
  unfold Db.insertChainEntry Table.insertRow
  simp only [hCheck, hConflict, hViolation]
  rfl

/- The chain goes on from a row with the next number. -/
theorem chainStart_append
    {db : Db}
    {row : HashChainRow}
    (hSeq : row.sequenceNum = (chainStart db row.tenantId).2) :
    chainStart { db with hashChain := db.hashChain ++ [row] }
        row.tenantId =
      (some row.chainHash, row.sequenceNum + 1) := by
  have hHead :
      Db.chainHead
          { db with hashChain := db.hashChain ++ [row] }
          row.tenantId =
        some row := by
    unfold Db.chainHead Db.chainRows
    rw [List.filter_append, List.filter_cons_of_pos (by simp),
      List.filter_nil, Table.maxBy_concat]
    unfold chainStart Db.chainHead Db.chainRows at hSeq
    cases hArg :
        Table.maxBy HashChainRow.sequenceNum
          (db.hashChain.filter (fun other =>
            other.tenantId == row.tenantId)) with
    | none => rfl
    | some head =>
        rw [hArg] at hSeq
        simp only at hSeq ⊢
        rw [if_pos (by omega)]
  rw [chainStart, hHead]

/- Inserting a chain row puts it at the end. -/
theorem insertChainEntry_eq
    {db db' : Db}
    {row : HashChainRow}
    (hInsert : db.insertChainEntry row = .ok db') :
    db' = { db with hashChain := db.hashChain ++ [row] } := by
  unfold Db.insertChainEntry at hInsert
  rcases Outcome.bind_eq_ok.mp hInsert with
    ⟨⟨table, inserted⟩, hRow, hDb⟩
  rw [← Outcome.pure_eq_ok.mp hDb]
  rcases Table.insertRow_cases hRow with
    ⟨-, hConflict, -⟩ | ⟨-, -, -, hTable⟩
  · simp [Table.Constraints.conflict,
      HashChainRow.constraints] at hConflict
  · rw [hTable]

/- Inserting many chain rows puts them at the end in turn. -/
theorem foldlM_insertChainEntry
    {rows : List HashChainRow}
    {db db' : Db}
    (hInsert : rows.foldlM Db.insertChainEntry db = .ok db') :
    db' = { db with hashChain := db.hashChain ++ rows } := by
  induction rows generalizing db with
  | nil =>
      rw [List.foldlM_nil] at hInsert
      rw [← Outcome.pure_eq_ok.mp hInsert, List.append_nil]
  | cons row rest ih =>
      rcases Outcome.foldlM_cons_eq_ok.mp hInsert with
        ⟨next, hNext, hRest⟩
      rw [ih hRest, insertChainEntry_eq hNext]
      simp

end Ledger

end RegEngine
