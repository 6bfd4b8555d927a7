import RegEngine.Library.Query.Recursive
import RegEngine.Shared.CtePersistence.Completeness

/-
  The recursive query that expands a lot along transformation
  links, with its depths and directions, and the form of it
  for a list of seeds.

  Main declarations:
    * `CtePersistence.tlcGraph`
    * `CtePersistence.expandDetailed_exact`
    * `CtePersistence.not_expandDetailed_seed`
-/

--------
-- The Recursive Query
--------

namespace RegEngine

namespace CtePersistence

/- `TRACE_DIRECTIONS`. -/
inductive TraceDirection where
  | forward
  | backward
  | both
  deriving DecidableEq

/- `_DIRECTION_SEED_VALUES`. -/
def TraceDirection.directions :
    TraceDirection → List Direction
| .forward => [.forward]
| .backward => [.backward]
| .both => [.forward, .backward]

/- A row of `tlc_graph`. -/
structure GraphRow where
  tlc : String
  depth : Nat
  dir : Direction
  deriving DecidableEq

/- The seeds, once for each direction. -/
def seedRows
    (seeds : List String)
    (direction : TraceDirection) : List GraphRow :=
  (seeds.flatMap (fun tlc =>
    direction.directions.map (fun dir => ⟨tlc, 0, dir⟩))).dedup

/- The row that a link gives to a row, if they join. -/
def stepRow
    (maxDepth : Nat)
    (link : TransformationLinkRow)
    (row : GraphRow) : Option GraphRow :=
  if row.depth < maxDepth then
    match row.dir with
    | .forward =>
        if row.tlc = link.inputTlc then
          some ⟨link.outputTlc, row.depth + 1, .forward⟩
        else none
    | .backward =>
        if row.tlc = link.outputTlc then
          some ⟨link.inputTlc, row.depth + 1, .backward⟩
        else none
  else none

/- The recursive term. -/
def stepGraph
    (links : List TransformationLinkRow)
    (maxDepth : Nat)
    (rows : List GraphRow) : List GraphRow :=
  links.flatMap (fun link =>
    rows.filterMap (stepRow maxDepth link))

/- `tlc_graph`: no row is deeper than the rounds reach. -/
def tlcGraph
    (links : List TransformationLinkRow)
    (seeds : List String)
    (direction : TraceDirection)
    (maxDepth : Nat) : List GraphRow :=
  Query.recursiveUnion (stepGraph links maxDepth) (maxDepth + 1)
    (seedRows seeds direction) (seedRows seeds direction)

/- `MIN(depth)` of a group. -/
def minDepth (rows : List GraphRow) : Nat :=
  ((rows.map GraphRow.depth).min?).getD 0

/- `per_direction`. -/
def perDirection (rows : List GraphRow) : List GraphRow :=
  ((rows.map (fun row => (row.tlc, row.dir))).dedup).map
    (fun key =>
      ⟨key.1,
        minDepth (rows.filter (fun row =>
          row.tlc = key.1 ∧ row.dir = key.2)),
        key.2⟩)

/- A row of the result of the query. -/
structure ExpansionRow where
  tlc : String
  depth : Nat
  viaForward : Bool
  viaBackward : Bool
  atLimit : Bool
  deriving DecidableEq

/- The two walks to a lot, collapsed into one row. -/
def collapse
    (maxDepth : Nat)
    (rows : List GraphRow) : List ExpansionRow :=
  ((rows.map GraphRow.tlc).dedup).map (fun tlc =>
    let group := rows.filter (fun row => row.tlc = tlc)
    { tlc := tlc
      depth := minDepth group
      viaForward := group.any (fun row => row.dir = .forward)
      viaBackward := group.any (fun row => row.dir = .backward)
      atLimit := group.any (fun row => maxDepth ≤ row.depth) })

/- An entry of `reached_via`. -/
structure Reached where
  depth : Nat
  downstream : Bool
  upstream : Bool
  deriving DecidableEq

/- `TlcExpansion`. -/
structure Expansion where
  tlcs : List String
  depthExhausted : Bool
  direction : TraceDirection
  maxDepth : Nat
  reachedVia : List (String × Reached)
  deriving DecidableEq

/- `_expand_tlcs_detailed`, for a depth that is not negative. -/
def expandDetailed
    (db : Db)
    (tenantId : Uuid)
    (seed : String)
    (maxDepth : Nat)
    (direction : TraceDirection) : Expansion :=
  let rows := collapse maxDepth (perDirection
    (tlcGraph (tenantLinks db tenantId) [seed] direction
      maxDepth))
  if rows = [] then
    { tlcs := [seed]
      depthExhausted := false
      direction := direction
      maxDepth := maxDepth
      reachedVia := [(seed, ⟨0, false, false⟩)] }
  else
    { tlcs := rows.map ExpansionRow.tlc
      depthExhausted := rows.any ExpansionRow.atLimit
      direction := direction
      maxDepth := maxDepth
      reachedVia := rows.map (fun row =>
        (row.tlc,
          { depth := row.depth
            downstream := row.viaForward && row.tlc != seed
            upstream := row.viaBackward && row.tlc != seed })) }

/-
  `_expand_tlcs_via_transformation_links_batch`, for a depth
  that is not negative.
-/
def expandBatch
    (db : Db)
    (tenantId : Uuid)
    (seeds : List String)
    (maxDepth : Nat)
    (direction : TraceDirection) : List String :=
  if seeds = [] then []
  else
    let rows := ((tlcGraph (tenantLinks db tenantId) seeds
      direction maxDepth).map GraphRow.tlc).dedup
    if rows = [] then seeds.dedup else rows

--------
-- What The Query Finds
--------

def GraphStep
    (links : List TransformationLinkRow)
    (maxDepth : Nat)
    (row next : GraphRow) : Prop :=
  row.depth < maxDepth ∧
    next.depth = row.depth + 1 ∧
    next.dir = row.dir ∧
    Linked links row.dir row.tlc next.tlc

variable {links : List TransformationLinkRow} {maxDepth : Nat}
variable {dir : Direction} {direction : TraceDirection}
variable {seed tlc : String} {db : Db} {tenantId : Uuid}

/- The recursive term gives the steps of its rows. -/
theorem mem_stepGraph
    {rows : List GraphRow}
    {next : GraphRow} :
    next ∈ stepGraph links maxDepth rows ↔
      ∃ row ∈ rows, GraphStep links maxDepth row next := by
  simp only [stepGraph, List.mem_flatMap, List.mem_filterMap,
    stepRow, GraphStep, Linked]
  constructor
  · rintro ⟨link, hLink, row, hRow, hStep⟩
    refine ⟨row, hRow, ?_⟩
    rcases row with ⟨tlc, depth, dir⟩
    split at hStep
    · rename_i hDepth
      cases dir with
      | forward =>
        dsimp only at hStep hDepth ⊢
        split at hStep
        · rename_i hInput
          cases hStep
          exact ⟨hDepth, rfl, rfl, link, hLink, hInput.symm, rfl⟩
        · cases hStep
      | backward =>
        dsimp only at hStep hDepth ⊢
        split at hStep
        · rename_i hOutput
          cases hStep
          exact ⟨hDepth, rfl, rfl, link, hLink, hOutput.symm,
            rfl⟩
        · cases hStep
    · cases hStep
  · rintro ⟨⟨tlc, depth, dir⟩, hRow, hDepth, hNext, hDir, link,
      hLink, hEnds⟩
    refine ⟨link, hLink, ⟨tlc, depth, dir⟩, hRow, ?_⟩
    rcases next with ⟨tlc', depth', dir'⟩
    dsimp only at hNext hDir hDepth hEnds
    subst hNext
    subst hDir
    dsimp only
    rw [if_pos hDepth]
    cases dir' with
    | forward =>
      dsimp only at hEnds ⊢
      rw [if_pos hEnds.1.symm, hEnds.2]
    | backward =>
      dsimp only at hEnds ⊢
      rw [if_pos hEnds.1.symm, hEnds.2]

/- The rows that a seed leads to are its walks. -/
theorem graphStep_reaches_iff
    {seed : String}
    {row : GraphRow} :
    Relation.ReflTransGen (GraphStep links maxDepth)
        ⟨seed, 0, dir⟩ row ↔
      row.dir = dir ∧ row.depth ≤ maxDepth ∧
        Reachability.Steps (Linked links dir) row.depth seed
          row.tlc := by
  constructor
  · intro hReach
    induction hReach with
    | refl => exact ⟨rfl, Nat.zero_le _, rfl⟩
    | tail _ hStep ih =>
      rcases hStep with ⟨hDepth, hNext, hDir, hLinked⟩
      rcases ih with ⟨hSame, -, hSteps⟩
      refine ⟨hDir.trans hSame, by omega, ?_⟩
      rw [hNext]
      rw [hSame] at hLinked
      exact ⟨_, hSteps, hLinked⟩
  · rcases row with ⟨tlc, depth, dir'⟩
    rintro ⟨hDir, hDepth, hSteps⟩
    dsimp only at hDir hDepth hSteps
    subst hDir
    induction depth generalizing tlc with
    | zero =>
      rw [show seed = tlc from hSteps]
    | succ depth ih =>
      rcases hSteps with ⟨mid, hFirst, hLast⟩
      exact (ih mid (by omega) hFirst).tail
        ⟨hDepth, rfl, rfl, hLast⟩

variable {seeds : List String}

/- The rows of the recursive query. -/
theorem mem_tlcGraph
    {row : GraphRow} :
    row ∈ tlcGraph links seeds direction maxDepth ↔
      row.dir ∈ direction.directions ∧ row.depth ≤ maxDepth ∧
        ∃ seed ∈ seeds,
          Reachability.Steps (Linked links row.dir) row.depth
            seed row.tlc := by
  have hSeed : ∀ start : GraphRow,
      start ∈ seedRows seeds direction ↔
        ∃ seed ∈ seeds, ∃ dir ∈ direction.directions,
          ⟨seed, 0, dir⟩ = start := by
    intro start
    simp only [seedRows, List.mem_dedup, List.mem_flatMap,
      List.mem_map]
  unfold tlcGraph
  rw [@Query.mem_recursiveUnion_iff GraphRow _
    (stepGraph links maxDepth) (GraphStep links maxDepth)
    GraphRow.depth maxDepth (fun rows y => mem_stepGraph)]
  · constructor
    · rintro ⟨start, hStart, hReach⟩
      rcases (hSeed start).mp hStart with
        ⟨seed, hMem, dir, hDir, rfl⟩
      rcases Iff.mp graphStep_reaches_iff hReach with
        ⟨hSame, hDepth, hSteps⟩
      rw [hSame]
      exact ⟨hDir, hDepth, seed, hMem, hSteps⟩
    · rintro ⟨hDir, hDepth, seed, hMem, hSteps⟩
      refine ⟨⟨seed, 0, row.dir⟩, ?_, ?_⟩
      · exact (hSeed _).mpr ⟨seed, hMem, row.dir, hDir, rfl⟩
      · exact Iff.mpr graphStep_reaches_iff
          ⟨rfl, hDepth, hSteps⟩
  · intro x y hStep
    rcases hStep with ⟨hDepth, hNext, -, -⟩
    omega
  · intro x hMem
    rcases (hSeed x).mp hMem with ⟨seed, -, dir, -, rfl⟩
    exact Nat.zero_le _

--------
-- The Collapsed Rows
--------

/- The least depth is the depth of some row. -/
theorem exists_depth_eq_minDepth
    {rows : List GraphRow}
    {row : GraphRow}
    (hMem : row ∈ rows) :
    ∃ least ∈ rows, least.depth = minDepth rows := by
  unfold minDepth
  cases hMin : (rows.map GraphRow.depth).min? with
  | none =>
    rw [List.min?_eq_none_iff, List.map_eq_nil_iff] at hMin
    rw [hMin] at hMem
    cases hMem
  | some depth =>
    have hDepth := (List.min?_eq_some_iff.mp hMin).1
    rcases List.mem_map.mp hDepth with ⟨least, hLeast, hEq⟩
    exact ⟨least, hLeast, hEq⟩

/- No row is less deep. -/
theorem minDepth_le
    {rows : List GraphRow}
    {row : GraphRow}
    (hMem : row ∈ rows) :
    minDepth rows ≤ row.depth := by
  unfold minDepth
  cases hMin : (rows.map GraphRow.depth).min? with
  | none => exact Nat.zero_le _
  | some depth =>
    exact (List.min?_eq_some_iff.mp hMin).2 _
      (List.mem_map_of_mem hMem)

/- A group keeps its least row. -/
theorem mem_perDirection
    {rows : List GraphRow}
    {row : GraphRow} :
    row ∈ perDirection rows ↔
      row ∈ rows ∧
        ∀ other ∈ rows, other.tlc = row.tlc →
          other.dir = row.dir → row.depth ≤ other.depth := by
  have hGroup : ∀ (tlc : String) (dir : Direction)
      (other : GraphRow),
      other ∈ rows.filter (fun row =>
          row.tlc = tlc ∧ row.dir = dir) ↔
        other ∈ rows ∧ other.tlc = tlc ∧ other.dir = dir := by
    intro tlc dir other
    rw [List.mem_filter, decide_eq_true_eq]
  unfold perDirection
  rw [List.mem_map]
  constructor
  · rintro ⟨⟨tlc, dir⟩, hKey, rfl⟩
    rw [List.mem_dedup, List.mem_map] at hKey
    rcases hKey with ⟨start, hStart, hEq⟩
    cases hEq
    rcases exists_depth_eq_minDepth
        ((hGroup start.tlc start.dir start).mpr
          ⟨hStart, rfl, rfl⟩) with
      ⟨⟨tlc, depth, dir⟩, hLeast, hDepth⟩
    rcases (hGroup _ _ _).mp hLeast with ⟨hMem, hTlc, hDir⟩
    dsimp only at hTlc hDir hDepth ⊢
    refine ⟨?_, ?_⟩
    · rw [← hDepth, ← hTlc, ← hDir]
      exact hMem
    · intro other hOther hSame hWay
      exact minDepth_le
        ((hGroup _ _ _).mpr ⟨hOther, hSame, hWay⟩)
  · rintro ⟨hMem, hLeast⟩
    refine ⟨(row.tlc, row.dir), ?_, ?_⟩
    · rw [List.mem_dedup]
      exact List.mem_map_of_mem hMem
    · have hHere :=
        (hGroup row.tlc row.dir row).mpr ⟨hMem, rfl, rfl⟩
      rcases exists_depth_eq_minDepth hHere with
        ⟨least, hFound, hDepth⟩
      rcases (hGroup _ _ _).mp hFound with
        ⟨hOther, hSame, hWay⟩
      have hEq :
          minDepth (rows.filter (fun other =>
            other.tlc = row.tlc ∧ other.dir = row.dir)) =
              row.depth := by
        apply Nat.le_antisymm (minDepth_le hHere)
        rw [← hDepth]
        exact hLeast least hOther hSame hWay
      dsimp only
      rw [hEq]

/- The lots of the collapsed rows are those of the rows. -/
theorem map_tlc_collapse
    (maxDepth : Nat)
    (rows : List GraphRow) :
    (collapse maxDepth rows).map ExpansionRow.tlc =
      (rows.map GraphRow.tlc).dedup := by
  unfold collapse
  rw [List.map_map]
  exact List.map_id _

/- What a collapsed row says of the rows of its lot. -/
theorem of_mem_collapse
    {rows : List GraphRow}
    {entry : ExpansionRow}
    (hMem : entry ∈ collapse maxDepth rows) :
    (entry.viaForward = true ↔
        ∃ row ∈ rows,
          row.tlc = entry.tlc ∧ row.dir = .forward) ∧
      (entry.viaBackward = true ↔
        ∃ row ∈ rows,
          row.tlc = entry.tlc ∧ row.dir = .backward) ∧
      (entry.atLimit = true ↔
        ∃ row ∈ rows,
          row.tlc = entry.tlc ∧ maxDepth ≤ row.depth) := by
  unfold collapse at hMem
  rcases List.mem_map.mp hMem with ⟨tlc, -, rfl⟩
  dsimp only
  simp only [List.any_eq_true, List.mem_filter,
    decide_eq_true_eq, and_assoc]
  exact ⟨trivial, trivial, trivial⟩

--------
-- Exactness
--------

/- A lot that a walk reaches in so few steps, one direction. -/
def Walked
    (db : Db)
    (tenantId : Uuid)
    (dir : Direction)
    (depth : Nat)
    (seed tlc : String) : Prop :=
  Reachability.Within (Linked (tenantLinks db tenantId) dir)
    depth seed tlc

/- The rows of the query hold the lots of the walks. -/
theorem exists_mem_perDirection_iff
    {maxDepth : Nat} :
    (∃ row ∈ perDirection
        (tlcGraph links [seed] direction maxDepth),
      row.tlc = tlc ∧ row.dir = dir) ↔
      dir ∈ direction.directions ∧
        Reachability.Within (Linked links dir) maxDepth seed
          tlc := by
  rw [Reachability.within_iff_steps]
  constructor
  · rintro ⟨row, hRow, rfl, rfl⟩
    rw [mem_perDirection] at hRow
    rcases Iff.mp mem_tlcGraph hRow.1 with
      ⟨hDir, hDepth, start, hStart, hSteps⟩
    rw [List.mem_singleton.mp hStart] at hSteps
    exact ⟨hDir, row.depth, hDepth, hSteps⟩
  · rintro ⟨hDir, depth, hDepth, hSteps⟩
    -- The first depth at which the walk is at the lot.
    have hSome : ∃ k,
        Reachability.Steps (Linked links dir) k seed tlc :=
      ⟨depth, hSteps⟩
    classical
    refine ⟨⟨tlc, Nat.find hSome, dir⟩, ?_, rfl, rfl⟩
    apply Iff.mpr mem_perDirection
    refine ⟨Iff.mpr mem_tlcGraph ⟨hDir, ?_, seed,
      List.mem_singleton_self _, Nat.find_spec hSome⟩, ?_⟩
    · exact (Nat.find_min' hSome hSteps).trans hDepth
    · rintro ⟨tlc', depth', dir'⟩ hOther hTlc hSame
      dsimp only at hTlc hSame ⊢
      subst hTlc
      subst hSame
      rcases Iff.mp mem_tlcGraph hOther with
        ⟨-, -, start, hStart, hWalk⟩
      rw [List.mem_singleton.mp hStart] at hWalk
      exact Nat.find_min' hSome hWalk

/- A row at the limit is a lot that no shorter walk reaches. -/
theorem exists_atLimit_iff
    {seed : String}
    {maxDepth : Nat} :
    (∃ row ∈ perDirection
        (tlcGraph links [seed] direction maxDepth),
      row.dir = dir ∧ maxDepth ≤ row.depth) ↔
      dir ∈ direction.directions ∧
        ∃ tlc,
          Reachability.Steps (Linked links dir) maxDepth seed
              tlc ∧
            ∀ k < maxDepth,
              ¬ Reachability.Steps (Linked links dir) k seed
                tlc := by
  constructor
  · rintro ⟨row, hRow, rfl, hLimit⟩
    rcases Iff.mp mem_perDirection hRow with ⟨hMem, hLeast⟩
    rcases Iff.mp mem_tlcGraph hMem with
      ⟨hDir, hDepth, start, hStart, hSteps⟩
    rw [List.mem_singleton.mp hStart] at hSteps
    have hEq : row.depth = maxDepth :=
      Nat.le_antisymm hDepth hLimit
    refine ⟨hDir, row.tlc, hEq ▸ hSteps, ?_⟩
    intro k hLess hShort
    have hFound := hLeast ⟨row.tlc, k, row.dir⟩
      (Iff.mpr mem_tlcGraph ⟨hDir, hLess.le, seed,
        List.mem_singleton_self _, hShort⟩) rfl rfl
    dsimp only at hFound
    omega
  · rintro ⟨hDir, tlc, hSteps, hNone⟩
    refine ⟨⟨tlc, maxDepth, dir⟩, ?_, rfl, Nat.le_refl _⟩
    apply Iff.mpr mem_perDirection
    refine ⟨Iff.mpr mem_tlcGraph ⟨hDir, Nat.le_refl _, seed,
      List.mem_singleton_self _, hSteps⟩, ?_⟩
    rintro ⟨tlc', depth', dir'⟩ hOther hTlc hSame
    dsimp only at hTlc hSame ⊢
    subst hTlc
    subst hSame
    rcases Iff.mp mem_tlcGraph hOther with
      ⟨-, -, start, hStart, hWalk⟩
    rw [List.mem_singleton.mp hStart] at hWalk
    exact Nat.le_of_not_lt (fun hLess => hNone _ hLess hWalk)

theorem TraceDirection.exists_mem_directions
    (direction : TraceDirection) :
    ∃ dir, dir ∈ direction.directions := by
  cases direction with
  | forward => exact ⟨_, List.mem_cons_self⟩
  | backward => exact ⟨_, List.mem_cons_self⟩
  | both => exact ⟨_, List.mem_cons_self⟩

/- The query always has a row for the seed. -/
theorem collapse_ne_nil
    (links : List TransformationLinkRow)
    (seed : String)
    (direction : TraceDirection)
    (maxDepth : Nat) :
    collapse maxDepth (perDirection
      (tlcGraph links [seed] direction maxDepth)) ≠ [] := by
  intro hNil
  rcases direction.exists_mem_directions with ⟨dir, hDir⟩
  rcases Iff.mpr exists_mem_perDirection_iff
      ⟨hDir, Reachability.Within.refl maxDepth seed⟩ with
    ⟨row, hRow, -, -⟩
  have hTlc := map_tlc_collapse maxDepth (perDirection
    (tlcGraph links [seed] direction maxDepth))
  rw [hNil, List.map_nil] at hTlc
  have hMem := List.mem_dedup.mpr
    (List.mem_map_of_mem hRow : GraphRow.tlc row ∈ _)
  rw [← hTlc] at hMem
  cases hMem

/- The lots of the expansion are those of the walks. -/
theorem mem_expandDetailed
    {direction : TraceDirection} :
    tlc ∈ (expandDetailed db tenantId seed maxDepth
        direction).tlcs ↔
      ∃ dir ∈ direction.directions,
        Walked db tenantId dir maxDepth seed tlc := by
  unfold expandDetailed
  dsimp only
  rw [if_neg (collapse_ne_nil _ _ _ _)]
  dsimp only
  rw [map_tlc_collapse, List.mem_dedup, List.mem_map]
  constructor
  · rintro ⟨row, hRow, hTlc⟩
    rcases Iff.mp exists_mem_perDirection_iff
        ⟨row, hRow, hTlc, rfl⟩ with
      ⟨hDir, hWithin⟩
    exact ⟨row.dir, hDir, hWithin⟩
  · rintro ⟨dir, hDir, hWithin⟩
    rcases Iff.mpr exists_mem_perDirection_iff
        ⟨hDir, hWithin⟩ with
      ⟨row, hRow, hTlc, -⟩
    exact ⟨row, hRow, hTlc⟩

/- The seed is always listed. -/
theorem seed_mem_expandDetailed
    {seed : String}
    {direction : TraceDirection} :
    seed ∈ (expandDetailed db tenantId seed maxDepth
      direction).tlcs := by
  rcases direction.exists_mem_directions with ⟨dir, hDir⟩
  exact Iff.mpr mem_expandDetailed
    ⟨dir, hDir, Reachability.Within.refl maxDepth seed⟩

/- No lot is listed twice. -/
theorem nodup_expandDetailed
    (db : Db)
    (tenantId : Uuid)
    (seed : String)
    (maxDepth : Nat)
    (direction : TraceDirection) :
    (expandDetailed db tenantId seed maxDepth
      direction).tlcs.Nodup := by
  unfold expandDetailed
  dsimp only
  rw [if_neg (collapse_ne_nil _ _ _ _)]
  dsimp only
  rw [map_tlc_collapse]
  exact List.nodup_dedup _

/- The flag: a walk is at some lot first with its last step. -/
theorem depthExhausted_expandDetailed
    {seed : String}
    {direction : TraceDirection} :
    (expandDetailed db tenantId seed maxDepth
        direction).depthExhausted = true ↔
      ∃ dir ∈ direction.directions, ∃ tlc,
        Reachability.Steps
            (Linked (tenantLinks db tenantId) dir) maxDepth seed
            tlc ∧
          ∀ k < maxDepth,
            ¬ Reachability.Steps
              (Linked (tenantLinks db tenantId) dir) k seed
              tlc := by
  unfold expandDetailed
  dsimp only
  rw [if_neg (collapse_ne_nil _ _ _ _)]
  dsimp only
  rw [List.any_eq_true]
  constructor
  · rintro ⟨entry, hEntry, hLimit⟩
    rcases (of_mem_collapse hEntry).2.2.mp hLimit with
      ⟨row, hRow, -, hDepth⟩
    rcases Iff.mp exists_atLimit_iff
        ⟨row, hRow, rfl, hDepth⟩ with
      ⟨hDir, hTlc⟩
    exact ⟨row.dir, hDir, hTlc⟩
  · rintro ⟨dir, hDir, hTlc⟩
    rcases Iff.mpr exists_atLimit_iff ⟨hDir, hTlc⟩ with
      ⟨row, hRow, -, hDepth⟩
    have hMem := List.mem_dedup.mpr
      (List.mem_map_of_mem hRow : GraphRow.tlc row ∈ _)
    rw [← map_tlc_collapse maxDepth, List.mem_map] at hMem
    rcases hMem with ⟨entry, hEntry, hSame⟩
    exact ⟨entry, hEntry, (of_mem_collapse hEntry).2.2.mpr
      ⟨row, hRow, hSame.symm, hDepth⟩⟩

/- Without the flag the whole closure was found. -/
theorem expandDetailed_complete
    (hFlag :
      (expandDetailed db tenantId seed maxDepth
        direction).depthExhausted = false)
    (hDir : dir ∈ direction.directions)
    (hReach :
      Relation.ReflTransGen
        (Linked (tenantLinks db tenantId) dir) seed tlc) :
    tlc ∈ (expandDetailed db tenantId seed maxDepth
      direction).tlcs := by
  have hNone : ∀ z,
      Reachability.Steps
          (Linked (tenantLinks db tenantId) dir) maxDepth seed
          z →
        ∃ k < maxDepth,
          Reachability.Steps
            (Linked (tenantLinks db tenantId) dir) k seed z := by
    intro z hSteps
    by_contra hShort
    rw [Iff.mpr depthExhausted_expandDetailed
      ⟨dir, hDir, z, hSteps,
        fun k hLess hWalk => hShort ⟨k, hLess, hWalk⟩⟩] at hFlag
    cases hFlag
  apply Iff.mpr mem_expandDetailed
  refine ⟨dir, hDir, ?_⟩
  cases maxDepth with
  | zero =>
    rcases hNone seed rfl with ⟨k, hLess, -⟩
    exact absurd hLess (Nat.not_lt_zero k)
  | succ depth =>
    apply Reachability.Within.mono
    apply Reachability.within_of_no_frontier _ hReach
    intro z hWithin
    rw [Reachability.within_iff_steps] at hWithin ⊢
    rcases hWithin with ⟨k, hLe, hSteps⟩
    by_cases hLast : k = depth + 1
    · rw [hLast] at hSteps
      rcases hNone z hSteps with ⟨k', hLess, hWalk⟩
      exact ⟨k', Nat.le_of_lt_succ hLess, hWalk⟩
    · exact ⟨k, by omega, hSteps⟩

/- The directions of an entry, but for the seed's. -/
theorem of_mem_reachedVia
    {reached : Reached}
    (hMem :
      (tlc, reached) ∈ (expandDetailed db tenantId seed maxDepth
        direction).reachedVia) :
    (reached.downstream = true ↔
        tlc ≠ seed ∧ Direction.forward ∈ direction.directions ∧
          Walked db tenantId .forward maxDepth seed tlc) ∧
      (reached.upstream = true ↔
        tlc ≠ seed ∧ Direction.backward ∈ direction.directions ∧
          Walked db tenantId .backward maxDepth seed tlc) := by
  unfold expandDetailed at hMem
  dsimp only at hMem
  rw [if_neg (collapse_ne_nil _ _ _ _)] at hMem
  rcases List.mem_map.mp hMem with ⟨entry, hEntry, hEq⟩
  cases hEq
  rcases of_mem_collapse hEntry with
    ⟨hForward, hBackward, -⟩
  dsimp only
  rw [Bool.and_eq_true, Bool.and_eq_true, bne_iff_ne, hForward,
    hBackward, exists_mem_perDirection_iff,
    exists_mem_perDirection_iff]
  exact ⟨And.comm, And.comm⟩

/- Every lot of the expansion has an entry, and no other. -/
theorem map_fst_reachedVia
    (db : Db)
    (tenantId : Uuid)
    (seed : String)
    (maxDepth : Nat)
    (direction : TraceDirection) :
    (expandDetailed db tenantId seed maxDepth
        direction).reachedVia.map Prod.fst =
      (expandDetailed db tenantId seed maxDepth
        direction).tlcs := by
  unfold expandDetailed
  dsimp only
  rw [if_neg (collapse_ne_nil _ _ _ _)]
  dsimp only
  rw [List.map_map]
  rfl

/- The batch form finds what the seeds find one by one. -/
theorem mem_expandBatch
    {tlc : String} :
    tlc ∈ expandBatch db tenantId seeds maxDepth direction ↔
      ∃ seed ∈ seeds,
        tlc ∈ (expandDetailed db tenantId seed maxDepth
          direction).tlcs := by
  have hRows : ∀ tlc,
      tlc ∈ ((tlcGraph (tenantLinks db tenantId) seeds direction
          maxDepth).map GraphRow.tlc).dedup ↔
        ∃ seed ∈ seeds,
          tlc ∈ (expandDetailed db tenantId seed maxDepth
            direction).tlcs := by
    intro tlc
    rw [List.mem_dedup, List.mem_map]
    constructor
    · rintro ⟨row, hRow, rfl⟩
      rcases Iff.mp mem_tlcGraph hRow with
        ⟨hDir, hDepth, seed, hSeed, hSteps⟩
      refine ⟨seed, hSeed, Iff.mpr mem_expandDetailed
        ⟨row.dir, hDir, ?_⟩⟩
      exact Reachability.within_iff_steps.mpr
        ⟨row.depth, hDepth, hSteps⟩
    · rintro ⟨seed, hSeed, hMem⟩
      rcases Iff.mp mem_expandDetailed hMem with
        ⟨dir, hDir, hWithin⟩
      rcases Reachability.within_iff_steps.mp hWithin with
        ⟨depth, hDepth, hSteps⟩
      exact ⟨⟨tlc, depth, dir⟩, Iff.mpr mem_tlcGraph
        ⟨hDir, hDepth, seed, hSeed, hSteps⟩, rfl⟩
  unfold expandBatch
  dsimp only
  split
  · rename_i hNone
    rw [hNone]
    constructor
    · intro hMem
      cases hMem
    · rintro ⟨seed, hSeed, -⟩
      cases hSeed
  · split
    · rename_i hNone hEmpty
      -- A seed has a row of its own.
      exfalso
      rcases List.exists_mem_of_ne_nil _ hNone with
        ⟨seed, hSeed⟩
      have hRow := (hRows seed).mpr
        ⟨seed, hSeed, seed_mem_expandDetailed⟩
      rw [hEmpty] at hRow
      cases hRow
    · exact hRows tlc

--------
-- The Two Walks Of A Query
--------

--------
-- The Expansion And Its Batch
--------

/- What an expansion says of the walks from its seed. -/
structure Exact
    (db : Db)
    (tenantId : Uuid)
    (seed : String)
    (maxDepth : Nat)
    (direction : TraceDirection)
    (expansion : Expansion) : Prop where
  nodup : expansion.tlcs.Nodup
  mem : ∀ tlc,
    tlc ∈ expansion.tlcs ↔
      ∃ dir ∈ direction.directions,
        Walked db tenantId dir maxDepth seed tlc
  closed :
    expansion.depthExhausted = false →
      ∀ tlc,
        tlc ∈ expansion.tlcs ↔
          ∃ dir ∈ direction.directions,
            Relation.ReflTransGen
              (Linked (tenantLinks db tenantId) dir) seed tlc
  listed : expansion.reachedVia.map Prod.fst = expansion.tlcs
  downstream : ∀ tlc reached,
    (tlc, reached) ∈ expansion.reachedVia →
      (reached.downstream = true ↔
        tlc ≠ seed ∧ Direction.forward ∈ direction.directions ∧
          Walked db tenantId .forward maxDepth seed tlc)
  upstream : ∀ tlc reached,
    (tlc, reached) ∈ expansion.reachedVia →
      (reached.upstream = true ↔
        tlc ≠ seed ∧ Direction.backward ∈ direction.directions ∧
          Walked db tenantId .backward maxDepth seed tlc)

/-
  The expansion of a lot is exact, the seed flagged with no
  direction, and that of a list of seeds is the union.
-/
theorem expandDetailed_exact
    (db : Db)
    (tenantId : Uuid)
    (maxDepth : Nat)
    (direction : TraceDirection) :
    (∀ seed,
      Exact db tenantId seed maxDepth direction
        (expandDetailed db tenantId seed maxDepth direction)) ∧
    ∀ seeds tlc,
      tlc ∈ expandBatch db tenantId seeds maxDepth direction ↔
        ∃ seed ∈ seeds,
          tlc ∈ (expandDetailed db tenantId seed maxDepth
            direction).tlcs := by
  refine ⟨?_, fun seeds tlc => mem_expandBatch⟩
  intro seed
  constructor
  · exact nodup_expandDetailed db tenantId seed maxDepth
      direction
  · intro tlc
    exact mem_expandDetailed
  · intro hFlag tlc
    constructor
    · intro hMem
      rcases Iff.mp mem_expandDetailed hMem with
        ⟨dir, hDir, hWalked⟩
      exact ⟨dir, hDir, hWalked.reaches⟩
    · rintro ⟨dir, hDir, hReach⟩
      exact expandDetailed_complete hFlag hDir hReach
  · exact map_fst_reachedVia db tenantId seed maxDepth
      direction
  · intro tlc reached hMem
    exact (of_mem_reachedVia hMem).1
  · intro tlc reached hMem
    exact (of_mem_reachedVia hMem).2

/- A lot that is made of itself. -/
def selfLinkDb : Db :=
  { chainDb [] with
    transformationLinks := [chainLink "S" "S"] }

/-
  A step forward from the seed leads back to it, and the seed
  is flagged with no direction.
-/
theorem not_expandDetailed_seed :
    ¬ ∀ tlc reached,
      (tlc, reached) ∈
          (expandDetailed selfLinkDb chainTenant "S" 1
            .both).reachedVia →
        (reached.downstream = true ↔
          ∃ k ≤ 1, 0 < k ∧
            Reachability.Steps
              (Linked (tenantLinks selfLinkDb chainTenant)
                .forward) k "S" tlc) := by
  intro hFlags
  have hLoop :
      Reachability.Steps
        (Linked (tenantLinks selfLinkDb chainTenant) .forward)
        1 "S" "S" := by
    refine ⟨"S", rfl, chainLink "S" "S", ?_, rfl, rfl⟩
    exact List.mem_filter.mpr
      ⟨List.mem_singleton_self _, beq_self_eq_true _⟩
  have hEntry :
      ("S", ⟨0, false, false⟩) ∈
        (expandDetailed selfLinkDb chainTenant "S" 1
          .both).reachedVia := by
    decide
  have hTold := (hFlags _ _ hEntry).mpr
    ⟨1, Nat.le_refl 1, Nat.one_pos, hLoop⟩
  cases hTold

end CtePersistence

end RegEngine
