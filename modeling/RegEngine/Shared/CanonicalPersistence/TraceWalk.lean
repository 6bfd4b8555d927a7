import RegEngine.Library.Breadth
import RegEngine.Shared.Schema

/-
  The walk over the transformation links of a lot
  (`CanonicalEventStore.trace_walk`).

  Main declarations:
    * `CanonicalEventStore.traceWalk`
    * `CanonicalEventStore.Follows`
    * `CanonicalEventStore.traceWalk_exact`
    * `CanonicalEventStore.traceWalk_forward_iff_backward`
-/

--------
-- Links
--------

namespace RegEngine

namespace CanonicalEventStore

/- The two directions of a walk. -/
inductive Direction where
  | forward
  | backward
  deriving DecidableEq

namespace Direction

def text : Direction → String
| forward => "forward"
| backward => "backward"

def ofText : String → Option Direction
| "forward" => some forward
| "backward" => some backward
| _ => none

/- The lot that a link is looked up by. -/
def near : Direction → TransformationLinkRow → String
| forward, row => row.inputTlc
| backward, row => row.outputTlc

/- The lot that a link leads to. -/
def far : Direction → TransformationLinkRow → String
| forward, row => row.outputTlc
| backward, row => row.inputTlc

/- The quantity and the unit at the lot that it leads to. -/
def farQuantity :
    Direction → TransformationLinkRow → Option Python.Float
| forward, row => some row.outputQuantity
| backward, row => row.inputQuantity

def farUnit : Direction → TransformationLinkRow → Option String
| forward, row => some row.outputUnit
| backward, row => row.inputUnit

end Direction

/-
  A link of a walk; `quantity` and `unit` are the output's of a
  forward walk and the input's of a backward one.
-/
structure TraceLink where
  transformationEventId : Uuid
  processType : Option String
  confidenceScore : String
  depth : Nat
  inputTlc : String
  outputTlc : String
  quantity : Option Python.Float
  unit : Option String
  deriving DecidableEq

/- `TraceWalk`. -/
structure TraceWalk where
  links : List TraceLink
  truncated : Bool
  depthExhausted : Bool
  direction : String
  maxDepth : Nat
  maxResults : Nat

inductive TraceError where
  | direction (given : String)
  | maxDepth (given : Nat)
  deriving DecidableEq

/- `float(value) if value else None`. -/
def quantityOrNone
    (value : Option Python.Float) :
    Option Python.Float :=
  value.filter (fun x => !x.isZero)

/- `float(value) if value else 1.0`, of a decimal column. -/
def confidenceOrOne (value : String) : String :=
  if value.toList.all (fun c => c = '0' || c = '.') then "1.0"
  else value

/- The rows of the query of a direction. -/
def linkRows
    (db : Db)
    (tenantId : Uuid)
    (direction : Direction)
    (tlc : String) :
    List TransformationLinkRow :=
  db.transformationLinks.filter (fun row =>
    row.tenantId == tenantId && direction.near row == tlc)

/- The link of a row, found at a lot of some depth. -/
def traceLink
    (direction : Direction)
    (currentTlc : String)
    (depth : Nat)
    (row : TransformationLinkRow) :
    TraceLink :=
  let neighbour := direction.far row
  { transformationEventId := row.transformationEventId
    processType := row.processType
    confidenceScore := confidenceOrOne row.confidenceScore
    depth := depth + 1
    inputTlc :=
      match direction with
      | .forward => currentTlc
      | .backward => neighbour
    outputTlc :=
      match direction with
      | .forward => neighbour
      | .backward => currentTlc
    quantity := quantityOrNone (direction.farQuantity row)
    unit := direction.farUnit row }

--------
-- The Walk
--------

/- The variables of the loop. -/
structure WalkState where
  results : List TraceLink
  visited : List String
  queue : List (String × Nat)
  truncated : Bool
  depthExhausted : Bool

/- The loop over the rows of a lot. -/
def collect
    (maxResults : Nat)
    (direction : Direction)
    (currentTlc : String)
    (depth : Nat) :
    List TransformationLinkRow → WalkState → WalkState
| [], walk => walk
| row :: rows, walk =>
    if maxResults ≤ walk.results.length then
      { walk with truncated := true }
    else
      let neighbour := direction.far row
      let link := traceLink direction currentTlc depth row
      collect maxResults direction currentTlc depth rows
        { walk with
          results := walk.results ++ [link]
          queue :=
            if neighbour ∈ walk.visited then walk.queue
            else walk.queue ++ [(neighbour, depth + 1)] }

/- One round of the loop, for a lot taken from the queue. -/
def visit
    (db : Db)
    (tenantId : Uuid)
    (direction : Direction)
    (maxDepth maxResults : Nat)
    (currentTlc : String)
    (depth : Nat)
    (walk : WalkState) : WalkState :=
  if currentTlc ∈ walk.visited then walk
  else if maxDepth ≤ depth then
    { walk with depthExhausted := true }
  else
    collect maxResults direction currentTlc depth
      (linkRows db tenantId direction currentTlc)
      { walk with visited := walk.visited ++ [currentTlc] }

/- The rows of the tenant whose lots were not visited. -/
def unvisitedRows
    (db : Db)
    (tenantId : Uuid)
    (direction : Direction)
    (visited : List String) :
    List TransformationLinkRow :=
  db.transformationLinks.filter (fun row =>
    row.tenantId == tenantId && direction.near row ∉ visited)

/- What bounds the rounds that are left. -/
def remaining
    (db : Db)
    (tenantId : Uuid)
    (direction : Direction)
    (walk : WalkState) : Nat :=
  walk.queue.length +
    (unvisitedRows db tenantId direction walk.visited).length

/- The rows of a lot only grow what is kept. -/
theorem collect_kept
    (maxResults : Nat)
    (direction : Direction)
    (tlc : String)
    (depth : Nat)
    (rows : List TransformationLinkRow)
    (walk : WalkState) :
    let after := collect maxResults direction tlc depth rows walk
    after.visited = walk.visited ∧
      after.depthExhausted = walk.depthExhausted ∧
      after.queue.length ≤ walk.queue.length + rows.length := by
  induction rows generalizing walk with
  | nil => exact ⟨rfl, rfl, Nat.le_refl _⟩
  | cons row rows ih =>
    rw [collect]
    split
    · exact ⟨rfl, rfl, Nat.le_add_right _ _⟩
    · rcases ih _ with ⟨hVisited, hExhausted, hQueue⟩
      refine ⟨hVisited, hExhausted, Nat.le_trans hQueue ?_⟩
      dsimp only
      split <;>
        simp only [List.length_append, List.length_cons,
          List.length_nil] <;>
        omega

/- A lot that is visited takes its rows off the bound. -/
theorem length_unvisitedRows
    (db : Db)
    (tenantId : Uuid)
    (direction : Direction)
    {visited : List String}
    {tlc : String}
    (hNew : tlc ∉ visited) :
    (unvisitedRows db tenantId direction
        (visited ++ [tlc])).length +
      (linkRows db tenantId direction tlc).length =
      (unvisitedRows db tenantId direction visited).length := by
  unfold unvisitedRows linkRows
  induction db.transformationLinks with
  | nil => rfl
  | cons row rows ih =>
    simp only [List.filter_cons, List.mem_append,
      List.mem_singleton]
    by_cases hTenant : row.tenantId = tenantId
    · by_cases hNear : direction.near row = tlc
      · simp [hTenant, hNear, hNew] at ih ⊢
        omega
      · by_cases hOld : direction.near row ∈ visited
        · simp [hTenant, hNear, hOld] at ih ⊢
          omega
        · simp [hTenant, hNear, hOld] at ih ⊢
          omega
    · simp [hTenant] at ih ⊢
      omega

/- A round takes a lot from the queue for good. -/
theorem remaining_visit
    {db : Db}
    {tenantId : Uuid}
    {direction : Direction}
    {maxDepth maxResults : Nat}
    {tlc : String}
    {depth : Nat}
    {walk : WalkState} :
    remaining db tenantId direction
        (visit db tenantId direction maxDepth maxResults tlc
          depth walk) ≤
      remaining db tenantId direction walk := by
  unfold visit
  split
  · exact Nat.le_refl _
  · rename_i hNew
    split
    · exact Nat.le_refl _
    · rcases collect_kept maxResults direction tlc depth
        (linkRows db tenantId direction tlc)
        { walk with visited := walk.visited ++ [tlc] } with
        ⟨hVisited, -, hQueue⟩
      have hRows :=
        length_unvisitedRows db tenantId direction hNew
      unfold remaining
      rw [hVisited]
      dsimp only at hQueue ⊢
      omega

/- The loop over the queue, up to the result cap. -/
def walkLoop
    (db : Db)
    (tenantId : Uuid)
    (direction : Direction)
    (maxDepth maxResults : Nat)
    (walk : WalkState) : WalkState :=
  match _hQueue : walk.queue with
  | [] => walk
  | (currentTlc, depth) :: queue =>
      let after :=
        visit db tenantId direction maxDepth maxResults
          currentTlc depth { walk with queue := queue }
      if after.truncated then after
      else
        walkLoop db tenantId direction maxDepth maxResults after
termination_by remaining db tenantId direction walk
decreasing_by
  refine Nat.lt_of_le_of_lt remaining_visit ?_
  simp only [remaining, _hQueue, List.length_cons]
  omega

/- `trace_walk`. -/
def traceWalk
    (db : Db)
    (tenantId : Uuid)
    (tlc direction : String)
    (maxDepth maxResults : Nat) :
    Except TraceError TraceWalk :=
  match Direction.ofText direction with
  | none => .error (.direction direction)
  | some statement =>
      if maxDepth < 1 then .error (.maxDepth maxDepth)
      else
        let walk :=
          walkLoop db tenantId statement maxDepth maxResults
            ⟨[], [], [(tlc, 0)], false, false⟩
        .ok
          { links := walk.results
            truncated := walk.truncated
            depthExhausted := walk.depthExhausted
            direction := direction
            maxDepth := maxDepth
            maxResults := maxResults }

--------
-- What A Round Finds
--------

open Breadth (Distance Frontier)

variable {db : Db} {tenantId : Uuid} {direction : Direction}
  {maxDepth maxResults : Nat} {seed tlc : String}
  {walk : WalkState}

/- A link of the tenant leads from one lot to another. -/
def Follows
    (db : Db)
    (tenantId : Uuid)
    (direction : Direction)
    (a b : String) : Prop :=
  ∃ row ∈ linkRows db tenantId direction a,
    direction.far row = b

def tenantLinks
    (db : Db)
    (tenantId : Uuid) :
    List TransformationLinkRow :=
  db.transformationLinks.filter (·.tenantId == tenantId)

/- The rows whose lots lie within the depth bound. -/
noncomputable def linksWithin
    (db : Db)
    (tenantId : Uuid)
    (direction : Direction)
    (seed : String)
    (maxDepth : Nat) :
    List TransformationLinkRow :=
  open Classical in
  (tenantLinks db tenantId).filter (fun row =>
    ∃ k < maxDepth,
      Distance (Follows db tenantId direction) k seed
        (direction.near row))

/- The links found at lots of some depths. -/
def trailLinks
    (db : Db)
    (tenantId : Uuid)
    (direction : Direction)
    (trail : List (String × Nat)) :
    List TraceLink :=
  trail.flatMap (fun entry =>
    (linkRows db tenantId direction entry.1).map
      (traceLink direction entry.1 entry.2))

/- The rows of a lot in the query's direction. -/
theorem mem_linkRows
    {row : TransformationLinkRow} :
    row ∈ linkRows db tenantId direction tlc ↔
      row ∈ tenantLinks db tenantId ∧ direction.near row = tlc := by
  simp only [linkRows, tenantLinks, List.mem_filter,
    Bool.and_eq_true, beq_iff_eq, and_assoc]

/- The rows of a lot are all collected, or up to the cap. -/
theorem collect_eq
    (direction : Direction)
    (tlc : String)
    (depth : Nat)
    (rows : List TransformationLinkRow)
    {walk : WalkState}
    (hGoing : walk.truncated = false)
    (hCap : walk.results.length ≤ maxResults) :
    let after := collect maxResults direction tlc depth rows walk
    let links := rows.map (traceLink direction tlc depth)
    after.results = (walk.results ++ links).take maxResults ∧
      after.truncated =
        decide (maxResults < (walk.results ++ links).length) ∧
      (after.truncated = false →
        after.queue = walk.queue ++
          (rows.filter (fun row =>
            direction.far row ∉ walk.visited)).map (fun row =>
              (direction.far row, depth + 1))) := by
  induction rows generalizing walk with
  | nil =>
    refine ⟨?_, ?_, fun _ => ?_⟩
    · simp only [collect, List.map_nil, List.append_nil]
      exact (List.take_of_length_le hCap).symm
    · simp only [collect, List.map_nil, List.append_nil, hGoing]
      exact (decide_eq_false (Nat.not_lt.mpr hCap)).symm
    · simp only [collect, List.filter_nil, List.map_nil,
        List.append_nil]
  | cons row rows ih =>
    dsimp only
    rw [collect]
    split
    · rename_i hFull
      have hExact : walk.results.length = maxResults := by
        omega
      refine ⟨?_, ?_, fun hLater => by cases hLater⟩
      · rw [← hExact, List.take_left]
      · simp only [List.length_append, List.length_map,
          List.length_cons, hExact]
        exact (decide_eq_true (by omega)).symm
    · rename_i hRoom
      dsimp only
      have hStep := @ih
        { walk with
          results := walk.results ++
            [traceLink direction tlc depth row]
          queue :=
            if direction.far row ∈ walk.visited then walk.queue
            else walk.queue ++ [(direction.far row, depth + 1)] }
        hGoing (by
          simp only [List.length_append, List.length_singleton]
          omega)
      rcases hStep with ⟨hResults, hTruncated, hQueue⟩
      refine ⟨?_, ?_, ?_⟩
      · rw [hResults, List.append_assoc]
        rfl
      · rw [hTruncated, List.append_assoc]
        rfl
      · intro hOpen
        rw [hQueue hOpen]
        by_cases hOld : direction.far row ∈ walk.visited
        · simp [hOld]
        · simp [hOld]

--------
-- The Whole Walk
--------

/-
  The links are those of the lots visited, in order and up to
  the cap, and the queue is a frontier unless the cap was hit.
-/
structure Explored
    (db : Db)
    (tenantId : Uuid)
    (direction : Direction)
    (maxDepth maxResults : Nat)
    (seed : String)
    (walk : WalkState) : Prop where
  trail :
    ∃ trail : List (String × Nat),
      walk.visited = trail.map Prod.fst ∧
        (∀ entry ∈ trail, entry.2 < maxDepth ∧
          Distance (Follows db tenantId direction) entry.2 seed
            entry.1) ∧
        walk.results =
          (trailLinks db tenantId direction trail).take
            maxResults ∧
        walk.truncated = decide (maxResults <
          (trailLinks db tenantId direction trail).length)
  nodup : walk.visited.Nodup
  frontier : walk.truncated = false →
    Frontier (Follows db tenantId direction) seed maxDepth
      (walk.depthExhausted = true) walk.visited walk.queue

/- Below the cap all links found are kept. -/
theorem eq_of_not_truncated
    {links results : List TraceLink}
    (hResults : results = links.take maxResults)
    (hOpen : decide (maxResults < links.length) = false) :
    results = links := by
  rw [hResults]
  exact List.take_of_length_le
    (Nat.not_lt.mp (of_decide_eq_false hOpen))

/- A round keeps what is known of the walk. -/
theorem explored_visit
    {depth : Nat}
    {queue : List (String × Nat)}
    (hPositive : 0 < maxDepth)
    (hExplored :
      Explored db tenantId direction maxDepth maxResults seed
        walk)
    (hGoing : walk.truncated = false)
    (hQueue : walk.queue = (tlc, depth) :: queue) :
    Explored db tenantId direction maxDepth maxResults seed
      (visit db tenantId direction maxDepth maxResults tlc depth
        { walk with queue := queue }) := by
  have hFrontier := hExplored.frontier hGoing
  rw [hQueue] at hFrontier
  unfold visit
  split
  · rename_i hOld
    exact ⟨hExplored.trail, hExplored.nodup,
      fun _ => hFrontier.skip hOld⟩
  · rename_i hNew
    split
    · rename_i hDeep
      refine ⟨hExplored.trail, hExplored.nodup, fun _ => ?_⟩
      have hCut := hFrontier.cutOff hPositive hDeep
      simpa only [eq_self] using hCut
    · rename_i hWithin
      rcases hExplored.trail with
        ⟨trail, hVisited, hTrail, hResults, hTruncated⟩
      rw [hGoing] at hTruncated
      have hAll :=
        eq_of_not_truncated hResults hTruncated.symm
      have hCap : walk.results.length ≤ maxResults := by
        rw [hResults]
        exact List.length_take_le _ _
      have hOpen :
          { walk with
            queue := queue
            visited := walk.visited ++ [tlc] }.truncated =
              false := hGoing
      rcases collect_kept maxResults direction tlc depth
        (linkRows db tenantId direction tlc) _ with
        ⟨hKept, hExhausted, -⟩
      rcases collect_eq direction tlc depth
        (linkRows db tenantId direction tlc) hOpen hCap with
        ⟨hLinks, hFlag, hLater⟩
      have hLonger :
          trailLinks db tenantId direction
              (trail ++ [(tlc, depth)]) =
            walk.results ++
              (linkRows db tenantId direction tlc).map
                (traceLink direction tlc depth) := by
        rw [hAll, trailLinks, List.flatMap_append,
          List.flatMap_singleton]
        rfl
      refine ⟨⟨trail ++ [(tlc, depth)], ?_, ?_, ?_, ?_⟩, ?_, ?_⟩
      · rw [hKept, List.map_append, ← hVisited]
        rfl
      · intro entry hMem
        rcases List.mem_append.mp hMem with hOld | hOnly
        · exact hTrail entry hOld
        · rw [List.mem_singleton.mp hOnly]
          exact ⟨Nat.lt_of_not_le hWithin,
            hFrontier.distance_head hNew
              (Nat.lt_of_not_le hWithin)⟩
      · rw [hLonger]
        exact hLinks
      · rw [hLonger]
        exact hFlag
      · rw [hKept]
        exact hExplored.nodup.append (List.nodup_singleton tlc)
          (List.disjoint_singleton.mpr hNew)
      · intro hOpen
        rw [hKept, hExhausted, hLater hOpen]
        apply hFrontier.visit hNew (Nat.lt_of_not_le hWithin)
        · intro entry hMem
          rcases List.mem_map.mp hMem with ⟨row, hRow, rfl⟩
          exact ⟨rfl, row, (List.mem_filter.mp hRow).1, rfl⟩
        · rintro other ⟨row, hRow, rfl⟩
          by_cases hSeen :
              direction.far row ∈ walk.visited ++ [tlc]
          · exact Or.inl hSeen
          · refine Or.inr (List.mem_map.mpr ⟨row, ?_, rfl⟩)
            exact List.mem_filter.mpr
              ⟨hRow, decide_eq_true hSeen⟩

/- The loop stops with an empty queue, and else goes a round. -/
theorem walkLoop_nil
    (hQueue : walk.queue = []) :
    walkLoop db tenantId direction maxDepth maxResults walk =
      walk := by
  rw [walkLoop.eq_def]
  split
  · rfl
  · rename_i hCons
    rw [hQueue] at hCons
    cases hCons

theorem walkLoop_cons
    {depth : Nat}
    {queue : List (String × Nat)}
    (hQueue : walk.queue = (tlc, depth) :: queue) :
    walkLoop db tenantId direction maxDepth maxResults walk =
      let after :=
        visit db tenantId direction maxDepth maxResults tlc
          depth { walk with queue := queue }
      if after.truncated then after
      else
        walkLoop db tenantId direction maxDepth maxResults
          after := by
  rw [walkLoop.eq_def]
  split
  · rename_i hNil
    rw [hQueue] at hNil
    cases hNil
  · rename_i hCons
    rw [hQueue] at hCons
    cases hCons
    rfl

/- The whole loop keeps it, and empties the queue or is cut. -/
theorem explored_walkLoop
    (hPositive : 0 < maxDepth)
    (hExplored :
      Explored db tenantId direction maxDepth maxResults seed
        walk)
    (hGoing : walk.truncated = false) :
    let after :=
      walkLoop db tenantId direction maxDepth maxResults walk
    Explored db tenantId direction maxDepth maxResults seed
        after ∧
      (after.truncated = false → after.queue = []) := by
  induction walk using
    walkLoop.induct db tenantId direction maxDepth maxResults with
  | case1 walk hEmpty =>
    rw [walkLoop_nil hEmpty]
    exact ⟨hExplored, fun _ => hEmpty⟩
  | case2 walk tlc depth queue hQueue after hCut =>
    have hAfter := explored_visit hPositive hExplored hGoing
      hQueue
    rw [walkLoop_cons hQueue, if_pos hCut]
    refine ⟨hAfter, fun hOpen => ?_⟩
    rw [hCut] at hOpen
    cases hOpen
  | case3 walk tlc depth queue hQueue after hOpen ih =>
    have hAfter := explored_visit hPositive hExplored hGoing
      hQueue
    rw [walkLoop_cons hQueue, if_neg hOpen]
    exact ih hAfter (Bool.eq_false_iff.mpr hOpen)

/- The walk starts with the seed alone. -/
theorem explored_init :
    Explored db tenantId direction maxDepth maxResults seed
      ⟨[], [], [(seed, 0)], false, false⟩ where
  trail := by
    refine ⟨[], rfl, ?_, List.take_nil.symm, ?_⟩
    · intro entry hMem
      cases hMem
    · exact (decide_eq_false (Nat.not_lt_zero _)).symm
  nodup := List.nodup_nil
  frontier := by
    intro _
    simpa only [Bool.false_eq_true] using Frontier.init

--------
-- Exactness
--------

open Breadth (Distance)

/- What tells the links of a tenant apart. -/
def rowKey
    (row : TransformationLinkRow) : Uuid × String × String :=
  (row.transformationEventId, row.inputTlc, row.outputTlc)

def TraceLink.key (link : TraceLink) : Uuid × String × String :=
  (link.transformationEventId, link.inputTlc, link.outputTlc)

/- The unique key of the table. -/
def LinksUnique (db : Db) : Prop :=
  (db.transformationLinks.map (fun row =>
    (row.tenantId, rowKey row))).Nodup

theorem LinksUnique.insert
    (hUnique : LinksUnique db)
    (row : TransformationLinkRow) :
    LinksUnique (db.insertTransformationLink row) := by
  unfold Db.insertTransformationLink
  cases hInsert : Table.insertRow
      TransformationLinkRow.constraints db.transformationLinks
      row with
  | error error => exact hUnique
  | ok out =>
    rcases out with ⟨table, inserted⟩
    rcases Table.insertRow_cases hInsert with
      ⟨-, -, rfl⟩ | ⟨-, hFree, -, rfl⟩
    · exact hUnique
    · unfold LinksUnique
      rw [List.map_append]
      refine hUnique.append (List.nodup_singleton _) ?_
      rw [List.map_singleton, List.disjoint_singleton]
      intro hMem
      rcases List.mem_map.mp hMem with ⟨other, hOther, hSame⟩
      rw [Table.Constraints.conflict, List.any_eq_false] at hFree
      refine hFree other hOther ?_
      simp only [rowKey, Prod.mk.injEq] at hSame
      simp [TransformationLinkRow.constraints, hSame]

/- No two links of a tenant have one key. -/
theorem LinksUnique.tenantLinks
    (hUnique : LinksUnique db) :
    ((tenantLinks db tenantId).map rowKey).Nodup := by
  refine List.Nodup.map_on ?_
    ((List.Nodup.of_map _ hUnique).filter _)
  intro row hRow other hOther hSame
  rcases List.mem_filter.mp hRow with ⟨hMem, hTenant⟩
  rcases List.mem_filter.mp hOther with ⟨hMem', hTenant'⟩
  rw [beq_iff_eq] at hTenant hTenant'
  refine List.inj_on_of_nodup_map hUnique hMem hMem' ?_
  rw [hTenant, hTenant', hSame]

theorem key_traceLink
    {depth : Nat}
    {row : TransformationLinkRow}
    (hNear : direction.near row = tlc) :
    (traceLink direction tlc depth row).key = rowKey row := by
  subst hNear
  cases direction <;> rfl

/- The keys of the links of a trail are those of its rows. -/
theorem map_key_trailLinks
    (trail : List (String × Nat)) :
    (trailLinks db tenantId direction trail).map
        TraceLink.key =
      ((trail.map Prod.fst).flatMap
        (linkRows db tenantId direction)).map rowKey := by
  induction trail with
  | nil => rfl
  | cons entry trail ih =>
    rw [trailLinks, List.flatMap_cons, List.map_append,
      List.map_cons, List.flatMap_cons, List.map_append, ← ih,
      List.map_map]
    congr 1
    apply List.map_congr_left
    intro row hRow
    exact key_traceLink (mem_linkRows.mp hRow).2

/- Different lots have different rows. -/
theorem perm_flatMap_linkRows
    {lots : List String}
    (hNodup : lots.Nodup) :
    (lots.flatMap (linkRows db tenantId direction)).Perm
      ((tenantLinks db tenantId).filter (fun row =>
        direction.near row ∈ lots)) := by
  induction lots with
  | nil => simp
  | cons lot lots ih =>
    rcases List.nodup_cons.mp hNodup with ⟨hNew, hRest⟩
    have hHere :
        ((tenantLinks db tenantId).filter (fun row =>
          direction.near row ∈ lot :: lots)).filter (fun row =>
            direction.near row == lot) =
          linkRows db tenantId direction lot := by
      unfold tenantLinks linkRows
      rw [List.filter_filter, List.filter_filter]
      apply List.filter_congr
      intro row hMem
      by_cases hNear : direction.near row = lot
      · simp [hNear]
      · simp [beq_eq_false_iff_ne.mpr hNear]
    have hLater :
        ((tenantLinks db tenantId).filter (fun row =>
          direction.near row ∈ lot :: lots)).filter (fun row =>
            !(direction.near row == lot)) =
          (tenantLinks db tenantId).filter (fun row =>
            direction.near row ∈ lots) := by
      rw [List.filter_filter]
      apply List.filter_congr
      intro row hMem
      by_cases hNear : direction.near row = lot <;>
        simp [hNear, hNew]
    rw [List.flatMap_cons, ← hHere]
    refine List.Perm.trans ?_ (List.filter_append_perm
      (fun row => direction.near row == lot) _)
    rw [hLater]
    exact (ih hRest).append_left _

/- The rows found are those of the lots visited. -/
theorem Explored.rows
    (hExplored :
      Explored db tenantId direction maxDepth maxResults seed
        walk) :
    ∃ links : List TraceLink,
      walk.results = links.take maxResults ∧
        walk.truncated = decide (maxResults < links.length) ∧
        (links.map TraceLink.key).Perm
          (((tenantLinks db tenantId).filter (fun row =>
            direction.near row ∈ walk.visited)).map rowKey) := by
  rcases hExplored.trail with
    ⟨trail, hVisited, -, hResults, hTruncated⟩
  refine ⟨_, hResults, hTruncated, ?_⟩
  rw [map_key_trailLinks, ← hVisited]
  exact (perm_flatMap_linkRows hExplored.nodup).map rowKey

/- No link is returned twice. -/
theorem Explored.nodup_keys
    (hUnique : LinksUnique db)
    (hExplored :
      Explored db tenantId direction maxDepth maxResults seed
        walk) :
    (walk.results.map TraceLink.key).Nodup := by
  rcases hExplored.rows with ⟨links, hResults, -, hRows⟩
  rw [hResults, List.map_take]
  refine List.Nodup.sublist (List.take_sublist _ _) ?_
  rw [hRows.nodup_iff]
  exact hUnique.tenantLinks.sublist
    ((List.filter_sublist).map rowKey)

/- A link is returned at the distance of its lot. -/
theorem Explored.depth
    (hExplored :
      Explored db tenantId direction maxDepth maxResults seed
        walk)
    {link : TraceLink}
    (hLink : link ∈ walk.results) :
    ∃ row ∈ tenantLinks db tenantId, ∃ k < maxDepth,
      Distance (Follows db tenantId direction) k seed
          (direction.near row) ∧
        link = traceLink direction (direction.near row) k row ∧
        link.depth = k + 1 := by
  rcases hExplored.trail with ⟨trail, -, hTrail, hResults, -⟩
  rw [hResults] at hLink
  rcases List.mem_flatMap.mp (List.mem_of_mem_take hLink) with
    ⟨entry, hEntry, hMem⟩
  rcases List.mem_map.mp hMem with ⟨row, hRow, rfl⟩
  rcases mem_linkRows.mp hRow with ⟨hTenant, hNear⟩
  rcases hTrail entry hEntry with ⟨hBound, hDistance⟩
  rw [← hNear] at hDistance ⊢
  exact ⟨row, hTenant, entry.2, hBound, hDistance, rfl, rfl⟩

/- The lots visited lie within the bound. -/
theorem Explored.sublist
    (hExplored :
      Explored db tenantId direction maxDepth maxResults seed
        walk) :
    ((tenantLinks db tenantId).filter (fun row =>
      direction.near row ∈ walk.visited)).Sublist
        (linksWithin db tenantId direction seed maxDepth) := by
  classical
  rcases hExplored.trail with ⟨trail, hVisited, hTrail, -, -⟩
  apply List.monotone_filter_right
  intro row hNear
  rw [decide_eq_true_eq, hVisited] at hNear
  rcases List.mem_map.mp hNear with ⟨entry, hEntry, hSame⟩
  rcases hTrail entry hEntry with ⟨hBound, hDistance⟩
  rw [hSame] at hDistance
  exact decide_eq_true ⟨entry.2, hBound, hDistance⟩

/- A walk is truncated when the bound holds more than the cap. -/
theorem Explored.truncated_iff
    (hExplored :
      Explored db tenantId direction maxDepth maxResults seed
        walk)
    (hDone : walk.truncated = false → walk.queue = []) :
    walk.truncated = true ↔
      maxResults < (linksWithin db tenantId direction seed
        maxDepth).length := by
  rcases hExplored.rows with ⟨links, -, hTruncated, hRows⟩
  have hLength := hRows.length_eq
  rw [List.length_map, List.length_map] at hLength
  rw [hLength] at hTruncated
  rw [hTruncated, decide_eq_true_eq]
  constructor
  · intro hMore
    exact Nat.lt_of_lt_of_le hMore hExplored.sublist.length_le
  · intro hMore
    by_contra hFew
    have hOpen : walk.truncated = false := by
      rw [hTruncated]
      exact decide_eq_false hFew
    have hFrontier := hExplored.frontier hOpen
    rw [hDone hOpen] at hFrontier
    have hSame :
        linksWithin db tenantId direction seed maxDepth =
          (tenantLinks db tenantId).filter (fun row =>
            direction.near row ∈ walk.visited) := by
      unfold linksWithin
      apply List.filter_congr
      intro row hMem
      exact decide_eq_decide.mpr hFrontier.mem_iff.symm
    rw [hSame] at hMore
    exact hFew hMore

/- A walk that no limit stopped returns all that is reached. -/
theorem Explored.mem_iff_reaches
    (hUnique : LinksUnique db)
    (hExplored :
      Explored db tenantId direction maxDepth maxResults seed
        walk)
    (hDone : walk.truncated = false → walk.queue = [])
    (hOpen : walk.truncated = false)
    (hWhole : walk.depthExhausted = false)
    {row : TransformationLinkRow}
    (hRow : row ∈ tenantLinks db tenantId) :
    (∃ link ∈ walk.results, link.key = rowKey row) ↔
      Relation.ReflTransGen (Follows db tenantId direction) seed
        (direction.near row) := by
  rcases hExplored.rows with ⟨links, hResults, hTruncated, hRows⟩
  have hFrontier := hExplored.frontier hOpen
  rw [hDone hOpen] at hFrontier
  rw [← hFrontier.mem_iff_reaches (by simp [hWhole]),
    eq_of_not_truncated hResults (hTruncated.symm.trans hOpen),
    ← List.mem_map, hRows.mem_iff, List.mem_map]
  constructor
  · rintro ⟨other, hOther, hSame⟩
    rcases List.mem_filter.mp hOther with ⟨hTenant, hNear⟩
    rw [← List.inj_on_of_nodup_map hUnique.tenantLinks
      hTenant hRow hSame]
    exact of_decide_eq_true hNear
  · intro hNear
    exact ⟨row,
      List.mem_filter.mpr ⟨hRow, decide_eq_true hNear⟩, rfl⟩

/- A walk is what its loop explored. -/
theorem exists_explored
    (hPositive : 1 ≤ maxDepth) :
    ∃ state,
      Explored db tenantId direction maxDepth maxResults seed
          state ∧
        (state.truncated = false → state.queue = []) ∧
        traceWalk db tenantId seed direction.text maxDepth
            maxResults =
          .ok ⟨state.results, state.truncated,
            state.depthExhausted, direction.text, maxDepth,
            maxResults⟩ := by
  have hDirection :
      Direction.ofText direction.text = some direction := by
    cases direction <;> rfl
  have hInit :
      Explored db tenantId direction maxDepth maxResults seed
        ⟨[], [], [(seed, 0)], false, false⟩ := explored_init
  rcases explored_walkLoop hPositive hInit rfl with
    ⟨hExplored, hDone⟩
  refine ⟨_, hExplored, hDone, ?_⟩
  simp only [traceWalk, hDirection,
    if_neg (Nat.not_lt.mpr hPositive)]

/- A walk that returns was asked for a depth. -/
theorem positive_of_traceWalk
    {walk : TraceWalk}
    (hWalk :
      traceWalk db tenantId seed direction.text maxDepth
        maxResults = .ok walk) :
    1 ≤ maxDepth := by
  by_contra hNone
  unfold traceWalk at hWalk
  split at hWalk
  · cases hWalk
  · rw [if_pos (Nat.not_le.mp hNone)] at hWalk
    cases hWalk

/-
  The walk returns no link twice and each at the distance of
  its lot; it is truncated exactly when more links than the cap
  lie within the bound, and when it reports neither limit it
  returns the links that can be reached.
-/
theorem traceWalk_exact
    (hUnique : LinksUnique db)
    (hPositive : 1 ≤ maxDepth) :
    ∃ walk,
      traceWalk db tenantId seed direction.text maxDepth
          maxResults = .ok walk ∧
        (walk.links.map TraceLink.key).Nodup ∧
        (∀ link ∈ walk.links,
          ∃ row ∈ tenantLinks db tenantId, ∃ k < maxDepth,
            Distance (Follows db tenantId direction) k seed
                (direction.near row) ∧
              link =
                traceLink direction (direction.near row) k row ∧
              link.depth = k + 1) ∧
        (walk.truncated = true ↔
          maxResults < (linksWithin db tenantId direction seed
            maxDepth).length) ∧
        (walk.truncated = false → walk.depthExhausted = false →
          ∀ row ∈ tenantLinks db tenantId,
            (∃ link ∈ walk.links, link.key = rowKey row) ↔
              Relation.ReflTransGen
                (Follows db tenantId direction) seed
                  (direction.near row)) := by
  rcases exists_explored hPositive with
    ⟨state, hExplored, hDone, hWalk⟩
  exact ⟨_, hWalk, hExplored.nodup_keys hUnique,
    fun _ hLink => hExplored.depth hLink,
    hExplored.truncated_iff hDone,
    fun hOpen hWhole _ hRow => hExplored.mem_iff_reaches hUnique
      hDone hOpen hWhole hRow⟩

/- A diamond of links, with a cycle and a link to itself. -/
def diamondTenant : Uuid :=
  ⟨"00000000-0000-0000-0000-000000000001", isUuidText_one⟩

def diamond : Db :=
  let link (input output : String) : TransformationLinkRow :=
    { tenantId := diamondTenant
      transformationEventId := diamondTenant
      inputTlc := input
      inputEventId := none
      inputQuantity := none
      inputUnit := none
      outputTlc := output
      outputEventId := diamondTenant
      outputQuantity := ⟨"1.0", Python.isFloatRepr_one⟩
      outputUnit := "cases"
      processType := none
      confidenceScore := "1.0"
      linkSource := "explicit" }
  { Db.empty with
    transformationLinks :=
      [link "A" "B", link "A" "C", link "B" "D", link "C" "D",
        link "D" "D", link "D" "A"] }

/- A walk to depth three over it, with room for five links. -/
theorem traceWalk_exact_diamond :
    LinksUnique diamond ∧
      ∃ walk,
        traceWalk diamond diamondTenant "A" "forward" 3 5 =
            .ok walk ∧
          (walk.links.map TraceLink.key).Nodup := by
  have hUnique : LinksUnique diamond := by
    unfold LinksUnique
    decide
  rcases @traceWalk_exact diamond diamondTenant .forward 3 5 "A"
    hUnique (by decide) with ⟨walk, hWalk, hKeys, -⟩
  exact ⟨hUnique, walk, hWalk, hKeys⟩

--------
-- Both Directions
--------

/- The lot that a link of a walk leads to. -/
def TraceLink.far : Direction → TraceLink → String
| .forward, link => link.outputTlc
| .backward, link => link.inputTlc

/- What the loop explored for a walk that returned. -/
theorem explored_of_traceWalk
    {walk : TraceWalk}
    (hWalk :
      traceWalk db tenantId seed direction.text maxDepth
        maxResults = .ok walk) :
    ∃ state,
      Explored db tenantId direction maxDepth maxResults seed
          state ∧
        (state.truncated = false → state.queue = []) ∧
        walk.links = state.results ∧
        walk.truncated = state.truncated ∧
        walk.depthExhausted = state.depthExhausted := by
  rcases @exists_explored db tenantId direction maxDepth
    maxResults seed (positive_of_traceWalk hWalk) with
    ⟨state, hExplored, hDone, hReturned⟩
  rw [hReturned] at hWalk
  cases hWalk
  exact ⟨state, hExplored, hDone, rfl, rfl, rfl⟩

/- A link of a walk is that of a row at its depth. -/
theorem distance_of_mem
    {walk : TraceWalk}
    {link : TraceLink}
    (hWalk :
      traceWalk db tenantId seed direction.text maxDepth
        maxResults = .ok walk)
    (hLink : link ∈ walk.links) :
    ∃ row ∈ tenantLinks db tenantId, ∃ k,
      Distance (Follows db tenantId direction) k seed
          (direction.near row) ∧
        link.depth = k + 1 ∧ rowKey row = link.key := by
  rcases explored_of_traceWalk hWalk with
    ⟨state, hExplored, -, hLinks, -⟩
  rcases hExplored.depth (hLinks ▸ hLink) with
    ⟨row, hRow, k, -, hDistance, rfl, hDepth⟩
  exact ⟨row, hRow, k, hDistance, hDepth,
    (key_traceLink rfl).symm⟩

/- A walk that no limit stopped has all that can be reached. -/
theorem mem_keys_iff
    {walk : TraceWalk}
    {key : Uuid × String × String}
    (hWalk :
      traceWalk db tenantId seed direction.text maxDepth
        maxResults = .ok walk)
    (hOpen : walk.truncated = false)
    (hWhole : walk.depthExhausted = false) :
    key ∈ walk.links.map TraceLink.key ↔
      ∃ row ∈ tenantLinks db tenantId,
        Relation.ReflTransGen (Follows db tenantId direction)
            seed (direction.near row) ∧
          rowKey row = key := by
  rcases explored_of_traceWalk hWalk with
    ⟨state, hExplored, hDone, hLinks, hCut, hEnd⟩
  rw [hCut] at hOpen
  rw [hEnd] at hWhole
  rcases hExplored.rows with ⟨links, hResults, hTruncated, hRows⟩
  have hFrontier := hExplored.frontier hOpen
  rw [hDone hOpen] at hFrontier
  rw [hLinks,
    eq_of_not_truncated hResults (hTruncated.symm.trans hOpen),
    hRows.mem_iff, List.mem_map]
  refine exists_congr fun row => ?_
  rw [List.mem_filter, decide_eq_true_eq,
    hFrontier.mem_iff_reaches (by simp [hWhole]), and_assoc]

/- It leads to the lots that some steps lead to. -/
theorem exists_far_iff_transGen
    {walk : TraceWalk}
    (hWalk :
      traceWalk db tenantId seed direction.text maxDepth
        maxResults = .ok walk)
    (hOpen : walk.truncated = false)
    (hWhole : walk.depthExhausted = false) :
    (∃ link ∈ walk.links, TraceLink.far direction link = tlc) ↔
      Relation.TransGen (Follows db tenantId direction) seed
        tlc := by
  have hFar :
      ∀ {row : TransformationLinkRow} {link : TraceLink},
        rowKey row = link.key →
          direction.far row = TraceLink.far direction link := by
    intro row link hSame
    cases direction with
    | forward => exact congrArg (·.2.2) hSame
    | backward => exact congrArg (·.2.1) hSame
  rw [Relation.TransGen.tail'_iff]
  constructor
  · rintro ⟨link, hLink, rfl⟩
    rcases distance_of_mem hWalk hLink with
      ⟨row, hRow, k, hDistance, -, hSame⟩
    exact ⟨_,
      Breadth.reaches_iff_steps.mpr ⟨k, hDistance.1⟩, row,
      mem_linkRows.mpr ⟨hRow, rfl⟩, hFar hSame⟩
  · rintro ⟨lot, hReach, row, hRow, rfl⟩
    rcases mem_linkRows.mp hRow with ⟨hTenant, rfl⟩
    rcases List.mem_map.mp
        ((mem_keys_iff hWalk hOpen hWhole).mpr
          ⟨row, hTenant, hReach, rfl⟩) with
      ⟨link, hLink, hSame⟩
    exact ⟨link, hLink, (hFar hSame.symm).symm⟩

/- A step back is a step forward, the other way round. -/
theorem follows_backward :
    Follows db tenantId .backward =
      Function.swap (Follows db tenantId .forward) := by
  funext a b
  simp only [Follows, mem_linkRows, Function.swap,
    Direction.near, Direction.far, and_right_comm, and_assoc]

/-
  Two walks that no limit stopped agree: the forward one of a
  lot leads to another lot exactly when the backward one of
  that lot leads to the first.
-/
theorem traceWalk_forward_iff_backward
    {source target : String}
    {depth depth' cap cap' : Nat}
    {forward backward : TraceWalk}
    (hForward :
      traceWalk db tenantId source "forward" depth cap =
        .ok forward)
    (hBackward :
      traceWalk db tenantId target "backward" depth' cap' =
        .ok backward)
    (hOpen :
      forward.truncated = false ∧ backward.truncated = false)
    (hWhole :
      forward.depthExhausted = false ∧
        backward.depthExhausted = false) :
    (∃ link ∈ forward.links, link.outputTlc = target) ↔
      ∃ link ∈ backward.links, link.inputTlc = source := by
  have hTo :=
    @exists_far_iff_transGen db tenantId .forward _ _ _ target
      _ hForward hOpen.1 hWhole.1
  have hFrom :=
    @exists_far_iff_transGen db tenantId .backward _ _ _ source
      _ hBackward hOpen.2 hWhole.2
  rw [follows_backward, Relation.transGen_swap, ← hTo] at hFrom
  exact hFrom.symm

/- Over the diamond, from its first lot and back to it. -/
theorem traceWalk_forward_iff_backward_diamond :
    ∃ forward backward,
      traceWalk diamond diamondTenant "A" "forward" 9 9 =
          .ok forward ∧
        traceWalk diamond diamondTenant "D" "backward" 9 9 =
          .ok backward ∧
        ((∃ link ∈ forward.links, link.outputTlc = "D") ↔
          ∃ link ∈ backward.links, link.inputTlc = "A") := by
  refine ⟨_, _, rfl, rfl,
    @traceWalk_forward_iff_backward diamond diamondTenant "A"
      "D" 9 9 9 9 _ _ rfl rfl ?_ ?_⟩ <;>
  decide +kernel

end CanonicalEventStore

end RegEngine
