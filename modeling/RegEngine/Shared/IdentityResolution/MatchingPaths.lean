import RegEngine.Shared.IdentityResolution.Matching

/-
  When the trigram query and the full scan lead to the same
  matches, in whatever order the database returns its rows.

  Main declarations:
    * `Matching.Determined`
    * `Matching.Held`
    * `Matching.exists_order_mem_ranked`
    * `Matching.sameMatches_iff`
-/

--------
-- Rows of One Entity
--------

namespace RegEngine

open Ranking (Best Ranked Settled Selection)

namespace Matching

section

variable {search : Search}
variable {others scored : List EntityMatch} {id : String}

/- The match of another entity is not raised. -/
theorem raise_append
    {row : MatchRow}
    (hOthers : ∀ item ∈ others,
      entityId item ≠ row.entity.entityId) :
    raise search row (others ++ scored) =
      others ++ raise search row scored := by
  induction others with
  | nil => rfl
  | cons item rest ih =>
      rw [List.cons_append, raise, if_neg, ih, List.cons_append]
      · intro other hOther
        exact hOthers other (List.mem_cons_of_mem _ hOther)
      · rintro ⟨hId, -⟩
        exact hOthers item List.mem_cons_self hId

/- A row leaves the matches of other entities as they are. -/
theorem scoreRow_append
    {row : MatchRow}
    (hOthers : ∀ item ∈ others,
      entityId item ≠ row.entity.entityId) :
    scoreRow search (others ++ scored) row =
      others ++ scoreRow search scored row := by
  have hUnseen : others.any (fun item =>
      item.entity.entityId == row.entity.entityId) = false := by
    rw [List.any_eq_false]
    intro item hItem
    rw [beq_iff_eq]
    exact hOthers item hItem
  unfold scoreRow
  rw [List.any_append, hUnseen, Bool.false_or,
    raise_append hOthers, List.append_assoc]
  split
  · rfl
  · split <;> rfl

/- Rows of other entities are scored on their own. -/
theorem foldl_scoreRow_append
    {rows : List MatchRow}
    (hOthers : ∀ item ∈ others, ∀ row ∈ rows,
      entityId item ≠ row.entity.entityId) :
    rows.foldl (scoreRow search) (others ++ scored) =
      others ++ rows.foldl (scoreRow search) scored := by
  induction rows generalizing scored with
  | nil => rfl
  | cons row rest ih =>
      rw [List.foldl_cons, List.foldl_cons, scoreRow_append, ih]
      · intro item hItem row' hRow'
        exact hOthers item hItem row'
          (List.mem_cons_of_mem _ hRow')
      · intro item hItem
        exact hOthers item hItem row List.mem_cons_self

theorem scoreRows_append
    {first last : List MatchRow}
    (hApart : ∀ row ∈ first, ∀ row' ∈ last,
      row.entity.entityId ≠ row'.entity.entityId)
    (hOne : OneEntity first) :
    scoreRows search (first ++ last) =
      scoreRows search first ++ scoreRows search last := by
  rw [scoreRows, List.foldl_append, ← scoreRows,
    ← List.append_nil (scoreRows search first),
    foldl_scoreRow_append, List.append_nil, ← scoreRows]
  intro item hItem row' hRow'
  rcases exists_row_of_mem_offers
      ((scoreRows_selection search hOne).best item hItem).1 with
    ⟨row, hRow, rfl⟩
  exact hApart row hRow row' hRow'

/- Rows of one entity lead to one match at most. -/
theorem scoreRows_eq_singleton
    {rows : List MatchRow}
    {item : EntityMatch}
    (hOne : OneEntity rows)
    (hSame : ∀ row ∈ rows, row.entity.entityId = id)
    (hMem : item ∈ scoreRows search rows) :
    scoreRows search rows = [item] := by
  have hSelection := scoreRows_selection search hOne
  have hId : ∀ other ∈ scoreRows search rows,
      entityId other = id := by
    intro other hOther
    rcases exists_row_of_mem_offers
        (hSelection.best other hOther).1 with ⟨row, hRow, rfl⟩
    exact hSame row hRow
  have hNodup : (scoreRows search rows).Nodup :=
    List.Nodup.of_map _ hSelection.nodup
  apply List.perm_singleton.mp
  rw [List.perm_ext_iff_of_nodup hNodup (List.nodup_singleton _)]
  intro other
  rw [List.mem_singleton]
  constructor
  · intro hOther
    exact hSelection.eq_of_group hOther hMem
      ((hId other hOther).trans (hId item hMem).symm)
  · rintro rfl
    exact hMem

--------
-- Orders
--------

/- A row whose ratio is rounded down raises all before it. -/
theorem mem_scoreRow_of_best
    {rows : List MatchRow}
    {row : MatchRow}
    (hOne : OneEntity (rows ++ [row]))
    (hPasses :
      ¬ search.ratio row.aliasValue < search.threshold)
    (hDown : search.confidence row.aliasValue <
      search.ratio row.aliasValue)
    (hBest :
      ∀ item ∈ offers search rows,
        entityId item = entityId (search.toMatch row) →
          standing search item ≤
            standing search (search.toMatch row)) :
    search.toMatch row ∈ scoreRows search (rows ++ [row]) := by
  have hRows : OneEntity rows := fun r hR r' hR' =>
    hOne r (List.mem_append_left _ hR)
      r' (List.mem_append_left _ hR')
  have hScored := scoreRows_selection search hRows
  rw [scoreRows, List.foldl_concat, ← scoreRows, scoreRow,
    if_neg hPasses]
  by_cases hSeen : (scoreRows search rows).any (fun item =>
      item.entity.entityId == row.entity.entityId) = true
  · rw [if_pos hSeen, raise_eq_map hScored.nodup]
    · rcases List.any_eq_true.mp hSeen with ⟨old, hOld, hBeq⟩
      have hId : entityId old = entityId (search.toMatch row) :=
        beq_iff_eq.mp hBeq
      exact List.mem_map.mpr ⟨old, hOld, if_pos hId⟩
    · intro item hItem hId
      have hOffer := (hScored.best item hItem).1
      rcases exists_row_of_mem_offers hOffer with
        ⟨row', hRow', rfl⟩
      refine ⟨hOne row' (List.mem_append_left _ hRow') row
        (by simp) hId, ?_⟩
      exact lt_of_le_of_lt
        (confidence_le_of_standing_le _ _
          (hBest _ hOffer hId)) hDown
  · rw [if_neg hSeen]
    simp

/- A match that no later ratio exceeds is kept. -/
theorem foldl_scoreRow_singleton
    {rows : List MatchRow}
    {item : EntityMatch}
    (hSame : ∀ row ∈ rows,
      row.entity.entityId = entityId item)
    (hNone : ∀ row ∈ rows,
      ¬ search.ratio row.aliasValue < search.threshold →
        ¬ item.confidence < search.ratio row.aliasValue) :
    rows.foldl (scoreRow search) [item] = [item] := by
  induction rows with
  | nil => rfl
  | cons row rest ih =>
      have hKept : scoreRow search [item] row = [item] := by
        unfold scoreRow
        by_cases hFails :
            search.ratio row.aliasValue < search.threshold
        · rw [if_pos hFails]
        · have hSeen : [item].any (fun other =>
              other.entity.entityId ==
                row.entity.entityId) = true := by
            rw [hSame row List.mem_cons_self]
            simp [entityId]
          rw [if_neg hFails, if_pos hSeen]
          apply raise_eq_self
          intro other hOther _
          rw [List.mem_singleton.mp hOther]
          exact hNone row List.mem_cons_self hFails
      rw [List.foldl_cons, hKept]
      apply ih
      · intro row' hRow'
        exact hSame row' (List.mem_cons_of_mem _ hRow')
      · intro row' hRow'
        exact hNone row' (List.mem_cons_of_mem _ hRow')

/- Some order of the rows of one entity leads to a best match. -/
theorem exists_perm_scoreRows_eq
    {rows : List MatchRow}
    {item : EntityMatch}
    (hOne : OneEntity rows)
    (hSame : ∀ row ∈ rows,
      row.entity.entityId = entityId item)
    (hBest : Best entityId (standing search)
      (offers search rows) item) :
    ∃ rows', rows'.Perm rows ∧
      scoreRows search rows' = [item] := by
  rcases List.mem_map.mp hBest.1 with ⟨row, hRow, rfl⟩
  simp only [List.mem_filter, decide_eq_true_eq] at hRow
  have hPasses :
      ¬ search.ratio row.aliasValue < search.threshold :=
    not_lt.mpr hRow.2
  have hErase := List.perm_cons_erase hRow.1
  by_cases hDown : search.confidence row.aliasValue <
      search.ratio row.aliasValue
  · have hPerm : (rows.erase row ++ [row]).Perm rows :=
      List.perm_append_singleton _ _ |>.trans hErase.symm
    refine ⟨rows.erase row ++ [row], hPerm, ?_⟩
    have hOne' : OneEntity (rows.erase row ++ [row]) :=
      fun r hR r' hR' => hOne r (hPerm.mem_iff.mp hR)
        r' (hPerm.mem_iff.mp hR')
    apply scoreRows_eq_singleton hOne'
      (fun r hR => hSame r (hPerm.mem_iff.mp hR))
    apply mem_scoreRow_of_best hOne' hPasses hDown
    intro item hItem hId
    apply hBest.2 item _ hId
    exact offers_subset (List.erase_subset) hItem
  · refine ⟨row :: rows.erase row, hErase.symm, ?_⟩
    rw [scoreRows, List.foldl_cons]
    have hFirst : scoreRow search [] row =
        [search.toMatch row] := by
      simp [scoreRow, hPasses]
    rw [hFirst]
    apply foldl_scoreRow_singleton
    · intro other hOther
      exact hSame other (List.mem_of_mem_erase hOther)
    · intro other hOther hOtherPasses hMore
      have hOffer : search.toMatch other ∈ offers search rows := by
        apply List.mem_map_of_mem
        simp [List.mem_of_mem_erase hOther,
          not_lt.mp hOtherPasses]
      have hId : entityId (search.toMatch other) =
          entityId (search.toMatch row) :=
        hSame other (List.mem_of_mem_erase hOther)
      have hEq := le_antisymm (hBest.2 _ hOffer hId)
        (standing_le_of_lt hMore)
      simp only [standing, Search.toMatch,
        EmbeddingLike.apply_eq_iff_eq, Prod.mk.injEq] at hEq
      have hOtherDown : search.confidence other.aliasValue <
          search.ratio other.aliasValue := by
        rw [hEq.1]
        exact hMore
      exact hDown
        ((decide_eq_decide.mp hEq.2).mp hOtherDown)

def rowsOf (id : String) (rows : List MatchRow) :
    List MatchRow :=
  rows.filter (fun row => row.entity.entityId == id)

def otherRows (id : String) (rows : List MatchRow) :
    List MatchRow :=
  rows.filter (fun row => !(row.entity.entityId == id))

theorem mem_rowsOf
    {rows : List MatchRow}
    {row : MatchRow} :
    row ∈ rowsOf id rows ↔
      row ∈ rows ∧ row.entity.entityId = id := by
  simp [rowsOf]

theorem mem_otherRows
    {rows : List MatchRow}
    {row : MatchRow} :
    row ∈ otherRows id rows ↔
      row ∈ rows ∧ row.entity.entityId ≠ id := by
  simp [otherRows]

theorem oneEntity_rowsOf
    (id : String)
    {rows : List MatchRow}
    (hOne : OneEntity rows) :
    OneEntity (rowsOf id rows) :=
  fun row hRow row' hRow' =>
    hOne row (Iff.mp mem_rowsOf hRow).1 row'
      (Iff.mp mem_rowsOf hRow').1

/- A match is offered by the rows of its entity. -/
theorem mem_offers_rowsOf
    {rows : List MatchRow}
    {item : EntityMatch}
    (hMem : item ∈ offers search rows) :
    item ∈ offers search (rowsOf (entityId item) rows) := by
  rcases List.mem_map.mp hMem with ⟨row, hRow, rfl⟩
  simp only [List.mem_filter, decide_eq_true_eq] at hRow
  apply List.mem_map_of_mem
  simp [mem_rowsOf, hRow, entityId, Search.toMatch]

/- Some order of the rows leads to a best match first. -/
theorem exists_perm_first
    {rows : List MatchRow}
    {item : EntityMatch}
    (hOne : OneEntity rows)
    (hBest : Best entityId (standing search)
      (offers search rows) item) :
    ∃ rows' rest, rows'.Perm rows ∧
      scoreRows search rows' = item :: rest := by
  have hOwn : rowsOf (entityId item) rows ⊆ rows :=
    List.filter_subset_self _
  have hBestOwn := hBest.of_subset (offers_subset hOwn)
    (mem_offers_rowsOf hBest.1)
  rcases exists_perm_scoreRows_eq (oneEntity_rowsOf _ hOne)
      (fun row hRow => (Iff.mp mem_rowsOf hRow).2) hBestOwn with
    ⟨own, hPerm, hScored⟩
  refine ⟨own ++ otherRows (entityId item) rows,
    scoreRows search (otherRows (entityId item) rows),
    (hPerm.append_right _).trans
      (List.filter_append_perm _ rows), ?_⟩
  rw [scoreRows_append, hScored]
  · rfl
  · intro row hRow row' hRow'
    rw [(Iff.mp mem_rowsOf (hPerm.mem_iff.mp hRow)).2]
    exact (Iff.mp mem_otherRows hRow').2.symm
  · intro row hRow row' hRow'
    exact hOne row (hOwn (hPerm.mem_iff.mp hRow))
      row' (hOwn (hPerm.mem_iff.mp hRow'))

/- Some order of the rows leads to an entity's match last. -/
theorem exists_perm_last
    {rows : List MatchRow}
    {item : EntityMatch}
    (hOne : OneEntity rows)
    (hMem : item ∈ offers search rows) :
    ∃ rows' rest last, rows'.Perm rows ∧
      scoreRows search rows' = rest ++ [last] ∧
      entityId last = entityId item := by
  have hOneOwn := oneEntity_rowsOf (entityId item) hOne
  rcases (scoreRows_selection search hOneOwn).covers item
      (mem_offers_rowsOf hMem) with ⟨last, hLast, hId⟩
  refine ⟨otherRows (entityId item) rows ++
      rowsOf (entityId item) rows,
    scoreRows search (otherRows (entityId item) rows), last,
    List.perm_append_comm.trans (List.filter_append_perm _ rows),
    ?_, hId⟩
  rw [scoreRows_append,
    scoreRows_eq_singleton hOneOwn
      (fun row hRow => (Iff.mp mem_rowsOf hRow).2) hLast]
  · intro row hRow row' hRow'
    rw [(Iff.mp mem_rowsOf hRow').2]
    exact (Iff.mp mem_otherRows hRow).2
  · intro row hRow row' hRow'
    exact hOne row (Iff.mp mem_otherRows hRow).1
      row' (Iff.mp mem_otherRows hRow').1

--------
-- Answers That Are Determined
--------

variable {limit : Nat} {rows : List MatchRow}
variable {item : EntityMatch}

/-
  The answer over some rows does not depend on their order:
  an entity that is returned has one best alias, and none is
  level with an entity that is left out.
-/
def Determined
    (search : Search)
    (limit : Nat)
    (rows : List MatchRow) : Prop :=
  Settled entityId (standing search) EntityMatch.confidence
    limit (offers search rows)

variable {rows' : List MatchRow}

/- The rows offer the same matches in any order. -/
theorem mem_offers_of_perm
    (hPerm : rows'.Perm rows)
    (item : EntityMatch) :
    item ∈ offers search rows' ↔ item ∈ offers search rows :=
  ⟨fun hMem => offers_subset hPerm.subset hMem,
    fun hMem => offers_subset hPerm.symm.subset hMem⟩

theorem OneEntity.of_perm
    (hOne : OneEntity rows)
    (hPerm : rows'.Perm rows) :
    OneEntity rows' :=
  fun row hRow row' hRow' =>
    hOne row (hPerm.mem_iff.mp hRow)
      row' (hPerm.mem_iff.mp hRow')

/- Two best matches of one entity have one confidence. -/
theorem confidence_eq_of_best
    {items : List EntityMatch}
    {item' : EntityMatch}
    (hBest : Best entityId (standing search) items item)
    (hBest' : Best entityId (standing search) items item')
    (hId : entityId item' = entityId item) :
    item'.confidence = item.confidence := by
  have hStanding := hBest.score_eq hBest' hId
  exact le_antisymm
    (confidence_le_of_standing_le _ _ hStanding.le)
    (confidence_le_of_standing_le _ _ hStanding.ge)

/- A ranked match is returned for some order of the rows. -/
theorem exists_perm_mem_ranked
    (hOne : OneEntity rows)
    (hRanked : Ranked entityId (standing search)
      EntityMatch.confidence limit (offers search rows) item) :
    ∃ rows', rows'.Perm rows ∧
      item ∈ ranked limit (scoreRows search rows') := by
  rcases exists_perm_first hOne hRanked.1 with
    ⟨rows', rest, hPerm, hScored⟩
  have hSelection := scoreRows_selection search
    (hOne.of_perm hPerm)
  refine ⟨rows', hPerm, ?_⟩
  rw [hScored] at hSelection ⊢
  apply hSelection.mem_take_of_first
  rw [Ranking.above_congr (mem_offers_of_perm hPerm)]
  exact hRanked.2

/-
  An entity is left out for some order of the rows when too
  many are level with it.
-/
theorem exists_perm_not_mem_ranked
    (hOne : OneEntity rows)
    (hBest :
      Best entityId (standing search) (offers search rows) item)
    (hMany : limit <
      (Ranking.level entityId EntityMatch.confidence
        (offers search rows) item).card) :
    ∃ rows', rows'.Perm rows ∧
      ∀ other ∈ ranked limit (scoreRows search rows'),
        entityId other ≠ entityId item := by
  rcases exists_perm_last hOne hBest.1 with
    ⟨rows', rest, last, hPerm, hScored, hId⟩
  have hSelection := scoreRows_selection search
    (hOne.of_perm hPerm)
  refine ⟨rows', hPerm, fun other hOther hSame => ?_⟩
  have hLast : last ∈ scoreRows search rows' := by
    rw [hScored]
    simp
  have hEq : other = last :=
    hSelection.eq_of_group
      (best_of_mem_ranked (hOne.of_perm hPerm) hOther).1 hLast
      (hSame.trans hId.symm)
  have hBestLast := (Ranking.best_congr
    (mem_offers_of_perm hPerm)).mp (hSelection.best last hLast)
  have hConfidence := confidence_eq_of_best hBest hBestLast hId
  rw [hScored] at hSelection
  apply hSelection.not_mem_take_of_last
    (n := limit) confidence_le_of_standing_le
  · rw [Ranking.level_congr (mem_offers_of_perm hPerm),
      Ranking.level_eq_of_rank_eq hConfidence]
    exact hMany
  · rw [ranked, hScored, hEq] at hOther
    exact hOther

/- When all orders lead to the same answer, it is determined. -/
theorem determined_of_forall_perm
    (hOne : OneEntity rows)
    (hSame : ∀ rows' rows'', rows'.Perm rows →
      rows''.Perm rows →
        (ranked limit (scoreRows search rows')).Perm
          (ranked limit (scoreRows search rows''))) :
    Determined search limit rows := by
  constructor
  · intro x y hRanked hBest hId
    have hRankedY : Ranked entityId (standing search)
        EntityMatch.confidence limit (offers search rows) y := by
      refine ⟨hBest, ?_⟩
      rw [Ranking.above_eq_of_rank_eq
        (confidence_eq_of_best hRanked.1 hBest hId)]
      exact hRanked.2
    rcases exists_perm_mem_ranked hOne hRanked with
      ⟨rows', hPerm, hX⟩
    rcases exists_perm_mem_ranked hOne hRankedY with
      ⟨rows'', hPerm', hY⟩
    have hY' := (hSame rows' rows'' hPerm hPerm').mem_iff.mpr hY
    have hOne' := hOne.of_perm hPerm
    exact (scoreRows_selection search hOne').eq_of_group
      (best_of_mem_ranked hOne' hY').1
      (best_of_mem_ranked hOne' hX).1 hId
  · intro x hRanked
    by_contra hMany
    rcases exists_perm_mem_ranked hOne hRanked with
      ⟨rows', hPerm, hX⟩
    rcases exists_perm_not_mem_ranked hOne hRanked.1
        (not_le.mp hMany) with ⟨rows'', hPerm', hNone⟩
    have hX' := (hSame rows' rows'' hPerm hPerm').mem_iff.mp hX
    exact hNone x hX' rfl

end

--------
-- The Two Paths
--------

open Ranking (Best Ranked Settled Selection)

variable {search : Search} {tables : Tables} {tenantId : String}
variable {entityType : Option String} {limit : Nat}

/- An alias of the tenant is joined by the id of its entity. -/
theorem entityOf_eq_some
    {row : AliasRow}
    {entity : EntityColumns}
    (hEntity :
      entityOf tables tenantId entityType row = some entity) :
    entity.entityId = row.entityId ∧
      (tables.entities.find? (fun other =>
        other.columns.entityId == entity.entityId &&
          other.tenantId == tenantId)).map
            EntityRow.columns = some entity := by
  unfold entityOf at hEntity
  split at hEntity
  · contradiction
  · rename_i other hFind
    split at hEntity
    · rename_i hKept
      simp only [Bool.and_eq_true, beq_iff_eq] at hKept
      have hId := List.find?_some hFind
      simp only [Bool.and_eq_true, beq_iff_eq] at hId
      have hColumns : other.columns = entity := by
        injection hEntity
      rw [← hColumns, hId.1, ← hKept.1.1.1, hFind]
      exact ⟨rfl, rfl⟩
    · contradiction

/- The rows of the full scan with one id are of one entity. -/
theorem oneEntity_fullRows :
    OneEntity (fullRows tables tenantId entityType) := by
  intro row hRow row' hRow' hSame
  simp only [fullRows, List.mem_filterMap, Option.map_eq_some_iff]
    at hRow hRow'
  rcases hRow with ⟨aliasRow, -, entity, hEntity, rfl⟩
  rcases hRow' with ⟨aliasRow', -, entity', hEntity', rfl⟩
  have hFound := (entityOf_eq_some hEntity).2
  have hFound' := (entityOf_eq_some hEntity').2
  simp only at hSame
  rw [hSame, hFound'] at hFound
  injection hFound with hEq
  exact hEq.symm

/- The trigram query returns rows of the full scan. -/
theorem scannedRows_subset
    (order : RowOrder)
    (locale : Trigram.Locale)
    (hasTrigrams : Bool) :
    scannedRows order locale tables search tenantId entityType
      limit hasTrigrams ⊆
        fullRows tables tenantId entityType := by
  unfold scannedRows
  split
  · intro row hRow
    have hSorted := List.mem_of_mem_take hRow
    rw [List.mem_insertionSort, (order.perm _).mem_iff] at hSorted
    exact List.mem_of_mem_filter hSorted
  · exact (order.perm _).subset

/-
  The best alias of each of the best entities is among the
  rows that are scanned.
-/
def Held
    (search : Search)
    (limit : Nat)
    (rows scanned : List MatchRow) : Prop :=
  ∀ item,
    Ranked entityId (standing search) EntityMatch.confidence
      limit (offers search rows) item →
    item ∈ offers search scanned

/- The same entities, confidences and best aliases. -/
def SameMatches :
    Except IdentityFailure (List EntityMatch) →
    Except IdentityFailure (List EntityMatch) → Prop
| .ok found, .ok found' => found.Perm found'
| .error failure, .error failure' => failure = failure'
| _, _ => False

/- Some of the rows are enough when they hold the best ones. -/
theorem perm_ranked_iff_held
    {rows scanned : List MatchRow}
    (hOne : OneEntity rows)
    (hPart : scanned ⊆ rows)
    (hDetermined : Determined search limit rows) :
    (ranked limit (scoreRows search scanned)).Perm
        (ranked limit (scoreRows search rows)) ↔
      Held search limit rows scanned := by
  have hOnePart : OneEntity scanned := fun row hRow row' hRow' =>
    hOne row (hPart hRow) row' (hPart hRow')
  constructor
  · intro hPerm item hRanked
    have hMem := hPerm.mem_iff.mpr
      ((mem_ranked_iff hOne hDetermined).mpr hRanked)
    exact (best_of_mem_ranked hOnePart hMem).2.1
  · intro hHeld
    have hSame := (Ranking.ranked_iff_mem
      confidence_le_of_standing_le (offers_subset hPart)
      hDetermined).mpr hHeld
    have hSettled :=
      hDetermined.of_subset (offers_subset hPart) hSame
    rw [List.perm_ext_iff_of_nodup (nodup_ranked hOnePart)
      (nodup_ranked hOne)]
    intro item
    rw [mem_ranked_iff hOnePart hSettled,
      mem_ranked_iff hOne hDetermined, hSame]

def RowOrder.of
    (rows rows' : List MatchRow)
    (hPerm : rows'.Perm rows) : RowOrder where
  arrange := fun given => if given = rows then rows' else given
  perm := by
    intro given
    by_cases hRows : given = rows
    · rw [if_pos hRows, hRows]
      exact hPerm
    · rw [if_neg hRows]

/-
  In whatever order rows are returned, the trigram query and
  the full scan lead to the same matches just when the type is
  refused, or the answer is determined and the trigrams hold
  the best alias of each of the best entities.
-/
theorem sameMatches_iff
    (lower : String → String)
    (locale : Trigram.Locale)
    (tables : Tables)
    (tenantId searchName : String)
    (entityType : Option String)
    (threshold : ℚ)
    (limit : Nat)
    (caseSensitive : Bool) :
    (∀ order order' : RowOrder,
      SameMatches
        (findPotentialMatches order lower locale tables tenantId
          searchName entityType threshold limit caseSensitive
          true)
        (findPotentialMatches order' lower locale tables tenantId
          searchName entityType threshold limit caseSensitive
          false)) ↔
      (entityType.any (fun given =>
          !validEntityTypes.contains given) = true ∨
        (Determined
            (searchFor lower searchName threshold caseSensitive)
            limit (fullRows tables tenantId entityType) ∧
          ∀ order : RowOrder,
            Held
              (searchFor lower searchName threshold
                caseSensitive)
              limit (fullRows tables tenantId entityType)
              (scannedRows order locale tables
                (searchFor lower searchName threshold
                  caseSensitive)
                tenantId entityType limit true))) := by
  unfold findPotentialMatches
  by_cases hInvalid : entityType.any (fun given =>
      !validEntityTypes.contains given) = true
  · simp only [if_pos hInvalid]
    exact ⟨fun _ => Or.inl hInvalid, fun _ _ _ => rfl⟩
  · simp only [if_neg hInvalid, SameMatches]
    rw [or_iff_right hInvalid]
    set search :=
      searchFor lower searchName threshold caseSensitive
    set rows := fullRows tables tenantId entityType with hRows
    have hOne : OneEntity rows := oneEntity_fullRows
    have hFull : ∀ order' : RowOrder,
        scannedRows order' locale tables search tenantId
          entityType limit false = order'.arrange rows := by
      intro order'
      simp [scannedRows, hRows]
    have hPart : ∀ order : RowOrder,
        scannedRows order locale tables search tenantId
          entityType limit true ⊆ rows :=
      fun order => scannedRows_subset order locale true
    constructor
    · intro hSame
      have hArranged : ∀ (order : RowOrder) rows',
          rows'.Perm rows →
          (ranked limit (scoreRows search
            (scannedRows order locale tables search tenantId
              entityType limit true))).Perm
            (ranked limit (scoreRows search rows')) := by
        intro order rows' hPerm
        have hOrder := hSame order (RowOrder.of rows rows' hPerm)
        rw [hFull] at hOrder
        simpa [RowOrder.of] using hOrder
      have hDetermined : Determined search limit rows := by
        apply determined_of_forall_perm hOne
        intro rows' rows'' hPerm hPerm'
        let order := RowOrder.of rows rows (List.Perm.refl rows)
        exact (hArranged order rows' hPerm).symm.trans
          (hArranged order rows'' hPerm')
      refine ⟨hDetermined, fun order => ?_⟩
      apply (perm_ranked_iff_held hOne (hPart order)
        hDetermined).mp
      exact hArranged order rows (List.Perm.refl rows)
    · rintro ⟨hDetermined, hHeld⟩ order order'
      rw [hFull]
      have hScanned := (perm_ranked_iff_held hOne (hPart order)
        hDetermined).mpr (hHeld order)
      refine hScanned.trans (List.Perm.symm ?_)
      apply (perm_ranked_iff_held hOne
        (order'.perm rows).subset hDetermined).mpr
      intro item hRanked
      exact (mem_offers_of_perm (order'.perm rows) item).mpr
        hRanked.1.1

def RowOrder.same : RowOrder where
  arrange := id
  perm := List.Perm.refl

/- The letters and digits, their case left as it is. -/
def plainLocale : Trigram.Locale where
  lower := id
  isWord := Char.isAlphanum

/- A facility known by one name. -/
def oneFacility (name : String) : Tables where
  aliases := [⟨"t", "e", "name", name⟩]
  entities := [⟨"t", true, ⟨"e", "facility", name, none, none,
    "verified", none⟩⟩]

/- A name with one letter changed has few trigrams in common. -/
theorem not_sameMatches_letterChanged :
    ¬ ∀ order order' : RowOrder,
      SameMatches
        (findPotentialMatches order id plainLocale
          (oneFacility "abxd") "t" "abcd" none 0.6 20 false true)
        (findPotentialMatches order' id plainLocale
          (oneFacility "abxd") "t" "abcd" none 0.6 20 false
          false) := by
  intro hAll
  have hSame := hAll RowOrder.same RowOrder.same
  have hTrigrams :
      findPotentialMatches RowOrder.same id plainLocale
        (oneFacility "abxd") "t" "abcd" none 0.6 20 false true =
        .ok [] := by
    decide +kernel
  have hFull :
      findPotentialMatches RowOrder.same id plainLocale
        (oneFacility "abxd") "t" "abcd" none 0.6 20 false
        false =
        .ok [⟨⟨"e", "facility", "abxd", none, none, "verified",
          none⟩, 0.75, "abxd"⟩] := by
    decide +kernel
  rw [hTrigrams, hFull] at hSame
  exact absurd hSame.length_eq (by decide)

end Matching

end RegEngine
