import Mathlib.Data.List.Sort
import Mathlib.Data.Prod.Lex
import RegEngine.Library.Ranking
import RegEngine.Library.Rounding
import RegEngine.Shared.IdentityResolution.Registration
import RegEngine.Shared.IdentityResolution.Similarity

/-
  Entities found by a name that is like one of their aliases
  (`services/shared/identity_resolution/matching.py`). The
  candidates come from a trigram query or, without it, from a
  full scan; both are scored by one ratio. Numbers are exact.

  Main declarations:
    * `Matching.trigramRows`
    * `Matching.fullRows`
    * `Matching.findPotentialMatches`
-/

--------
-- Rows
--------

namespace RegEngine

namespace Matching

/- A row of `fsma.entity_aliases`. -/
structure AliasRow where
  tenantId : String
  entityId : String
  aliasType : String
  aliasValue : String

/- The columns of an entity that a match carries. -/
structure EntityColumns where
  entityId : String
  entityType : String
  canonicalName : String
  gln : Option String
  gtin : Option String
  verificationStatus : String
  entityConfidence : Option ℚ
  deriving DecidableEq

/- A row of `fsma.canonical_entities`. -/
structure EntityRow where
  tenantId : String
  isActive : Bool
  columns : EntityColumns

/- The tables that the queries read. -/
structure Tables where
  aliases : List AliasRow
  entities : List EntityRow

/- A row of the result: an entity, and one of its aliases. -/
structure MatchRow where
  entity : EntityColumns
  aliasValue : String
  deriving DecidableEq

def nameAliasTypes : List String :=
  ["name", "trade_name", "abbreviation"]

/- The active entity that an alias of the tenant is of. -/
def entityOf
    (tables : Tables)
    (tenantId : String)
    (entityType : Option String)
    (row : AliasRow) :
    Option EntityColumns :=
  match tables.entities.find? (fun entity =>
      entity.columns.entityId == row.entityId &&
        entity.tenantId == row.tenantId) with
  | none => none
  | some entity =>
      if row.tenantId == tenantId &&
          nameAliasTypes.contains row.aliasType &&
          entity.isActive &&
          (entityType == none ||
            entityType == some entity.columns.entityType) then
        some entity.columns
      else
        none

/- The query without a filter: every alias that is a name. -/
def fullRows
    (tables : Tables)
    (tenantId : String)
    (entityType : Option String) :
    List MatchRow :=
  tables.aliases.filterMap (fun row =>
    (entityOf tables tenantId entityType row).map
      (fun entity => ⟨entity, row.aliasValue⟩))

/- `candidate_pool`. -/
def candidatePool (limit : Nat) : Nat :=
  max (limit * 20) 100

/- `sim_floor`. -/
def simFloor (threshold : ℚ) : ℚ :=
  max 0.2 (min (threshold * 0.7) 0.8)

/- The order in which the database returns rows: any. -/
structure RowOrder where
  arrange : List MatchRow → List MatchRow
  perm : ∀ rows, (arrange rows).Perm rows

/-
  The query by trigrams: the aliases that reach the floor, the
  most similar first, and so many of them.
-/
def trigramRows
    (order : RowOrder)
    (locale : Trigram.Locale)
    (tables : Tables)
    (tenantId searchNorm : String)
    (entityType : Option String)
    (threshold : ℚ)
    (limit : Nat) :
    List MatchRow :=
  let likeness : MatchRow → ℚ := fun row =>
    Trigram.similarity locale (locale.lower row.aliasValue)
      searchNorm
  let similar := (fullRows tables tenantId entityType).filter
    (fun row => simFloor threshold ≤ likeness row)
  ((order.arrange similar).insertionSort
    (fun row row' => likeness row' ≤ likeness row)).take
      (candidatePool limit)

--------
-- Scores
--------

structure EntityMatch where
  entity : EntityColumns
  confidence : ℚ
  matchedAlias : String
  deriving DecidableEq

/- What rows are scored against. -/
structure Search where
  lower : String → String
  searchNorm : String
  threshold : ℚ
  caseSensitive : Bool

namespace Search

def ratio (search : Search) (aliasValue : String) : ℚ :=
  SequenceMatcher.ratio search.searchNorm
    (if search.caseSensitive then
      aliasValue
    else
      Python.strip (search.lower aliasValue))

/- `round(ratio, 4)`. -/
def confidence (search : Search) (aliasValue : String) : ℚ :=
  Rounding.toPlaces 4 (search.ratio aliasValue)

/- The match that a row makes. -/
def toMatch (search : Search) (row : MatchRow) :
    EntityMatch where
  entity := row.entity
  confidence := search.confidence row.aliasValue
  matchedAlias := row.aliasValue

end Search

/- The first match of the entity that scores less is raised. -/
def raise (search : Search) (row : MatchRow) :
    List EntityMatch → List EntityMatch
| [] => []
| item :: rest =>
    if item.entity.entityId = row.entity.entityId ∧
        item.confidence < search.ratio row.aliasValue then
      { item with
        confidence := search.confidence row.aliasValue
        matchedAlias := row.aliasValue } :: rest
    else
      item :: raise search row rest

/- One round of the loop over the rows. -/
def scoreRow
    (search : Search)
    (scored : List EntityMatch)
    (row : MatchRow) :
    List EntityMatch :=
  if search.ratio row.aliasValue < search.threshold then
    scored
  else if scored.any (fun item =>
      item.entity.entityId == row.entity.entityId) then
    raise search row scored
  else
    scored ++ [search.toMatch row]

/- The loop over the rows. -/
def scoreRows (search : Search) (rows : List MatchRow) :
    List EntityMatch :=
  rows.foldl (scoreRow search) []

/- The sort by confidence, and the cut. -/
def ranked (limit : Nat) (scored : List EntityMatch) :
    List EntityMatch :=
  (Ranking.descending EntityMatch.confidence scored).take limit

/- The search, its name lowered and stripped unless case counts. -/
def searchFor
    (lower : String → String)
    (searchName : String)
    (threshold : ℚ)
    (caseSensitive : Bool) : Search where
  lower := lower
  searchNorm :=
    if caseSensitive then
      searchName
    else
      Python.strip (lower searchName)
  threshold := threshold
  caseSensitive := caseSensitive

/- The rows that are scored, with trigrams or without them. -/
def scannedRows
    (order : RowOrder)
    (locale : Trigram.Locale)
    (tables : Tables)
    (search : Search)
    (tenantId : String)
    (entityType : Option String)
    (limit : Nat)
    (hasTrigrams : Bool) :
    List MatchRow :=
  if hasTrigrams && !search.caseSensitive &&
      search.searchNorm != "" then
    trigramRows order locale tables tenantId search.searchNorm
      entityType search.threshold limit
  else
    order.arrange (fullRows tables tenantId entityType)

/-
  `find_potential_matches`, where the trigram query runs or
  fails.
-/
def findPotentialMatches
    (order : RowOrder)
    (lower : String → String)
    (locale : Trigram.Locale)
    (tables : Tables)
    (tenantId searchName : String)
    (entityType : Option String)
    (threshold : ℚ)
    (limit : Nat)
    (caseSensitive : Bool)
    (hasTrigrams : Bool) :
    Except IdentityFailure (List EntityMatch) :=
  if entityType.any (fun given =>
      !validEntityTypes.contains given) then
    .error .valueError
  else
    let search :=
      searchFor lower searchName threshold caseSensitive
    .ok (ranked limit (scoreRows search
      (scannedRows order locale tables search tenantId
        entityType limit hasTrigrams)))

--------
-- The Loop
--------

open Ranking (Best Ranked Settled Selection)

variable {search : Search}

def entityId (item : EntityMatch) : String :=
  item.entity.entityId

/- The matches of the rows that reach the threshold. -/
def offers (search : Search) (rows : List MatchRow) :
    List EntityMatch :=
  (rows.filter (fun row =>
    search.threshold ≤ search.ratio row.aliasValue)).map
      search.toMatch

/-
  How a match stands against another of its entity: by its
  confidence, and then by whether that was rounded down. The
  loop compares a ratio with a confidence that is rounded.
-/
def standing (search : Search) (item : EntityMatch) :
    ℚ ×ₗ Bool :=
  toLex (item.confidence,
    decide (item.confidence < search.ratio item.matchedAlias))

/- A match that stands no lower has no less confidence. -/
theorem confidence_le_of_standing_le
    (item item' : EntityMatch)
    (hLe : standing search item ≤ standing search item') :
    item.confidence ≤ item'.confidence :=
  Prod.Lex.monotone_fst _ _ hLe

/- Rows with one entity id are of one entity. -/
def OneEntity (rows : List MatchRow) : Prop :=
  ∀ row ∈ rows, ∀ row' ∈ rows,
    row.entity.entityId = row'.entity.entityId →
      row.entity = row'.entity

/- What is offered is the match of a row. -/
theorem exists_row_of_mem_offers
    {rows : List MatchRow}
    {item : EntityMatch}
    (hMem : item ∈ offers search rows) :
    ∃ row ∈ rows, search.toMatch row = item := by
  rcases List.mem_map.mp hMem with ⟨row, hRow, rfl⟩
  exact ⟨row, List.mem_of_mem_filter hRow, rfl⟩

/- Some of the rows offer some of the matches. -/
theorem offers_subset
    {rows part : List MatchRow}
    (hPart : part ⊆ rows) :
    offers search part ⊆ offers search rows :=
  List.map_subset _ (List.filter_subset _ hPart)

/- A row that reaches the threshold is offered last. -/
theorem offers_concat_of_passes
    {rows : List MatchRow}
    {row : MatchRow}
    (hPasses :
      ¬ search.ratio row.aliasValue < search.threshold) :
    offers search (rows ++ [row]) =
      offers search rows ++ [search.toMatch row] := by
  simp [offers, List.filter_append, not_lt.mp hPasses]

/- A row that does not reach it is not offered. -/
theorem offers_concat_of_fails
    {rows : List MatchRow}
    {row : MatchRow}
    (hFails : search.ratio row.aliasValue < search.threshold) :
    offers search (rows ++ [row]) = offers search rows := by
  simp [offers, List.filter_append, not_le.mpr hFails]

/- A match that a ratio exceeds stands no higher. -/
theorem standing_le_of_lt
    {row row' : MatchRow}
    (hLess :
      search.confidence row.aliasValue <
        search.ratio row'.aliasValue) :
    standing search (search.toMatch row) ≤
      standing search (search.toMatch row') := by
  have hLe : search.confidence row.aliasValue ≤
      search.confidence row'.aliasValue := by
    have hRounded := Rounding.toPlaces_mono 4 hLess.le
    rw [Search.confidence, Rounding.toPlaces_toPlaces]
      at hRounded
    exact hRounded
  apply Prod.Lex.toLex_le_toLex.mpr
  rcases hLe.lt_or_eq with hMore | hEq
  · exact Or.inl hMore
  · refine Or.inr ⟨hEq, ?_⟩
    have hDown : search.confidence row'.aliasValue <
        search.ratio row'.aliasValue := hEq ▸ hLess
    simp only [Search.toMatch, hDown, decide_true]
    exact Bool.le_true _

/- A match that no ratio exceeds stands no lower. -/
theorem standing_le_of_not_lt
    {row row' : MatchRow}
    (hNot :
      ¬ search.confidence row.aliasValue <
        search.ratio row'.aliasValue) :
    standing search (search.toMatch row') ≤
      standing search (search.toMatch row) := by
  have hLe : search.confidence row'.aliasValue ≤
      search.confidence row.aliasValue := by
    have hRounded := Rounding.toPlaces_mono 4 (not_lt.mp hNot)
    conv_rhs at hRounded =>
      rw [Search.confidence, Rounding.toPlaces_toPlaces]
    exact hRounded
  apply Prod.Lex.toLex_le_toLex.mpr
  rcases hLe.lt_or_eq with hMore | hEq
  · exact Or.inl hMore
  · refine Or.inr ⟨hEq, ?_⟩
    have hUp : ¬ search.confidence row'.aliasValue <
        search.ratio row'.aliasValue := hEq.symm ▸ hNot
    simp only [Search.toMatch, hUp, decide_false]
    exact Bool.false_le _

variable {scored : List EntityMatch}

/- No match is raised when none of the entity scores less. -/
theorem raise_eq_self
    {row : MatchRow}
    (hNone : ∀ item ∈ scored,
      entityId item = row.entity.entityId →
        ¬ item.confidence < search.ratio row.aliasValue) :
    raise search row scored = scored := by
  induction scored with
  | nil => rfl
  | cons item rest ih =>
      rw [raise, if_neg, ih]
      · intro other hOther
        exact hNone other (List.mem_cons_of_mem _ hOther)
      · rintro ⟨hId, hLess⟩
        exact hNone item List.mem_cons_self hId hLess

/- The match of the entity is raised, when it scores less. -/
theorem raise_eq_map
    {row : MatchRow}
    (hNodup : (scored.map entityId).Nodup)
    (hLess : ∀ item ∈ scored,
      entityId item = row.entity.entityId →
        item.entity = row.entity ∧
          item.confidence < search.ratio row.aliasValue) :
    raise search row scored =
      scored.map (fun item =>
        if entityId item = entityId (search.toMatch row) then
          search.toMatch row
        else
          item) := by
  induction scored with
  | nil => rfl
  | cons item rest ih =>
      rw [List.map_cons, List.nodup_cons] at hNodup
      have hRest : ∀ other ∈ rest,
          entityId other = row.entity.entityId →
            other.entity = row.entity ∧
              other.confidence < search.ratio row.aliasValue :=
        fun other hOther =>
          hLess other (List.mem_cons_of_mem _ hOther)
      rw [raise, List.map_cons]
      by_cases hId : entityId item = entityId (search.toMatch row)
      · rcases hLess item List.mem_cons_self hId with
          ⟨hEntity, hScore⟩
        have hOthers : ∀ other ∈ rest,
            entityId other ≠ entityId (search.toMatch row) := by
          intro other hOther hSame
          apply hNodup.1
          rw [hId, ← hSame]
          exact List.mem_map_of_mem hOther
        rw [if_pos ⟨hId, hScore⟩, if_pos hId, hEntity]
        congr 1
        conv_lhs => rw [← List.map_id rest]
        apply List.map_congr_left
        intro other hOther
        rw [if_neg (hOthers other hOther)]
        rfl
      · rw [if_neg (fun hBoth => hId hBoth.1),
          if_neg hId, ih hNodup.2 hRest]

/-
  The loop selects a best match of each entity: a row is a new
  entity's, or it raises the match of its entity, or it does
  not exceed it.
-/
theorem scoreRows_selection
    (search : Search)
    {rows : List MatchRow}
    (hOne : OneEntity rows) :
    Selection entityId (standing search) (offers search rows)
      (scoreRows search rows) := by
  induction rows using List.reverseRecOn with
  | nil => exact Selection.nil
  | append_singleton rows row ih =>
      have hRows : OneEntity rows := fun r hR r' hR' =>
        hOne r (List.mem_append_left _ hR)
          r' (List.mem_append_left _ hR')
      have hScored := ih hRows
      rw [scoreRows, List.foldl_concat, ← scoreRows, scoreRow]
      by_cases hFails :
          search.ratio row.aliasValue < search.threshold
      · rw [if_pos hFails, offers_concat_of_fails hFails]
        exact hScored
      · rw [if_neg hFails, offers_concat_of_passes hFails]
        by_cases hSeen : (scoreRows search rows).any (fun item =>
            item.entity.entityId == row.entity.entityId) = true
        · rw [if_pos hSeen]
          rcases List.any_eq_true.mp hSeen with
            ⟨old, hOld, hBeq⟩
          have hSame :
              entityId old = entityId (search.toMatch row) :=
            beq_iff_eq.mp hBeq
          rcases exists_row_of_mem_offers
              (hScored.best old hOld).1 with ⟨row', hRow', rfl⟩
          have hEntity : row'.entity = row.entity :=
            hOne row' (List.mem_append_left _ hRow') row
              (by simp) hSame
          have hOnly : ∀ item ∈ scoreRows search rows,
              entityId item = row.entity.entityId →
                item = search.toMatch row' :=
            fun item hItem hId =>
              hScored.eq_of_group hItem hOld
                (hId.trans hSame.symm)
          by_cases hLess :
              search.confidence row'.aliasValue <
                search.ratio row.aliasValue
          · rw [raise_eq_map hScored.nodup]
            · exact hScored.replace hOld hSame
                (standing_le_of_lt hLess)
            · intro item hItem hId
              rw [hOnly item hItem hId]
              exact ⟨hEntity, hLess⟩
          · rw [raise_eq_self]
            · exact hScored.keep hOld hSame
                (standing_le_of_not_lt hLess)
            · intro item hItem hId
              rw [hOnly item hItem hId]
              exact hLess
        · rw [if_neg hSeen]
          apply hScored.concat
          intro item hItem hSame
          apply hSeen
          exact List.any_eq_true.mpr
            ⟨item, hItem, beq_iff_eq.mpr hSame⟩

variable {limit : Nat}

/- What is returned, when it is determined. -/
theorem mem_ranked_iff
    {rows : List MatchRow}
    {item : EntityMatch}
    (hOne : OneEntity rows)
    (hSettled :
      Settled entityId (standing search)
        EntityMatch.confidence limit (offers search rows)) :
    item ∈ ranked limit (scoreRows search rows) ↔
      Ranked entityId (standing search)
        EntityMatch.confidence limit (offers search rows)
        item := by
  have hChosen := (scoreRows_selection search hOne).perm
    (Ranking.descending_perm EntityMatch.confidence
      (scoreRows search rows)).symm
  exact hChosen.mem_take_iff confidence_le_of_standing_le
    (Ranking.descending_pairwise _) hSettled

/- No match is returned twice. -/
theorem nodup_ranked
    {rows : List MatchRow}
    (hOne : OneEntity rows) :
    (ranked limit (scoreRows search rows)).Nodup := by
  have hNodup : (scoreRows search rows).Nodup :=
    List.Nodup.of_map _
      (scoreRows_selection search hOne).nodup
  exact ((Ranking.descending_perm EntityMatch.confidence _).nodup_iff.mpr
    hNodup).sublist (List.take_sublist _ _)

/- What is returned is a best match of its entity. -/
theorem best_of_mem_ranked
    {rows : List MatchRow}
    {item : EntityMatch}
    (hOne : OneEntity rows)
    (hMem : item ∈ ranked limit (scoreRows search rows)) :
    item ∈ scoreRows search rows ∧
      Best entityId (standing search) (offers search rows)
        item := by
  have hScored := (Ranking.descending_perm EntityMatch.confidence _).mem_iff.mp
    (List.mem_of_mem_take hMem)
  exact ⟨hScored, (scoreRows_selection search hOne).best item hScored⟩

end Matching

end RegEngine
