import RegEngine.Library.Chars
import RegEngine.Shared.IdentityResolution.Matching

/-
  The resolution of the references of an event
  (`_resolve_or_register` in
  `shared/identity_resolution/resolver.py`): an exact lookup
  under several alias types, else a new entity, with reviews
  of the entities whose names are like the reference.

  The lookup of like names asks for the entity type; the exact
  lookup does not.

  Main declarations:
    * `Identity.exactMatch`
    * `Identity.resolveOrRegister`
    * `Identity.resolvedAs_iff`
-/

--------
-- Resolution
--------

namespace RegEngine

namespace Identity

/- `AMBIGUOUS_THRESHOLD_LOW`. -/
def ambiguousThresholdLow : ℚ := 0.6

/-
  What a resolution takes from elsewhere: `str.lower`, the
  database's row order and trigrams, the columns of an entity
  that `Identity` leaves out, and the `uuid4`s it draws, that
  of the entity first.
-/
structure Surroundings where
  lower : String → String
  order : Matching.RowOrder
  locale : Trigram.Locale
  hasTrigrams : Bool
  verificationStatus : String → String
  entityConfidence : String → Option ℚ
  uuid : Nat → String

/- What a resolution reports of a reference. -/
inductive Resolution where
  | existing
  | new
  | newWithReview
  deriving DecidableEq, Repr

/- The entity a reference resolves to. -/
structure Resolved where
  entityId : String
  resolution : Resolution
  deriving DecidableEq, Repr

/- `reference.isdigit() and len(reference) == length`. -/
def isNumber (length : Nat) (reference : String) : Bool :=
  reference != "" &&
    reference.toList.all Chars.isDigit &&
    reference.length == length

/- `search_types`. -/
def searchTypes (aliasType reference : String) : List String :=
  aliasType ::
    ((if aliasType = "name" then
        ["trade_name", "abbreviation"]
      else
        []) ++
      (if isNumber 13 reference then ["gln"] else []) ++
      (if isNumber 14 reference then ["gtin"] else []))

/- 1. The loop of the exact lookup over the search types. -/
def exactMatch
    (lower : String → String)
    (s : Identity)
    (reference : String) :
    List String → Option CanonicalEntity
| [] => none
| aliasType :: rest =>
    match (findEntityByAlias lower s aliasType reference).filter
        (·.1.isActive) with
    | [] => exactMatch lower s reference rest
    | found :: _ => some found.1

/- The tables of a tenant, as the lookup of names has them. -/
def tablesOf
    (around : Surroundings)
    (tenantId : String)
    (s : Identity) : Matching.Tables :=
  { aliases :=
      s.aliases.rows.map (fun row =>
        { tenantId := tenantId
          entityId := row.1
          aliasType := row.2.aliasType
          aliasValue := row.2.aliasValue })
    entities :=
      s.entities.map (fun entity =>
        { tenantId := tenantId
          isActive := entity.isActive
          columns :=
            { entityId := entity.entityId
              entityType := entity.entityType
              canonicalName := entity.canonicalName
              gln := entity.gln
              gtin := entity.gtin
              verificationStatus :=
                around.verificationStatus entity.entityId
              entityConfidence :=
                around.entityConfidence entity.entityId } }) }

/- 2. The like names, of a reference that is a name. -/
def fuzzyMatches
    (around : Surroundings)
    (tenantId : String)
    (s : Identity)
    (entityType aliasType reference : String) :
    Except IdentityFailure (List Matching.EntityMatch) :=
  if aliasType ∈ Matching.nameAliasTypes then
    Matching.findPotentialMatches around.order around.lower
      around.locale (tablesOf around tenantId s) tenantId
      reference (some entityType) ambiguousThresholdLow 20
      false around.hasTrigrams
  else
    .ok []

/-
  The alias of the caller, when it is no name; a `ValueError`
  of `_insert_alias` is passed over.
-/
def insertCallerAlias
    (lower : String → String)
    (s : Identity)
    (entityId aliasType reference : String) :
    Except IdentityFailure Identity :=
  if aliasType = "name" then
    .ok s
  else
    match insertAlias lower s entityId aliasType reference with
    | .error .valueError => .ok s
    | result => result

/- `sorted([entity_a_id, entity_b_id])`. -/
def sortedPair (entityA entityB : String) : String × String :=
  if entityA ≤ entityB then (entityA, entityB)
  else (entityB, entityA)

/-
  `queue_for_review`, with the `uuid4` it draws. The types of
  the match and its fields are left out.
-/
def queueForReview
    (s : Identity)
    (reviewId entityA entityB : String)
    (confidence : ℚ) : Except IdentityFailure Identity :=
  let pair := sortedPair entityA entityB
  if s.reviews.any (fun review =>
      decide (review.entityAId = pair.1) &&
      decide (review.entityBId = pair.2) &&
      decide (review.status ∈
        [ReviewStatus.pending, .deferred])) then
    .ok s
  else if s.reviews.any (·.reviewId == reviewId) then
    .error .integrityError
  else
    .ok
      { s with
        reviews :=
          s.reviews ++
            [{ reviewId := reviewId
               entityAId := pair.1
               entityBId := pair.2
               matchConfidence := confidence
               status := .pending }] }

/- 4. The loop over the like names; `drawn` counts the ids. -/
def queueMatches
    (around : Surroundings)
    (entityId : String) :
    Nat → List Matching.EntityMatch → Resolution × Identity →
      Except IdentityFailure (Resolution × Identity)
| _, [], result => .ok result
| drawn, item :: rest, (resolution, s) =>
    -- Both ranges, ambiguous and likely, are queued.
    if ambiguousThresholdLow ≤ item.confidence then do
      let s ←
        queueForReview s (around.uuid drawn) entityId
          item.entity.entityId item.confidence
      queueMatches around entityId (drawn + 1) rest
        (.newWithReview, s)
    else
      queueMatches around entityId drawn rest (resolution, s)

/- What `_resolve_or_register` registers. -/
def registrationOf (entityType reference : String) :
    Registration :=
  { entityType := entityType
    canonicalName := reference
    gln := if isNumber 13 reference then some reference else none
    gtin :=
      if isNumber 14 reference then some reference else none
    fdaRegistration := none
    internalId := none }

/- `_resolve_or_register`. -/
def resolveOrRegister
    (around : Surroundings)
    (tenantId : String)
    (s : Identity)
    (reference entityType aliasType : String) :
    Except IdentityFailure (Resolved × Identity) :=
  match exactMatch around.lower s reference
      (searchTypes aliasType reference) with
  | some entity => .ok (⟨entity.entityId, .existing⟩, s)
  | none => do
      let matches' ←
        fuzzyMatches around tenantId s entityType aliasType
          reference
      let newId := around.uuid 0
      let s ←
        registerEntity around.lower s newId
          (registrationOf entityType reference)
      let s ←
        insertCallerAlias around.lower s newId aliasType
          reference
      let (resolution, s) ←
        queueMatches around newId 1 matches' (.new, s)
      .ok (⟨newId, resolution⟩, s)

--------
-- Exact Lookup
--------

variable {lower : String → String} {s s' : Identity}
variable {reference aliasType : String}
variable {entity other : CanonicalEntity}

/- An active entity has the reference under the type. -/
def HeldBy
    (lower : String → String)
    (s : Identity)
    (reference aliasType : String)
    (entity : CanonicalEntity) : Prop :=
  entity ∈ s.entities ∧ entity.isActive = true ∧
    s.aliases.Holds entity.entityId
      ⟨aliasType, normalizeIdentifier lower aliasType reference⟩

/-
  The entity has the reference under the first of the types at
  which an active entity has it.
-/
inductive FirstHolder
    (lower : String → String)
    (s : Identity)
    (reference : String)
    (entity : CanonicalEntity) : List String → Prop where
  | here (aliasType : String) (rest : List String)
      (held : HeldBy lower s reference aliasType entity) :
      FirstHolder lower s reference entity (aliasType :: rest)
  | later (aliasType : String) (rest : List String)
      (none : ∀ other,
        ¬ HeldBy lower s reference aliasType other)
      (later : FirstHolder lower s reference entity rest) :
      FirstHolder lower s reference entity (aliasType :: rest)

/- An alias has one holder. -/
theorem HeldBy.entityId_eq
    (hHeld : HeldBy lower s reference aliasType entity)
    (hOther : HeldBy lower s reference aliasType other) :
    entity.entityId = other.entityId :=
  hHeld.2.2.unique hOther.2.2

variable {types : List String}

theorem FirstHolder.entityId_eq
    (hFirst : FirstHolder lower s reference entity types)
    (hOther : FirstHolder lower s reference other types) :
    entity.entityId = other.entityId := by
  induction hFirst with
  | here aliasType rest held =>
      cases hOther with
      | here _ _ heldOther => exact held.entityId_eq heldOther
      | later _ _ none later => exact absurd held (none _)
  | later aliasType rest none later ih =>
      cases hOther with
      | here _ _ heldOther => exact absurd heldOther (none _)
      | later _ _ none' later' => exact ih later'

theorem FirstHolder.mem
    (hFirst : FirstHolder lower s reference entity types) :
    entity ∈ s.entities ∧ entity.isActive = true := by
  induction hFirst with
  | here aliasType rest held => exact ⟨held.1, held.2.1⟩
  | later aliasType rest none later ih => exact ih

/- What the exact lookup finds under one type. -/
theorem mem_filter_findEntityByAlias
    {key : AliasKey} :
    (entity, key) ∈
        (findEntityByAlias lower s aliasType reference).filter
          (·.1.isActive) ↔
      key =
          ⟨aliasType,
            normalizeIdentifier lower aliasType reference⟩ ∧
        HeldBy lower s reference aliasType entity := by
  rw [List.mem_filter, mem_findEntityByAlias]
  constructor
  · rintro ⟨⟨rfl, hMem, hActive, hHolds⟩, -⟩
    exact ⟨rfl, hMem, hActive, hHolds⟩
  · rintro ⟨rfl, hMem, hActive, hHolds⟩
    exact ⟨⟨rfl, hMem, hActive, hHolds⟩, hActive⟩

/- The lookup finds a first holder, or there is none. -/
theorem exactMatch_cases
    (lower : String → String)
    (s : Identity)
    (reference : String)
    (types : List String) :
    (∃ entity,
      exactMatch lower s reference types = some entity ∧
        FirstHolder lower s reference entity types) ∨
      exactMatch lower s reference types = none ∧
        ∀ entity,
          ¬ FirstHolder lower s reference entity types := by
  induction types with
  | nil => exact .inr ⟨rfl, fun entity hFirst => by cases hFirst⟩
  | cons aliasType rest ih =>
      rw [exactMatch]
      cases hFound :
          (findEntityByAlias lower s aliasType reference).filter
            (·.1.isActive) with
      | nil =>
          have hNone :
              ∀ other,
                ¬ HeldBy lower s reference aliasType other := by
            intro other hHeld
            have hMem :=
              mem_filter_findEntityByAlias.mpr ⟨rfl, hHeld⟩
            rw [hFound] at hMem
            cases hMem
          rcases ih with ⟨entity, hMatch, hFirst⟩ |
            ⟨hMatch, hNot⟩
          · exact .inl ⟨entity, hMatch, .later _ _ hNone hFirst⟩
          · refine .inr ⟨hMatch, fun entity hFirst => ?_⟩
            cases hFirst with
            | here _ _ held => exact hNone _ held
            | later _ _ _ later => exact hNot _ later
      | cons found others =>
          have hHeld :=
            mem_filter_findEntityByAlias.mp
              (hFound ▸ List.mem_cons_self :
                (found.1, found.2) ∈ _)
          exact .inl ⟨found.1, rfl, .here _ _ hHeld.2⟩

theorem exactMatch_eq_some
    (hFirst : FirstHolder lower s reference entity types) :
    ∃ found, exactMatch lower s reference types = some found ∧
      found.entityId = entity.entityId := by
  rcases exactMatch_cases lower s reference types with
    ⟨found, hMatch, hFound⟩ | ⟨-, hNone⟩
  · exact ⟨found, hMatch, hFound.entityId_eq hFirst⟩
  · exact absurd hFirst (hNone entity)

/- A match gives the lookup's first holder its id. -/
theorem resolveOrRegister_of_firstHolder
    (around : Surroundings)
    (tenantId entityType : String)
    (hFirst :
      FirstHolder around.lower s reference entity
        (searchTypes aliasType reference)) :
    ∃ result,
      resolveOrRegister around tenantId s reference entityType
          aliasType = .ok result ∧
        result.1.entityId = entity.entityId := by
  rcases exactMatch_eq_some hFirst with ⟨found, hMatch, hId⟩
  unfold resolveOrRegister
  rw [hMatch]
  exact ⟨_, rfl, hId⟩

--------
-- New Entities
--------

/- The entity has the alias that was inserted for it. -/
theorem holds_insertAlias
    {entityId aliasValue : String}
    (hInsert :
      insertAlias lower s entityId aliasType aliasValue =
        .ok s') :
    s'.aliases.Holds entityId
      ⟨aliasType,
        normalizeIdentifier lower aliasType aliasValue⟩ := by
  unfold insertAlias at hInsert
  dsimp only at hInsert
  split at hInsert
  · cases hInsert
  · split at hInsert
    · rename_i hHolds
      cases hInsert
      exact hHolds
    · split at hInsert
      · cases hInsert
      · rename_i hNew
        cases hInsert
        exact (Owners.holds_add hNew).mpr (.inr ⟨rfl, rfl⟩)

/- `_insert_alias` raises no `ValueError`. -/
theorem insertAlias_ne_valueError
    (lower : String → String)
    (s : Identity)
    (entityId aliasType aliasValue : String) :
    insertAlias lower s entityId aliasType aliasValue ≠
      .error .valueError := by
  unfold insertAlias
  dsimp only
  intro hError
  split at hError
  · cases hError
  · split at hError
    · cases hError
    · split at hError <;> cases hError

/- The entity has the alias of the caller, or it is a name. -/
theorem insertCallerAlias_spec
    {entityId : String}
    (hInsert :
      insertCallerAlias lower s entityId aliasType reference =
        .ok s') :
    s'.entities = s.entities ∧
      (aliasType = "name" ∧ s'.aliases = s.aliases ∨
        s'.aliases.Holds entityId
          ⟨aliasType,
            normalizeIdentifier lower aliasType reference⟩) := by
  unfold insertCallerAlias at hInsert
  split at hInsert
  · rename_i hName
    cases hInsert
    exact ⟨rfl, .inl ⟨hName, rfl⟩⟩
  · split at hInsert
    · rename_i hError
      exact absurd hError (insertAlias_ne_valueError _ _ _ _ _)
    · exact ⟨(insertAlias_spec hInsert).entities,
        .inr (holds_insertAlias hInsert)⟩

/- The entity that is registered, with its name. -/
theorem registerEntity_new
    {entityId : String}
    {registration : Registration}
    (hRegister :
      registerEntity lower s entityId registration = .ok s') :
    ∃ entity,
      entity.entityId = entityId ∧ entity.isActive = true ∧
        entity.entityType = registration.entityType ∧
        s'.entities = s.entities ++ [entity] ∧
        s'.aliases.Holds entityId
          ⟨"name",
            normalizeIdentifier lower "name"
              registration.canonicalName⟩ := by
  unfold registerEntity at hRegister
  dsimp only at hRegister
  split at hRegister
  · cases hRegister
  · split at hRegister
    · cases hRegister
    · rcases Outcome.bind_eq_ok.mp hRegister with
        ⟨named, hName, hIdentifiers⟩
      have hAdds := foldlM_insertIdentifier_spec hIdentifiers
      refine ⟨_, rfl, rfl, rfl,
        hAdds.entities.trans (insertAlias_spec hName).entities,
        hAdds.kept _ _ (holds_insertAlias hName)⟩

/- Reviews are queued beside the entities and their aliases. -/
theorem queueForReview_frame
    {reviewId entityA entityB : String}
    {confidence : ℚ}
    (hQueue :
      queueForReview s reviewId entityA entityB confidence =
        .ok s') :
    s'.entities = s.entities ∧ s'.aliases = s.aliases := by
  unfold queueForReview at hQueue
  dsimp only at hQueue
  split at hQueue
  · cases hQueue
    exact ⟨rfl, rfl⟩
  · split at hQueue
    · cases hQueue
    · cases hQueue
      exact ⟨rfl, rfl⟩

variable {around : Surroundings}

theorem queueMatches_frame
    {entityId : String}
    {drawn : Nat}
    {items : List Matching.EntityMatch}
    {before after : Resolution × Identity}
    (hQueue :
      queueMatches around entityId drawn items before =
        .ok after) :
    after.2.entities = before.2.entities ∧
      after.2.aliases = before.2.aliases := by
  induction items generalizing drawn before with
  | nil =>
      cases hQueue
      exact ⟨rfl, rfl⟩
  | cons item rest ih =>
      rcases before with ⟨resolution, s⟩
      rw [queueMatches] at hQueue
      split at hQueue
      · rcases Outcome.bind_eq_ok.mp hQueue with
          ⟨next, hNext, hRest⟩
        rcases ih hRest with ⟨hEntities, hAliases⟩
        rcases queueForReview_frame hNext with
          ⟨hEntitiesNext, hAliasesNext⟩
        exact ⟨hEntities.trans hEntitiesNext,
          hAliases.trans hAliasesNext⟩
      · exact ih hQueue

/-
  A reference resolves to the first holder, and nothing is
  written; or there is none, and a new entity of the requested
  type becomes the holder.
-/
theorem resolveOrRegister_spec
    {tenantId entityType : String}
    {resolved : Resolved}
    (hResolve :
      resolveOrRegister around tenantId s reference entityType
        aliasType = .ok (resolved, s')) :
    (∃ entity,
      FirstHolder around.lower s reference entity
          (searchTypes aliasType reference) ∧
        resolved.entityId = entity.entityId ∧ s' = s) ∨
      (∀ entity,
        ¬ FirstHolder around.lower s reference entity
          (searchTypes aliasType reference)) ∧
        ∃ entity,
          FirstHolder around.lower s' reference entity
              (searchTypes aliasType reference) ∧
            resolved.entityId = entity.entityId ∧
            entity.entityType = entityType := by
  unfold resolveOrRegister at hResolve
  rcases exactMatch_cases around.lower s reference
      (searchTypes aliasType reference) with
    ⟨entity, hMatch, hFirst⟩ | ⟨hMatch, hNone⟩
  · rw [hMatch] at hResolve
    cases hResolve
    exact .inl ⟨entity, hFirst, rfl, rfl⟩
  · refine .inr ⟨hNone, ?_⟩
    rw [hMatch] at hResolve
    rcases Outcome.bind_eq_ok.mp hResolve with
      ⟨items, -, hRegister⟩
    rcases Outcome.bind_eq_ok.mp hRegister with
      ⟨named, hNamed, hInsert⟩
    rcases Outcome.bind_eq_ok.mp hInsert with
      ⟨aliased, hAliased, hQueue⟩
    rcases Outcome.bind_eq_ok.mp hQueue with
      ⟨queued, hQueued, hReturn⟩
    cases hReturn
    rcases registerEntity_new hNamed with
      ⟨entity, hId, hActive, hType, hEntities, hName⟩
    rcases queueMatches_frame hQueued with
      ⟨hQueuedEntities, hQueuedAliases⟩
    -- The alias of the caller, or the name, is the first type.
    rcases insertCallerAlias_spec hAliased with
      ⟨hAliasedEntities, hHolds⟩
    have hHeld :
        aliased.aliases.Holds entity.entityId
          ⟨aliasType,
            normalizeIdentifier around.lower aliasType
              reference⟩ := by
      rw [hId]
      rcases hHolds with ⟨rfl, hSame⟩ | hHolds
      · rw [hSame]
        exact hName
      · exact hHolds
    refine ⟨entity, .here _ _ ⟨?_, hActive, ?_⟩, hId.symm, hType⟩
    · rw [hQueuedEntities, hAliasedEntities, hEntities]
      simp
    · rw [hQueuedAliases]
      exact hHeld

--------
-- Types
--------

/-
  The id is that of an active entity of the type, and the
  reference resolves to it again, whatever is drawn then.
-/
structure ResolvedAs
    (around : Surroundings)
    (tenantId : String)
    (s : Identity)
    (reference entityType aliasType entityId : String) :
    Prop where
  typed :
    ∃ entity ∈ s.entities,
      entity.entityId = entityId ∧ entity.isActive = true ∧
        entity.entityType = entityType
  again :
    ∀ later : Surroundings, later.lower = around.lower →
      ∃ result,
        resolveOrRegister later tenantId s reference entityType
            aliasType = .ok result ∧
          result.1.entityId = entityId

/-
  A reference resolves to an entity of the requested type when
  its first holder is of the type, or there is none. No two
  entities share the primary key.
-/
theorem resolvedAs_iff
    {around : Surroundings}
    {tenantId entityType : String}
    {resolved : Resolved}
    (hKey : (s.entities.map (·.entityId)).Nodup)
    (hResolve :
      resolveOrRegister around tenantId s reference entityType
        aliasType = .ok (resolved, s')) :
    ResolvedAs around tenantId s' reference entityType aliasType
        resolved.entityId ↔
      ∀ entity,
        FirstHolder around.lower s reference entity
            (searchTypes aliasType reference) →
          entity.entityType = entityType := by
  rcases resolveOrRegister_spec hResolve with
    ⟨holder, hFirst, hId, rfl⟩ |
      ⟨hNone, holder, hFirst, hId, hType⟩
  · rw [hId]
    constructor
    · rintro ⟨⟨typed, hMem, hTyped, -, hType⟩, -⟩ other hOther
      have hSame : other = typed :=
        List.inj_on_of_nodup_map hKey hOther.mem.1 hMem
          ((hOther.entityId_eq hFirst).trans hTyped.symm)
      rw [hSame]
      exact hType
    · intro hTyped
      refine ⟨⟨holder, hFirst.mem.1, rfl, hFirst.mem.2,
        hTyped holder hFirst⟩, fun later hLower => ?_⟩
      rw [← hLower] at hFirst
      exact resolveOrRegister_of_firstHolder later tenantId
        entityType hFirst
  · rw [hId]
    refine iff_of_true ?_ (fun other hOther =>
      absurd hOther (hNone other))
    refine ⟨⟨holder, hFirst.mem.1, rfl, hFirst.mem.2, hType⟩,
      fun later hLower => ?_⟩
    rw [← hLower] at hFirst
    exact resolveOrRegister_of_firstHolder later tenantId
      entityType hFirst

def acmeFirm : Identity :=
  { entities :=
      [{ entityId := "f"
         entityType := "firm"
         canonicalName := "Acme Farm"
         gln := none
         gtin := none
         fdaRegistration := none
         internalId := none
         isActive := true }]
    aliases :=
      { rows := [("f", ⟨"name", "Acme Farm"⟩)]
        unique := by simp }
    history := []
    reviews := [] }

def withoutTrigrams : Surroundings :=
  { lower := Python.lower
    order := ⟨fun rows => rows, fun _ => .refl _⟩
    locale := ⟨Python.lower, Char.isAlphanum⟩
    hasTrigrams := false
    verificationStatus := fun _ => "unverified"
    entityConfidence := fun _ => none
    uuid := Nat.repr }

/- Its name resolves to the firm, of whatever type it is. -/
theorem resolve_acmeFirm (entityType : String) :
    resolveOrRegister withoutTrigrams "t" acmeFirm "Acme Farm"
        entityType "name" =
      .ok (⟨"f", .existing⟩, acmeFirm) := by
  rfl

/- The name of a firm resolves as a firm. -/
theorem resolvedAs_acmeFirm :
    (acmeFirm.entities.map (·.entityId)).Nodup ∧
      resolveOrRegister withoutTrigrams "t" acmeFirm
          "Acme Farm" "firm" "name" =
        .ok (⟨"f", .existing⟩, acmeFirm) ∧
      ResolvedAs withoutTrigrams "t" acmeFirm "Acme Farm" "firm"
        "name" "f" := by
  have hKey : (acmeFirm.entities.map (·.entityId)).Nodup := by
    simp [acmeFirm]
  refine ⟨hKey, resolve_acmeFirm "firm", ?_⟩
  refine (resolvedAs_iff hKey (resolve_acmeFirm "firm")).mpr ?_
  intro entity hFirst
  cases List.mem_singleton.mp hFirst.mem.1
  rfl

/- The name of a firm resolves as a facility: to the firm. -/
theorem not_resolvedAs_acmeFirm :
    resolveOrRegister withoutTrigrams "t" acmeFirm "Acme Farm"
        "facility" "name" =
      .ok (⟨"f", .existing⟩, acmeFirm) ∧
    ¬ ResolvedAs withoutTrigrams "t" acmeFirm "Acme Farm"
        "facility" "name" "f" := by
  refine ⟨resolve_acmeFirm "facility", ?_⟩
  rintro ⟨⟨entity, hMem, -, -, hType⟩, -⟩
  cases List.mem_singleton.mp hMem
  exact absurd hType (by decide)

end Identity

end RegEngine
