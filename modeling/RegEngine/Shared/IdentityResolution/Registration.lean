import RegEngine.Library.Outcome
import RegEngine.Library.Owners
import RegEngine.Library.Python

/-
  Entities of a tenant and their aliases
  (`services/shared/identity_resolution/registration.py`,
  `matching.py` and `normalization.py`).

  The tables hold the rows of one tenant: every statement is
  filtered by it. `lower` stands for `str.lower`.

  Main declarations:
    * `Identity`
    * `Identity.registerEntity`
    * `Identity.findEntityByAlias`
-/

--------
-- Tables
--------

namespace RegEngine

/- `fsma.canonical_entities`, as far as it is read. -/
structure CanonicalEntity where
  entityId : String
  entityType : String
  canonicalName : String
  gln : Option String
  gtin : Option String
  fdaRegistration : Option String
  internalId : Option String
  isActive : Bool
  deriving DecidableEq, Repr

/- An alias: its type and its value. -/
structure AliasKey where
  aliasType : String
  aliasValue : String
  deriving DecidableEq, Repr

/- The actions of `fsma.entity_merge_history`. -/
inductive MergeAction where
  | merge
  | split
  deriving DecidableEq, Repr

/-
  `fsma.entity_merge_history`. The snapshot maps entity ids
  to aliases; merges of older versions have none.
-/
structure MergeRecord where
  mergeId : String
  action : MergeAction
  sourceEntityIds : List String
  targetEntityId : String
  isReversed : Bool
  aliasSnapshot : Option (List (String × List AliasKey))
  deriving DecidableEq, Repr

/- The statuses of `fsma.identity_review_queue`. -/
inductive ReviewStatus where
  | pending
  | confirmedMatch
  | confirmedDistinct
  | deferred
  deriving DecidableEq, Repr

/- `fsma.identity_review_queue`, as far as it is read. -/
structure IdentityReview where
  reviewId : String
  entityAId : String
  entityBId : String
  matchConfidence : Rat
  status : ReviewStatus
  deriving DecidableEq, Repr

/-
  The identity tables of a tenant. No two rows of
  `fsma.entity_aliases` share a type and a value
  (`uniq_entity_aliases_tenant_type_value`).
-/
structure Identity where
  entities : List CanonicalEntity
  aliases : Owners String AliasKey
  history : List MergeRecord
  reviews : List IdentityReview

/- How an operation fails: it raises, or a constraint does. -/
inductive IdentityFailure where
  | valueError
  | integrityError
  deriving DecidableEq, Repr

namespace Identity

def empty : Identity :=
  { entities := []
    aliases := Owners.empty
    history := []
    reviews := [] }

/- An entity of the tenant that is active. -/
def Active (s : Identity) (entityId : String) : Prop :=
  ∃ entity ∈ s.entities,
    entity.entityId = entityId ∧ entity.isActive = true

instance (s : Identity) (entityId : String) :
    Decidable (s.Active entityId) := by
  unfold Active
  infer_instance

/- An entity of the tenant, active or not. -/
def Exists (s : Identity) (entityId : String) : Prop :=
  ∃ entity ∈ s.entities, entity.entityId = entityId

instance (s : Identity) (entityId : String) :
    Decidable (s.Exists entityId) := by
  unfold Exists
  infer_instance

theorem Active.exists
    {s : Identity}
    {entityId : String}
    (hActive : s.Active entityId) :
    s.Exists entityId := by
  rcases hActive with ⟨entity, hMem, hId, -⟩
  exact ⟨entity, hMem, hId⟩

end Identity

--------
-- Normalization
--------

variable (lower : String → String)

/- `_STRUCTURED_IDENTIFIER_ALIAS_TYPES`. -/
def structuredIdentifierAliasTypes : List String :=
  ["gln", "gtin", "fda_registration", "internal_code", "duns"]

/- `_normalize_identifier`. -/
def normalizeIdentifier (kind value : String) : String :=
  if kind ∈ structuredIdentifierAliasTypes then
    let normalized := Python.strip value
    if "urn:".toList.isPrefixOf (lower normalized).toList then
      lower normalized
    else
      normalized
  else
    value

end RegEngine

--------
-- Registration
--------

namespace RegEngine

/- `VALID_ENTITY_TYPES`. -/
def validEntityTypes : List String :=
  ["firm", "facility", "product", "lot",
    "trading_relationship"]

/- `VALID_ALIAS_TYPES`. -/
def validAliasTypes : List String :=
  ["name", "gln", "gtin", "fda_registration",
    "internal_code", "duns", "tlc", "tlc_prefix",
    "address_variant", "abbreviation", "trade_name"]

/- The check on `alias_type` in the schema. -/
def aliasTypeCheck : List String :=
  ["name", "gln", "gtin", "fda_registration",
    "internal_code", "duns", "tlc_prefix",
    "address_variant", "abbreviation", "trade_name"]

/- What `register_entity` is given, as far as it is read. -/
structure Registration where
  entityType : String
  canonicalName : String
  gln : Option String
  gtin : Option String
  fdaRegistration : Option String
  internalId : Option String
  deriving DecidableEq, Repr

namespace Identity

section

variable (lower : String → String)

/- `_require_entity`. -/
def requireEntity
    (s : Identity)
    (entityId : String) : Except IdentityFailure Unit :=
  if s.Exists entityId then .ok ()
  else .error .valueError

/-
  `_insert_alias`. The insert is skipped if the entity has
  the alias, and fails if another entity has it.
-/
def insertAlias
    (s : Identity)
    (entityId aliasType aliasValue : String) :
    Except IdentityFailure Identity :=
  let key : AliasKey :=
    ⟨aliasType, normalizeIdentifier lower aliasType aliasValue⟩
  if aliasType ∉ aliasTypeCheck then
    .error .integrityError
  else if s.aliases.Holds entityId key then
    .ok s
  else if hTaken : key ∈ s.aliases.keys then
    .error .integrityError
  else
    .ok
      { s with aliases := s.aliases.add entityId key hTaken }

/- The loop of `register_entity` over the identifiers. -/
def insertIdentifier
    (entityId : String)
    (s : Identity)
    (identifier : String × Option String) :
    Except IdentityFailure Identity :=
  match identifier.2 with
  | none => .ok s
  | some value =>
      if value = "" then .ok s
      else insertAlias lower s entityId identifier.1 value

/- `register_entity`, with the `uuid4` it draws. -/
def registerEntity
    (s : Identity)
    (entityId : String)
    (registration : Registration) :
    Except IdentityFailure Identity :=
  if registration.entityType ∉ validEntityTypes then
    .error .valueError
  else
    let gln :=
      registration.gln.map (normalizeIdentifier lower "gln")
    let gtin :=
      registration.gtin.map (normalizeIdentifier lower "gtin")
    let fdaRegistration :=
      registration.fdaRegistration.map
        (normalizeIdentifier lower "fda_registration")
    let internalId :=
      registration.internalId.map
        (normalizeIdentifier lower "internal_code")
    if s.Exists entityId then
      .error .integrityError
    else do
      let entity : CanonicalEntity :=
        { entityId := entityId
          entityType := registration.entityType
          canonicalName := registration.canonicalName
          gln := gln
          gtin := gtin
          fdaRegistration := fdaRegistration
          internalId := internalId
          isActive := true }
      let s ←
        insertAlias lower
          { s with entities := s.entities ++ [entity] }
          entityId "name" registration.canonicalName
      [("gln", gln), ("gtin", gtin),
        ("fda_registration", fdaRegistration),
        ("internal_code", internalId)].foldlM
          (insertIdentifier lower entityId) s

/- `add_alias`. -/
def addAlias
    (s : Identity)
    (entityId aliasType aliasValue : String) :
    Except IdentityFailure Identity :=
  if aliasType ∉ validAliasTypes then
    .error .valueError
  else do
    let aliasValue :=
      normalizeIdentifier lower aliasType aliasValue
    requireEntity s entityId
    insertAlias lower s entityId aliasType aliasValue

/-
  `find_entity_by_alias`: the active entities that have the
  alias.
-/
def findEntityByAlias
    (s : Identity)
    (aliasType aliasValue : String) :
    List (CanonicalEntity × AliasKey) :=
  let lookup : AliasKey :=
    ⟨aliasType, normalizeIdentifier lower aliasType aliasValue⟩
  (s.aliases.rows.filter (fun row => row.2 = lookup)).flatMap
    (fun row =>
      (s.entities.filter (fun entity =>
        entity.entityId = row.1 && entity.isActive)).map
          (fun entity => (entity, row.2)))

end

--------
-- What Registration Adds
--------

variable {lower : String → String}

/-
  A state that is another one with more aliases of one
  entity.
-/
structure Adds (s s' : Identity) (entityId : String) : Prop where
  entities : s'.entities = s.entities
  history : s'.history = s.history
  reviews : s'.reviews = s.reviews
  kept :
    ∀ owner key, s.aliases.Holds owner key →
      s'.aliases.Holds owner key
  added :
    ∀ owner key, s'.aliases.Holds owner key →
      s.aliases.Holds owner key ∨ owner = entityId

/- Nothing is added. -/
theorem Adds.refl
    (s : Identity)
    (entityId : String) :
    Adds s s entityId :=
  ⟨rfl, rfl, rfl, fun _ _ hHolds => hHolds,
    fun _ _ hHolds => Or.inl hHolds⟩

/- Aliases are added in turn. -/
theorem Adds.trans
    {s₁ s₂ s₃ : Identity}
    {entityId : String}
    (hFirst : Adds s₁ s₂ entityId)
    (hSecond : Adds s₂ s₃ entityId) :
    Adds s₁ s₃ entityId := by
  refine ⟨hSecond.entities.trans hFirst.entities,
    hSecond.history.trans hFirst.history,
    hSecond.reviews.trans hFirst.reviews, ?_, ?_⟩
  · intro owner key hHolds
    exact hSecond.kept owner key (hFirst.kept owner key hHolds)
  · intro owner key hHolds
    rcases hSecond.added owner key hHolds with hHolds | hOwner
    · exact hFirst.added owner key hHolds
    · exact Or.inr hOwner

variable {s s' : Identity}

theorem insertAlias_spec
    {entityId aliasType aliasValue : String}
    (hInsert :
      insertAlias lower s entityId aliasType aliasValue =
        .ok s') :
    Adds s s' entityId := by
  unfold insertAlias at hInsert
  dsimp only at hInsert
  split at hInsert
  · cases hInsert
  · split at hInsert
    · rw [Except.ok.injEq] at hInsert
      rw [← hInsert]
      exact Adds.refl s entityId
    · split at hInsert
      · cases hInsert
      · rename_i hNew
        rw [Except.ok.injEq] at hInsert
        rw [← hInsert]
        refine ⟨rfl, rfl, rfl, ?_, ?_⟩
        · intro owner key hHolds
          exact (Owners.holds_add hNew).mpr (Or.inl hHolds)
        · intro owner key hHolds
          rcases (Owners.holds_add hNew).mp hHolds with
            hHolds | ⟨hOwner, -⟩
          · exact Or.inl hHolds
          · exact Or.inr hOwner

/- The identifiers add aliases of their entity. -/
theorem foldlM_insertIdentifier_spec
    {entityId : String}
    {identifiers : List (String × Option String)}
    (hFold :
      identifiers.foldlM (insertIdentifier lower entityId) s =
        .ok s') :
    Adds s s' entityId := by
  induction identifiers generalizing s with
  | nil =>
      rw [List.foldlM_nil] at hFold
      rw [← Outcome.pure_eq_ok.mp hFold]
      exact Adds.refl s entityId
  | cons identifier rest ih =>
      rcases Outcome.foldlM_cons_eq_ok.mp hFold with
        ⟨next, hNext, hRest⟩
      apply Adds.trans _ (ih hRest)
      unfold insertIdentifier at hNext
      split at hNext
      · rw [Except.ok.injEq] at hNext
        rw [← hNext]
        exact Adds.refl s entityId
      · split at hNext
        · rw [Except.ok.injEq] at hNext
          rw [← hNext]
          exact Adds.refl s entityId
        · exact insertAlias_spec hNext

/- A new entity is active, and the new aliases are its own. -/
theorem registerEntity_spec
    {s s' : Identity}
    {entityId : String}
    {registration : Registration}
    (hRegister :
      registerEntity lower s entityId registration = .ok s') :
    ¬ s.Exists entityId ∧
      ∃ entity,
        entity.entityId = entityId ∧ entity.isActive = true ∧
          Adds { s with entities := s.entities ++ [entity] } s'
            entityId := by
  unfold registerEntity at hRegister
  dsimp only at hRegister
  split at hRegister
  · cases hRegister
  · split at hRegister
    · cases hRegister
    · rename_i hNew
      rcases Outcome.bind_eq_ok.mp hRegister with
        ⟨named, hName, hIdentifiers⟩
      exact ⟨hNew, _, rfl, rfl,
        (insertAlias_spec hName).trans
          (foldlM_insertIdentifier_spec hIdentifiers)⟩

/- An added alias is one of an entity there is. -/
theorem addAlias_spec
    {entityId aliasType aliasValue : String}
    (hAdd :
      addAlias lower s entityId aliasType aliasValue =
        .ok s') :
    s.Exists entityId ∧ Adds s s' entityId := by
  unfold addAlias at hAdd
  split at hAdd
  · cases hAdd
  · rcases Outcome.bind_eq_ok.mp hAdd with
      ⟨u, hRequire, hInsert⟩
    unfold requireEntity at hRequire
    split at hRequire
    · rename_i hExists
      exact ⟨hExists, insertAlias_spec hInsert⟩
    · cases hRequire

/-
  The entities found by an alias are those that have it and
  are active.
-/
theorem mem_findEntityByAlias
    {s : Identity}
    {aliasType aliasValue : String}
    {entity : CanonicalEntity}
    {key : AliasKey} :
    (entity, key) ∈
        s.findEntityByAlias lower aliasType aliasValue ↔
      key =
          ⟨aliasType,
            normalizeIdentifier lower aliasType aliasValue⟩ ∧
        entity ∈ s.entities ∧ entity.isActive = true ∧
        s.aliases.Holds entity.entityId key := by
  simp only [findEntityByAlias, List.mem_flatMap,
    List.mem_filter, List.mem_map, decide_eq_true_eq,
    Bool.and_eq_true, Prod.mk.injEq, Prod.exists,
    Owners.Holds]
  constructor
  · rintro ⟨owner, key', ⟨hRow, hKey⟩, found,
      ⟨hEntity, hOwner, hActive⟩, rfl, rfl⟩
    rw [hOwner]
    exact ⟨hKey, hEntity, hActive, hRow⟩
  · rintro ⟨hKey, hEntity, hActive, hRow⟩
    exact ⟨entity.entityId, key, ⟨hRow, hKey⟩, entity,
      ⟨hEntity, rfl, hActive⟩, rfl, rfl⟩

end Identity

end RegEngine
