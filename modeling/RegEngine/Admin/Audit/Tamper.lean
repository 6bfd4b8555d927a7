import RegEngine.Admin.Audit.Export
import RegEngine.Library.HashChain

/-
  Two lists of current entries that the verifier accepts
  behind one predecessor, and that end in one hash, hold the
  same hashed fields.

  Main declarations:
    * `Audit.HashedFields`
    * `Audit.firstPredecessor`
    * `Audit.hashedFields_eq_of_lastHash_eq`
-/

--------
-- What a Hash Covers
--------

namespace RegEngine

namespace Audit

section

/- The fields that the integrity hash of an entry covers. -/
structure HashedFields where
  tenantId : String
  prevHash : String
  timestamp : String
  eventType : String
  action : String
  resourceId : Option String
  metadata : Json
  actorId : Option String
  actorEmail : Option String
  severity : String
  endpoint : Option String
  sequenceNum : Nat

/- The hash of the entry before, or the word for none. -/
def CanonicalEntry.prevOrGenesis
    (entry : CanonicalEntry) : String :=
  (orNone entry.prevHash).getD "GENESIS"

/- The fields of an entry; metadata whatever their order. -/
def CanonicalEntry.hashedFields
    (entry : CanonicalEntry) : HashedFields where
  tenantId := entry.tenantId
  prevHash := entry.prevOrGenesis
  timestamp := entry.timestamp
  eventType := entry.eventType
  action := entry.action
  resourceId := entry.resourceId
  metadata := (Json.obj entry.metadata).sortKeys
  actorId := entry.actorId
  actorEmail := entry.actorEmail
  severity := entry.severity
  endpoint := entry.endpoint
  sequenceNum := entry.sequenceNum

/- An entry hashed under the current version. -/
def IsCurrent (env : AuditEnv) (entry : CanonicalEntry) : Prop :=
  entry.hash = entry.recomputed env 3

/-
  What the chain of some entries starts behind: the hash of
  the row before and the number after it, from the row itself
  or from what the first entry says.
-/
def firstPredecessor
    (predecessor : Option CanonicalEntry)
    (entries : List CanonicalEntry) :
    Option (String × Nat) :=
  match predecessor with
  | some row => some (row.hash, row.sequenceNum + 1)
  | none =>
      entries.head?.bind (fun first =>
        (orNone first.prevHash).map (fun hash =>
          (hash, first.sequenceNum)))

--------
-- Accepted Chains
--------

variable {env : AuditEnv}

/- An optional text is told by how it is written. -/
theorem nullable_inj
    {x y : Option String}
    (hEq : nullable x = nullable y) :
    x = y := by
  cases x with
  | none =>
    cases y with
    | none => rfl
    | some text => cases hEq
  | some text =>
    cases y with
    | none => cases hEq
    | some text' =>
      exact congrArg some (Json.str.inj hEq)

/- The hash of a current entry tells its fields. -/
theorem hashedFields_eq_of_hash_eq
    (hHash : Function.Injective env.sha256Hex)
    {entry entry' : CanonicalEntry}
    (hCurrent : IsCurrent env entry)
    (hCurrent' : IsCurrent env entry')
    (hEq : entry.hash = entry'.hash) :
    entry.hashedFields = entry'.hashedFields := by
  rw [hCurrent, hCurrent'] at hEq
  have hText := congrArg String.toList (hHash hEq)
  simp only [Json.dumpsUnsorted, String.toList_ofList] at hText
  have hBody :=
    Json.obj.inj (Json.dump_inj Json.spaced_valid hText)
  simp only [HashInput.body, CanonicalEntry.hashInput,
    Nat.reduceLeDiff, if_true, List.cons_append,
    List.nil_append, List.cons.injEq, Prod.mk.injEq, true_and,
    and_true, Json.str.injEq, Json.scalar.injEq,
    Json.Scalar.int.injEq, Int.natCast_inj] at hBody
  rcases hBody with
    ⟨hAction, hEmail, hActor, hEndpoint, hType, hMeta, hPrev,
      hResource, hSeq, hSeverity, hTenant, hTime⟩
  simp only [CanonicalEntry.hashedFields,
    CanonicalEntry.prevOrGenesis, HashedFields.mk.injEq]
  exact ⟨hTenant, hPrev, hTime, hType, hAction,
    nullable_inj hResource, hMeta, nullable_inj hActor,
    nullable_inj hEmail, hSeverity, nullable_inj hEndpoint,
    hSeq⟩

/- A current entry that follows a current one. -/
def Follows
    (env : AuditEnv)
    (entry next : CanonicalEntry) : Prop :=
  IsCurrent env entry ∧ IsCurrent env next ∧
    next.prevHash = some entry.hash ∧
      next.sequenceNum = entry.sequenceNum + 1

/- Clean entries follow each other. -/
theorem Clean.isChain
    {before : Option (Option String × Nat)}
    {entries : List CanonicalEntry}
    (hClean : Clean env before entries)
    (hCurrent : ∀ entry ∈ entries, IsCurrent env entry) :
    entries.IsChain (Follows env) := by
  induction entries generalizing before with
  | nil => exact List.isChain_nil
  | cons entry rest ih =>
    rcases hClean with ⟨-, -, hRest⟩
    have hTail := ih hRest (fun next hMem =>
      hCurrent next (List.mem_cons_of_mem entry hMem))
    rw [List.isChain_cons]
    refine ⟨?_, hTail⟩
    intro next hNext
    cases rest with
    | nil => cases hNext
    | cons second later =>
      rw [List.head?_cons, Option.mem_some_iff] at hNext
      subst hNext
      have hLink := hRest.1 _ rfl
      exact ⟨hCurrent entry (by simp),
        hCurrent second (by simp), hLink.1, hLink.2⟩

/- The numbers of a chain go up by one. -/
theorem sequenceNum_getLast
    {first last : CanonicalEntry}
    {rest : List CanonicalEntry}
    (hChain : (first :: rest).IsChain (Follows env))
    (hLast : (first :: rest).getLast? = some last) :
    last.sequenceNum = first.sequenceNum + rest.length := by
  induction rest generalizing first with
  | nil =>
    rw [List.getLast?_singleton, Option.some.injEq] at hLast
    rw [hLast, List.length_nil, Nat.add_zero]
  | cons second later ih =>
    rw [List.getLast?_cons_cons] at hLast
    rcases List.isChain_cons_cons.mp hChain with
      ⟨hNext, hLater⟩
    have hNum := ih hLater hLast
    rw [hNum, hNext.2.2.2, List.length_cons]
    omega

--------
-- Chains with One Last Hash
--------

/- No digest is empty or the word for the start of a chain. -/
def DigestsAreNoGenesis (env : AuditEnv) : Prop :=
  ∀ text, env.sha256Hex text ≠ "" ∧
    env.sha256Hex text ≠ "GENESIS"

variable {entry next : CanonicalEntry}

/- Behind a current entry stands its hash. -/
theorem Follows.prevOrGenesis
    (hGenesis : DigestsAreNoGenesis env)
    (hFollows : Follows env entry next) :
    next.prevOrGenesis = entry.hash := by
  have hNe : entry.hash ≠ "" := by
    rw [hFollows.1]
    exact (hGenesis _).1
  rw [CanonicalEntry.prevOrGenesis, hFollows.2.2.1, orNone,
    Option.filter_some, if_pos (by simpa using hNe),
    Option.getD_some]

/- No current entry has the word for a hash. -/
theorem Follows.prevOrGenesis_ne
    (hGenesis : DigestsAreNoGenesis env)
    (hFollows : Follows env entry next) :
    next.prevOrGenesis ≠ "GENESIS" := by
  rw [hFollows.prevOrGenesis hGenesis, hFollows.1]
  exact (hGenesis _).2

/- Equal hashes stand behind equal hashes. -/
theorem Follows.hash_eq
    (hHash : Function.Injective env.sha256Hex)
    (hGenesis : DigestsAreNoGenesis env)
    {x x' y y' : CanonicalEntry}
    (hFollows : Follows env x y)
    (hFollows' : Follows env x' y')
    (hEq : y.hash = y'.hash) :
    x.hash = x'.hash := by
  have hFields :=
    hashedFields_eq_of_hash_eq hHash hFollows.2.1
      hFollows'.2.1 hEq
  calc
    x.hash = y.prevOrGenesis :=
      (hFollows.prevOrGenesis hGenesis).symm
    _ = y'.prevOrGenesis :=
      congrArg HashedFields.prevHash hFields
    _ = x'.hash := hFollows'.prevOrGenesis hGenesis

/- Entries with equal hashes have equal fields. -/
theorem map_hashedFields_eq
    (hHash : Function.Injective env.sha256Hex)
    {entries entries' : List CanonicalEntry}
    (hCurrent : ∀ entry ∈ entries, IsCurrent env entry)
    (hCurrent' : ∀ entry ∈ entries', IsCurrent env entry)
    (hEq :
      entries.map CanonicalEntry.hash =
        entries'.map CanonicalEntry.hash) :
    entries.map CanonicalEntry.hashedFields =
      entries'.map CanonicalEntry.hashedFields := by
  induction entries generalizing entries' with
  | nil =>
    rw [List.map_nil, eq_comm, List.map_eq_nil_iff] at hEq
    rw [hEq, List.map_nil]
  | cons entry rest ih =>
    cases entries' with
    | nil => cases hEq
    | cons entry' rest' =>
      rw [List.map_cons, List.map_cons,
        List.cons.injEq] at hEq
      have hFirst :=
        hashedFields_eq_of_hash_eq hHash
          (hCurrent entry (by simp))
          (hCurrent' entry' (by simp)) hEq.1
      have hRest :=
        ih (fun e hMem => hCurrent e
            (List.mem_cons_of_mem entry hMem))
          (fun e hMem => hCurrent' e
            (List.mem_cons_of_mem entry' hMem)) hEq.2
      rw [List.map_cons, List.map_cons, hFirst, hRest]

/-
  A clean chain that ends like a longer one does not start
  behind the same row.
-/
theorem length_le_of_suffix
    (hHash : Function.Injective env.sha256Hex)
    (hGenesis : DigestsAreNoGenesis env)
    {predecessor : Option CanonicalEntry}
    {entries entries' : List CanonicalEntry}
    (hClean :
      Clean env (predecessor.map CanonicalEntry.anchor)
        entries)
    (hClean' :
      Clean env (predecessor.map CanonicalEntry.anchor)
        entries')
    (hCurrent : ∀ entry ∈ entries, IsCurrent env entry)
    (hCurrent' : ∀ entry ∈ entries', IsCurrent env entry)
    (hFirst :
      firstPredecessor predecessor entries =
        firstPredecessor predecessor entries')
    (hLast :
      entries.getLast?.map CanonicalEntry.hash =
        entries'.getLast?.map CanonicalEntry.hash)
    (hSuffix :
      entries.map CanonicalEntry.hash <:+
        entries'.map CanonicalEntry.hash) :
    entries'.length ≤ entries.length := by
  by_contra hLonger
  rw [Nat.not_le] at hLonger
  cases entries with
  | nil =>
    rw [List.getLast?_nil, Option.map_none, eq_comm,
      Option.map_eq_none_iff, List.getLast?_eq_none_iff]
      at hLast
    rw [hLast] at hLonger
    exact absurd hLonger (Nat.lt_irrefl 0)
  | cons first rest =>
    cases entries' with
    | nil => exact absurd hLonger (Nat.not_lt_zero _)
    | cons first' rest' =>
      have hChain := hClean.isChain hCurrent
      have hChain' := hClean'.isChain hCurrent'
      -- The numbers at the ends are equal.
      obtain ⟨last, hEnd⟩ :
          ∃ last, (first :: rest).getLast? = some last :=
        ⟨_, List.getLast?_eq_some_getLast (by simp)⟩
      obtain ⟨last', hEnd'⟩ :
          ∃ last, (first' :: rest').getLast? = some last :=
        ⟨_, List.getLast?_eq_some_getLast (by simp)⟩
      rw [hEnd, hEnd', Option.map_some, Option.map_some,
        Option.some.injEq] at hLast
      have hNum := congrArg HashedFields.sequenceNum
        (hashedFields_eq_of_hash_eq hHash
          (hCurrent last (List.mem_of_getLast? hEnd))
          (hCurrent' last' (List.mem_of_getLast? hEnd'))
          hLast)
      change last.sequenceNum = last'.sequenceNum at hNum
      rw [sequenceNum_getLast hChain hEnd,
        sequenceNum_getLast hChain' hEnd'] at hNum
      rw [List.length_cons, List.length_cons] at hLonger
      have hLater : first'.sequenceNum < first.sequenceNum := by
        omega
      -- The longer chain has an entry before the shorter one's.
      rcases hSuffix with ⟨more, hMore⟩
      rcases List.append_eq_map_iff.mp hMore with
        ⟨front, back, hSplit, hFront, hBack⟩
      have hLength := congrArg List.length hSplit
      have hBackLength := congrArg List.length hBack
      simp only [List.length_cons, List.length_append,
        List.length_map] at hLength hBackLength
      obtain ⟨before, hBefore⟩ :
          ∃ before, front.getLast? = some before := by
        cases front with
        | nil =>
          rw [List.length_nil] at hLength
          omega
        | cons x xs =>
          exact ⟨_, List.getLast?_eq_some_getLast (by simp)⟩
      cases back with
      | nil =>
        rw [List.length_nil] at hBackLength
        omega
      | cons start tail =>
        rw [List.map_cons, List.map_cons,
          List.cons.injEq] at hBack
        rw [hSplit] at hChain' hCurrent'
        rw [List.isChain_append] at hChain'
        have hFollows :=
          hChain'.2.2 before hBefore start (by simp)
        have hFields :=
          hashedFields_eq_of_hash_eq hHash hFollows.2.1
            (hCurrent first (by simp)) hBack.1
        have hPrev : first.prevOrGenesis ≠ "GENESIS" := by
          rw [← show start.prevOrGenesis = first.prevOrGenesis
            from congrArg HashedFields.prevHash hFields]
          exact hFollows.prevOrGenesis_ne hGenesis
        cases predecessor with
        | some row =>
          have hNumber := (hClean.1 _ rfl).2
          have hNumber' := (hClean'.1 _ rfl).2
          rw [hNumber, hNumber'] at hLater
          exact absurd hLater (Nat.lt_irrefl _)
        | none =>
          simp only [firstPredecessor, List.head?_cons,
            Option.bind_some] at hFirst
          cases hOne : orNone first.prevHash with
          | none =>
            apply hPrev
            rw [CanonicalEntry.prevOrGenesis, hOne]
            rfl
          | some hash =>
            rw [hOne, Option.map_some, eq_comm,
              Option.map_eq_some_iff] at hFirst
            rcases hFirst with ⟨hash', -, hPair⟩
            have hSame := congrArg Prod.snd hPair
            change first'.sequenceNum = first.sequenceNum
              at hSame
            omega

end

--------
-- Tamper Evidence
--------

/- A round forgets no error. -/
theorem errors_prefix_foldl
    (env : AuditEnv)
    (anchored : Bool)
    (items : List (CanonicalEntry × Nat))
    (state : Verifying) :
    state.errors <+:
      (items.foldl (checkEntry env anchored) state).errors := by
  induction items generalizing state with
  | nil => exact List.prefix_rfl
  | cons item rest ih =>
    exact (List.prefix_append _ _).trans
      (ih (checkEntry env anchored state item))

/- A chain is clean, and not missing its anchor, when valid. -/
theorem clean_of_valid
    {env : AuditEnv}
    {entries : List CanonicalEntry}
    {predecessor : Option CanonicalEntry}
    {missingAnchor : Bool}
    (hValid :
      (verifyChain env entries predecessor
        missingAnchor).valid = true) :
    Clean env (predecessor.map CanonicalEntry.anchor)
      entries := by
  cases missingAnchor with
  | false =>
    exact (verifyChain_valid_iff env entries predecessor).mp
      hValid
  | true =>
    cases entries with
    | nil => trivial
    | cons first rest =>
      have hNone := List.isEmpty_iff.mp hValid
      have hPrefix := errors_prefix_foldl env
        predecessor.isSome (first :: rest).zipIdx
        (verifyingFrom (first :: rest) predecessor true)
      rw [hNone, List.prefix_nil] at hPrefix
      cases hPrefix

/-
  Two lists of current entries that are accepted behind one
  predecessor and end in one hash agree on all hashed fields.
-/
theorem hashedFields_eq_of_lastHash_eq
    {env : AuditEnv}
    (hHash : Function.Injective env.sha256Hex)
    (hGenesis : DigestsAreNoGenesis env)
    {predecessor : Option CanonicalEntry}
    {missingAnchor missingAnchor' : Bool}
    {entries entries' : List CanonicalEntry}
    (hValid :
      (verifyChain env entries predecessor
        missingAnchor).valid = true)
    (hValid' :
      (verifyChain env entries' predecessor
        missingAnchor').valid = true)
    (hCurrent : ∀ entry ∈ entries, IsCurrent env entry)
    (hCurrent' : ∀ entry ∈ entries', IsCurrent env entry)
    (hFirst :
      firstPredecessor predecessor entries =
        firstPredecessor predecessor entries')
    (hLast :
      entries.getLast?.map CanonicalEntry.hash =
        entries'.getLast?.map CanonicalEntry.hash) :
    entries.map CanonicalEntry.hashedFields =
      entries'.map CanonicalEntry.hashedFields := by
  have hClean := clean_of_valid hValid
  have hClean' := clean_of_valid hValid'
  have hSuffix :=
    HashChain.suffix_or_suffix
      (fun hNext hNext' hEq =>
        hNext.hash_eq hHash hGenesis hNext' hEq)
      (hClean.isChain hCurrent) (hClean'.isChain hCurrent')
      hLast
  have hHashes :
      entries.map CanonicalEntry.hash =
        entries'.map CanonicalEntry.hash := by
    rcases hSuffix with hShort | hShort
    · apply hShort.eq_of_length_le
      rw [List.length_map, List.length_map]
      exact length_le_of_suffix hHash hGenesis hClean hClean'
        hCurrent hCurrent' hFirst hLast hShort
    · apply Eq.symm
      apply hShort.eq_of_length_le
      rw [List.length_map, List.length_map]
      exact length_le_of_suffix hHash hGenesis hClean' hClean
        hCurrent' hCurrent hFirst.symm hLast.symm hShort
  exact map_hashedFields_eq hHash hCurrent hCurrent' hHashes

/- An environment whose digests keep the text they are of. -/
def taggedEnv : AuditEnv :=
  ⟨"tenant", fun text => "#" ++ text, toString, some⟩

/- A login at a place of a chain, with its hash. -/
def loginEntry
    (id sequenceNum : Nat)
    (prevHash : Option String) : CanonicalEntry :=
  let entry : CanonicalEntry :=
    { id := id
      tenantId := "tenant"
      timestamp := "2026-01-02T00:00:00+00:00"
      eventType := "user.login"
      action := "login"
      resourceId := none
      metadata := []
      actorId := none
      actorEmail := some "qa@example.com"
      severity := "info"
      endpoint := none
      prevHash := prevHash
      hash := ""
      sequenceNum := sequenceNum }
  { entry with hash := entry.recomputed taggedEnv 3 }

/- Two logins, the first of a chain. -/
def loginEntries (id : Nat) : List CanonicalEntry :=
  [loginEntry id 1 none,
    loginEntry (id + 1) 2 (some (loginEntry id 1 none).hash)]

/- The ids of entries are not hashed, all else is. -/
theorem loginEntries_hashedFields_eq :
    (loginEntries 1).map CanonicalEntry.hashedFields =
      (loginEntries 7).map CanonicalEntry.hashedFields := by
  have hTag :
      ∀ text text' : String, "#" ++ text = "#" ++ text' →
        text = text' := by
    intro text text' hEq
    have hChars := congrArg String.toList hEq
    rw [String.toList_append, String.toList_append] at hChars
    exact String.toList_inj.mp (List.append_cancel_left hChars)
  have hStarts :
      ∀ text : String,
        ("#" ++ text).toList.head? = some '#' := by
    intro text
    rw [String.toList_append]
    rfl
  have hValid :
      ∀ id, (verifyChain taggedEnv (loginEntries id) none
        false).valid = true := by
    intro id
    rw [verifyChain_valid_iff]
    refine ⟨by simp, Or.inl rfl, ?_, Or.inl rfl, trivial⟩
    rintro head ⟨⟩
    exact ⟨rfl, rfl⟩
  have hCurrent :
      ∀ id, ∀ entry ∈ loginEntries id,
        IsCurrent taggedEnv entry := by
    intro id entry hMem
    simp only [loginEntries, List.mem_cons,
      List.not_mem_nil, or_false] at hMem
    rcases hMem with rfl | rfl
    · rfl
    · rfl
  have hGenesis : DigestsAreNoGenesis taggedEnv := by
    intro text
    constructor
    · intro hEq
      have hHead := hStarts text
      change "#" ++ text = "" at hEq
      rw [hEq] at hHead
      cases hHead
    · intro hEq
      have hHead := hStarts text
      change "#" ++ text = "GENESIS" at hEq
      rw [hEq] at hHead
      exact absurd hHead (by decide)
  have hInjective : Function.Injective taggedEnv.sha256Hex :=
    hTag
  exact hashedFields_eq_of_lastHash_eq hInjective hGenesis
    (hValid 1) (hValid 7) (hCurrent 1) (hCurrent 7) rfl rfl

end Audit

end RegEngine
