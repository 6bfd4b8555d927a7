import RegEngine.Shared.MerkleTree

/-
  What a Merkle inclusion proof shows.

  `verify_proof` folds arbitrary sibling texts, so a step
  with the left sibling `"leaf"` hashes the very text that
  `_hash_leaf` would hash. A proof therefore shows that its
  event hash is listed, or that a listed hash was itself
  derived from it.

  Main declarations:
    * `MerkleTree.hashedTexts`
    * `MerkleTree.NoSecondPreimage`
    * `MerkleTree.verifyProof_sound_iff`
-/

--------
-- Hashed Texts
--------

namespace RegEngine

namespace MerkleTree

variable {sha256Hex : String → String}

/- The leaf layer of a nonempty tree. -/
def leafLayer
    (sha256Hex : String → String)
    (hashes : List String) : List String :=
  padLeaves (hashes.map (hashLeaf sha256Hex))

/- The text `_hash_pair` hashes. -/
def pairText (left right : String) : String :=
  left ++ "|" ++ right

/-
  Every text that is hashed while the tree is built.
-/
def hashedTexts
    (sha256Hex : String → String)
    (hashes : List String) : List String :=
  if hashes.isEmpty then
    ["empty"]
  else
    hashes.map ("leaf|" ++ ·) ++
      ((HashTree.layers (hashPair sha256Hex)
          (leafLayer sha256Hex hashes)).dropLast).flatMap
        (HashTree.nextLayer pairText)

/-
  No other text has the digest of one of the given texts.
-/
def NoSecondPreimage
    (sha256Hex : String → String)
    (texts : List String) : Prop :=
  ∀ text ∈ texts, ∀ other,
    sha256Hex other = sha256Hex text → other = text

/- The nodes above a layer are the digests of its pairs. -/
theorem nextLayer_hashPair
    (sha256Hex : String → String)
    (layer : List String) :
    HashTree.nextLayer (hashPair sha256Hex) layer =
      (HashTree.nextLayer pairText layer).map sha256Hex := by
  induction layer using HashTree.nextLayer.induct with
  | case1 => simp [HashTree.nextLayer]
  | case2 x => simp [HashTree.nextLayer, hashPair, pairText]
  | case3 x y rest ih =>
      simp [HashTree.nextLayer, ih, hashPair, pairText]

/- A layer with a layer above it is not the top one. -/
theorem mem_dropLast_layers
    (node : String → String → String)
    (current : List String) :
    ∀ lower ∈ HashTree.layers node current,
      1 < lower.length →
        lower ∈ (HashTree.layers node current).dropLast := by
  induction current using
    HashTree.layers.induct node with
  | case1 current hLt ih =>
      intro lower hMem hLength
      rw [HashTree.layers_of_lt hLt] at hMem ⊢
      rw [List.dropLast_cons_of_ne_nil
        (HashTree.layers_ne_nil _ _)]
      rcases List.mem_cons.mp hMem with hHead | hTail
      · simp [hHead]
      · exact List.mem_cons_of_mem _ (ih lower hTail hLength)
  | case2 current hLt =>
      intro lower hMem hLength
      rw [HashTree.layers_of_not_lt hLt] at hMem
      exact absurd (List.mem_singleton.mp hMem ▸ hLength) hLt

/- Padding adds no new leaf. -/
theorem mem_padLeaves_iff
    (leaves : List String)
    (digest : String) :
    digest ∈ padLeaves leaves ↔ digest ∈ leaves := by
  unfold padLeaves
  split
  · rename_i hOdd
    have hNe : leaves ≠ [] := by
      intro hNil
      simp [hNil] at hOdd
    have hLast : leaves.getLastD "" ∈ leaves := by
      rw [List.getLastD_eq_getLast?,
        List.getLast?_eq_some_getLast hNe]
      exact List.getLast_mem hNe
    constructor
    · intro hMem
      rcases List.mem_append.mp hMem with hOld | hNew
      · exact hOld
      · exact List.mem_singleton.mp hNew ▸ hLast
    · exact List.mem_append_left _
  · exact Iff.rfl

variable {hashes : List String}

theorem leafLayer_ne_nil
    (hNe : hashes ≠ []) :
    leafLayer sha256Hex hashes ≠ [] := by
  unfold leafLayer padLeaves
  split <;> simp [hNe]

/- The leaf layer holds the leaf digests and no others. -/
theorem mem_leafLayer_iff
    (hashes : List String)
    (digest : String) :
    digest ∈ leafLayer sha256Hex hashes ↔
      ∃ eventHash ∈ hashes,
        hashLeaf sha256Hex eventHash = digest := by
  rw [leafLayer, mem_padLeaves_iff, List.mem_map]

theorem build_of_ne_nil
    (hNe : hashes ≠ []) :
    build sha256Hex hashes =
      { layers :=
          HashTree.layers (hashPair sha256Hex)
            (leafLayer sha256Hex hashes)
        root :=
          HashTree.rootOf (hashPair sha256Hex)
            (leafLayer sha256Hex hashes)
        leafCount := hashes.length } := by
  have hEmpty : hashes.isEmpty = false := by
    simpa using hNe
  simp [build, hEmpty, leafLayer]

--------
-- Completeness
--------

@[simp] theorem proofDigest_append
    (eventHash : String)
    (lower upper : List ProofStep) :
    proofDigest sha256Hex eventHash (lower ++ upper) =
      HashTree.climb (hashPair sha256Hex)
        (proofDigest sha256Hex eventHash lower)
        (upper.map ProofStep.sibling) := by
  simp [proofDigest]

variable {index : Nat} {proof : List ProofStep}

/- The leaf layer keeps the leaf of every event hash. -/
theorem getElem?_leafLayer
    {eventHash : String}
    (hGet : hashes[index]? = some eventHash) :
    (leafLayer sha256Hex hashes)[index]? =
      some (hashLeaf sha256Hex eventHash) := by
  have hIdx := (List.getElem?_eq_some_iff.mp hGet).1
  have hLeaf :
      (hashes.map (hashLeaf sha256Hex))[index]? =
        some (hashLeaf sha256Hex eventHash) := by
    simp [hGet]
  unfold leafLayer padLeaves
  split
  · rw [List.getElem?_append_left (by simpa using hIdx)]
    exact hLeaf
  · exact hLeaf

/-
  The generated proof of an event hash climbs from its leaf
  to the root.
-/
theorem exists_climb_leaf_eq_root
    (sha256Hex : String → String)
    {eventHash : String}
    (hMem : eventHash ∈ hashes) :
    ∃ proof : List ProofStep,
      HashTree.climb (hashPair sha256Hex)
          (hashLeaf sha256Hex eventHash)
          (proof.map ProofStep.sibling) =
        (build sha256Hex hashes).root := by
  rcases List.mem_iff_getElem?.mp hMem with ⟨index, hGet⟩
  have hNe : hashes ≠ [] := List.ne_nil_of_mem hMem
  have hClimb :=
    HashTree.climb_path (hashPair sha256Hex)
      (leafLayer sha256Hex hashes) index _
      (getElem?_leafLayer hGet)
  refine
    ⟨(HashTree.path
        (HashTree.layers (hashPair sha256Hex)
          (leafLayer sha256Hex hashes)).dropLast
        index).map ProofStep.ofSibling, ?_⟩
  rw [build_of_ne_nil hNe, List.map_map]
  simpa [Function.comp_def] using hClimb

/- Every generated proof is accepted. -/
theorem verifyProof_generateProof
    {eventHash : String}
    (hGet : hashes[index]? = some eventHash)
    (hProof :
      generateProof (build sha256Hex hashes) index =
        some proof) :
    verifyProof sha256Hex eventHash proof
      (build sha256Hex hashes).root = true := by
  have hNe : hashes ≠ [] :=
    List.ne_nil_of_mem (List.mem_of_getElem? hGet)
  have hIdx := (List.getElem?_eq_some_iff.mp hGet).1
  have hClimb :=
    HashTree.climb_path (hashPair sha256Hex)
      (leafLayer sha256Hex hashes) index _
      (getElem?_leafLayer hGet)
  rw [build_of_ne_nil hNe] at hProof ⊢
  simp only [generateProof, if_pos hIdx,
    Option.some.injEq] at hProof
  rw [verifyProof, beq_iff_eq, proofDigest, ← hProof,
    List.map_map]
  simpa [Function.comp_def] using hClimb

/- Every event hash has a proof, and the proof is accepted. -/
theorem exists_generateProof_verified
    (sha256Hex : String → String)
    {hashes : List String}
    {index : Nat}
    (hIdx : index < hashes.length) :
    ∃ proof,
      generateProof (build sha256Hex hashes) index =
          some proof ∧
        verifyProof sha256Hex hashes[index] proof
          (build sha256Hex hashes).root = true := by
  have hNe : hashes ≠ [] := by
    rintro rfl
    exact absurd hIdx (Nat.not_lt_zero index)
  have hSome :
      ∃ proof,
        generateProof (build sha256Hex hashes) index =
          some proof := by
    rw [build_of_ne_nil hNe]
    exact ⟨_, if_pos hIdx⟩
  rcases hSome with ⟨proof, hProof⟩
  exact ⟨proof, hProof, verifyProof_generateProof
    (List.getElem?_eq_getElem hIdx) hProof⟩

/- The last of three hashes, which a padding leaf repeats. -/
theorem exists_generateProof_verified_padded :
    ∃ proof,
      generateProof
          (build (fun text => "#" ++ text) ["a", "b", "c"])
          2 =
          some proof ∧
        verifyProof (fun text => "#" ++ text) "c" proof
          (build (fun text => "#" ++ text)
            ["a", "b", "c"]).root = true :=
  exists_generateProof_verified _
    (show 2 < ["a", "b", "c"].length by decide)

--------
-- Soundness
--------

/-
  The digests an inclusion proof of `eventHash` can reach:
  its leaf digest, and any pair digest with a sibling text
  on either side.
-/
inductive DerivedFrom
    (sha256Hex : String → String)
    (eventHash : String) : String → Prop
  | leaf :
      DerivedFrom sha256Hex eventHash
        (hashLeaf sha256Hex eventHash)
  | right {digest : String} (sibling : String) :
      DerivedFrom sha256Hex eventHash digest →
        DerivedFrom sha256Hex eventHash
          (hashPair sha256Hex digest sibling)
  | left {digest : String} (sibling : String) :
      DerivedFrom sha256Hex eventHash digest →
        DerivedFrom sha256Hex eventHash
          (hashPair sha256Hex sibling digest)

theorem DerivedFrom.exists_text
    {eventHash digest : String}
    (hDerived : DerivedFrom sha256Hex eventHash digest) :
    ∃ text, digest = sha256Hex text := by
  cases hDerived with
  | leaf => exact ⟨_, rfl⟩
  | right sibling hBelow => exact ⟨_, rfl⟩
  | left sibling hBelow => exact ⟨_, rfl⟩

/- Climbing keeps to derived digests. -/
theorem DerivedFrom.climb
    {eventHash digest : String}
    (hDerived : DerivedFrom sha256Hex eventHash digest)
    (steps : List (HashTree.Side × String)) :
    DerivedFrom sha256Hex eventHash
      (HashTree.climb (hashPair sha256Hex) digest
        steps) := by
  induction steps generalizing digest with
  | nil => simpa using hDerived
  | cons step rest ih =>
      rcases step with ⟨side, sibling⟩
      cases side with
      | left => exact ih (hDerived.left sibling)
      | right => exact ih (hDerived.right sibling)

theorem DerivedFrom.exists_proofDigest
    {eventHash digest : String}
    (hDerived : DerivedFrom sha256Hex eventHash digest) :
    ∃ proof : List ProofStep,
      proofDigest sha256Hex eventHash proof = digest := by
  induction hDerived with
  | leaf => exact ⟨[], rfl⟩
  | right sibling _ ih =>
      rcases ih with ⟨proof, hProof⟩
      refine ⟨proof ++ [⟨"right", sibling⟩], ?_⟩
      simp [hProof, HashTree.climbStep, ProofStep.sibling]
  | left sibling _ ih =>
      rcases ih with ⟨proof, hProof⟩
      refine ⟨proof ++ [⟨"left", sibling⟩], ?_⟩
      simp [hProof, HashTree.climbStep, ProofStep.sibling]

/-
  A derived digest followed by the left sibling `"leaf"` is
  hashed exactly as `_hash_leaf` hashes an event hash.
-/
theorem climbStep_leaf_tag
    (digest : String) :
    HashTree.climbStep (hashPair sha256Hex) digest
        (ProofStep.sibling ⟨"left", "leaf"⟩) =
      hashLeaf sha256Hex digest := by
  have hTag : "leaf" ++ "|" = "leaf|" := by decide
  simp [HashTree.climbStep, ProofStep.sibling, hashPair,
    hashLeaf, hTag]

/- Digests of 64 hexadecimal digits are read off a pair. -/
theorem pairText_inj_left
    {digest sibling left right : String}
    (hDigest : Text.IsHex 64 digest)
    (hLeft : Text.IsHex 64 left)
    (hEq : digest ++ "|" ++ sibling = pairText left right) :
    digest = left := by
  have hList := congrArg String.toList hEq
  simp only [pairText, String.toList_append,
    List.append_assoc] at hList
  have hCut :=
    (List.append_inj hList
      (by rw [hDigest.length_toList, hLeft.length_toList])).1
  exact String.toList_inj.mp hCut

theorem pairText_inj_right
    {digest sibling left right : String}
    (hDigest : Text.IsHex 64 digest)
    (hRight : Text.IsHex 64 right)
    (hEq : sibling ++ "|" ++ digest = pairText left right) :
    digest = right := by
  have hList := congrArg String.toList hEq
  simp only [pairText, String.toList_append] at hList
  have hCut :=
    (List.append_inj' hList
      (by rw [hDigest.length_toList, hRight.length_toList])).2
  exact String.toList_inj.mp hCut

/- A leaf text is no pair of 64-digit digests. -/
theorem leafText_ne_pairText
    {eventHash left right : String}
    (hLeft : Text.IsHex 64 left) :
    "leaf|" ++ eventHash ≠ pairText left right := by
  intro hEq
  have hList := congrArg String.toList hEq
  simp only [pairText, String.toList_append,
    List.append_assoc] at hList
  have hFirst := congrArg (fun text => text[4]?) hList
  have hLength := hLeft.length_toList
  have hTag : "leaf|".toList = ['l', 'e', 'a', 'f', '|'] := by
    decide
  rw [hTag] at hFirst
  simp only [List.cons_append, List.nil_append,
    List.getElem?_cons_succ, List.getElem?_cons_zero,
    List.getElem?_append_left
      (show 4 < left.toList.length by omega)] at hFirst
  have hMem : '|' ∈ left.toList :=
    List.mem_of_getElem? hFirst.symm
  exact hLeft.notMem (by decide) hMem

/-
  A digest that is paired into a leaf text is the event
  hash of that leaf.
-/
theorem eq_of_leafText
    {digest sibling eventHash : String}
    (hDigest : Text.IsHex 64 digest)
    (hEvent : Text.IsHex 64 eventHash)
    (hEq : sibling ++ "|" ++ digest = "leaf|" ++ eventHash) :
    digest = eventHash := by
  have hList := congrArg String.toList hEq
  simp only [String.toList_append] at hList
  have hCut :=
    (List.append_inj' hList
      (by rw [hDigest.length_toList, hEvent.length_toList])).2
  exact String.toList_inj.mp hCut

/- A pair that starts with a digest is no leaf text. -/
theorem ne_leafText
    {digest sibling eventHash : String}
    (hDigest : Text.IsHex 64 digest) :
    digest ++ "|" ++ sibling ≠ "leaf|" ++ eventHash := by
  intro hEq
  have hNe :
      "leaf|" ++ eventHash ≠ pairText digest sibling :=
    leafText_ne_pairText hDigest
  exact hNe hEq.symm

/-
  Under digests of 64 hexadecimal digits, every climb keeps
  to such digests.
-/
theorem isHex_climb
    (hHex : ∀ text, Text.IsHex 64 (sha256Hex text))
    (eventHash : String)
    (steps : List (HashTree.Side × String)) :
    Text.IsHex 64
      (HashTree.climb (hashPair sha256Hex)
        (hashLeaf sha256Hex eventHash) steps) := by
  rcases List.eq_nil_or_concat steps with
    hNil | ⟨before, step, hConcat⟩
  · subst hNil
    exact hHex _
  · rw [hConcat, List.concat_eq_append,
      HashTree.climb_append]
    rcases step with ⟨side, sibling⟩
    cases side <;> exact hHex _

/- A node above a layer is a pair of that layer. -/
theorem exists_pairText_of_mem_nextLayer
    {layer : List String}
    {digest : String}
    (hMem :
      digest ∈ HashTree.nextLayer (hashPair sha256Hex) layer) :
    ∃ left ∈ layer, ∃ right ∈ layer,
      pairText left right ∈
          HashTree.nextLayer pairText layer ∧
        digest = sha256Hex (pairText left right) := by
  rw [nextLayer_hashPair] at hMem
  rcases List.mem_map.mp hMem with ⟨text, hText, hDigest⟩
  rcases HashTree.exists_of_mem_nextLayer hText with
    ⟨left, hLeft, right, hRight, hPair⟩
  exact ⟨left, hLeft, right, hRight, hPair ▸ hText,
    hPair ▸ hDigest.symm⟩

/-
  An accepted proof passes through the leaf layer.
-/
theorem exists_climb_mem_leafLayer
    {eventHash : String}
    {steps : List (HashTree.Side × String)}
    (hNe : hashes ≠ [])
    (hHex : ∀ text, Text.IsHex 64 (sha256Hex text))
    (hFree :
      NoSecondPreimage sha256Hex
        (hashedTexts sha256Hex hashes))
    (hRoot :
      HashTree.climb (hashPair sha256Hex)
          (hashLeaf sha256Hex eventHash) steps =
        (build sha256Hex hashes).root) :
    ∃ done rest,
      steps = done ++ rest ∧
        HashTree.climb (hashPair sha256Hex)
            (hashLeaf sha256Hex eventHash) done ∈
          leafLayer sha256Hex hashes := by
  have hEmpty : hashes.isEmpty = false := by simpa using hNe
  have hLayerHex :
      ∀ layer ∈ HashTree.layers (hashPair sha256Hex)
          (leafLayer sha256Hex hashes),
        ∀ digest ∈ layer, Text.IsHex 64 digest := by
    apply HashTree.forall_mem_layers (fun _ _ => hHex _)
    intro digest hMem
    rcases (mem_leafLayer_iff hashes digest).mp hMem with
      ⟨leaf, -, hLeaf⟩
    exact hLeaf ▸ hHex _
  have hUnique :
      ∀ lower ∈ HashTree.layers (hashPair sha256Hex)
          (leafLayer sha256Hex hashes),
        1 < lower.length →
          ∀ text ∈ HashTree.nextLayer pairText lower,
            ∀ other,
              sha256Hex other = sha256Hex text →
                other = text := by
    intro lower hLower hLength text hText
    apply hFree
    rw [hashedTexts, hEmpty]
    exact List.mem_append_right _
      (List.mem_flatMap.mpr
        ⟨lower, mem_dropLast_layers _ _ lower hLower hLength,
          hText⟩)
  rw [build_of_ne_nil hNe] at hRoot
  refine HashTree.exists_climb_mem_of_climb_eq_root
    (leafLayer sha256Hex hashes) (leafLayer_ne_nil hNe)
    ?_ ?_ hRoot
  -- The leaf digest of the event hash is no pair digest.
  · intro lower hLower hLength hMem
    rcases exists_pairText_of_mem_nextLayer hMem with
      ⟨left, hLeft, right, -, hText, hDigest⟩
    exact leafText_ne_pairText
      (hLayerHex lower hLower left hLeft)
      (hUnique lower hLower hLength _ hText _ hDigest)
  -- A pair digest is only reached from one of its children.
  · intro lower hLower hLength done step hMem
    rcases exists_pairText_of_mem_nextLayer hMem with
      ⟨left, hLeft, right, hRight, hText, hDigest⟩
    have hReached := isHex_climb hHex eventHash done
    rcases step with ⟨side, sibling⟩
    cases side with
    | left =>
        have hEq :=
          hUnique lower hLower hLength _ hText _ hDigest
        rw [pairText_inj_right hReached
          (hLayerHex lower hLower right hRight) hEq]
        exact hRight
    | right =>
        have hEq :=
          hUnique lower hLower hLength _ hText _ hDigest
        rw [pairText_inj_left hReached
          (hLayerHex lower hLower left hLeft) hEq]
        exact hLeft

/-
  What an accepted proof shows: the event hash is listed, or
  a listed hash is derived from it.
-/
theorem mem_or_derivedFrom_of_verifyProof
    {eventHash : String}
    (hHex : ∀ text, Text.IsHex 64 (sha256Hex text))
    (hFree :
      NoSecondPreimage sha256Hex
        (hashedTexts sha256Hex hashes))
    (hHashes : ∀ listed ∈ hashes, Text.IsHex 64 listed)
    (hVerify :
      verifyProof sha256Hex eventHash proof
        (build sha256Hex hashes).root = true) :
    eventHash ∈ hashes ∨
      ∃ listed ∈ hashes,
        DerivedFrom sha256Hex eventHash listed := by
  have hRoot := beq_iff_eq.mp hVerify
  rw [proofDigest] at hRoot
  generalize proof.map ProofStep.sibling = steps at hRoot
  by_cases hNe : hashes = []
  -- The root of the empty tree is the digest of no pair.
  · subst hNe
    exfalso
    have hUnique := hFree "empty" (by simp [hashedTexts])
    have hBar :
        ∀ text, sha256Hex text = sha256Hex "empty" →
          '|' ∉ text.toList := by
      intro text hText
      rw [hUnique text hText]
      decide
    rcases List.eq_nil_or_concat steps with
      hNil | ⟨before, step, hConcat⟩
    · subst hNil
      exact hBar _ hRoot (by simp)
    · rw [hConcat, List.concat_eq_append,
        HashTree.climb_append] at hRoot
      rcases step with ⟨side, sibling⟩
      cases side <;> exact hBar _ hRoot (by simp)
  · rcases exists_climb_mem_leafLayer hNe hHex hFree hRoot with
      ⟨done, -, -, hMem⟩
    rcases (mem_leafLayer_iff hashes _).mp hMem with
      ⟨listed, hListed, hLeaf⟩
    have hUnique :
        ∀ other,
          sha256Hex other = hashLeaf sha256Hex listed →
            other = "leaf|" ++ listed := by
      apply hFree
      have hEmpty : hashes.isEmpty = false := by
        simpa using hNe
      rw [hashedTexts, hEmpty]
      exact List.mem_append_left _
        (List.mem_map.mpr ⟨listed, hListed, rfl⟩)
    rcases List.eq_nil_or_concat done with
      hNil | ⟨before, step, hConcat⟩
    · subst hNil
      left
      have hText := hUnique _ hLeaf.symm
      have hSame : eventHash = listed := by
        apply String.toList_inj.mp
        simpa using congrArg String.toList hText
      exact hSame ▸ hListed
    · right
      rw [hConcat, List.concat_eq_append,
        HashTree.climb_append] at hLeaf
      have hReached := isHex_climb hHex eventHash before
      refine ⟨listed, hListed, ?_⟩
      rcases step with ⟨side, sibling⟩
      cases side with
      | left =>
          have hSame :=
            eq_of_leafText hReached (hHashes listed hListed)
              (hUnique _ hLeaf.symm)
          rw [← hSame]
          exact DerivedFrom.leaf.climb before
      | right =>
          exact absurd (hUnique _ hLeaf.symm)
            (ne_leafText hReached)

/-
  Inclusion proofs of `eventHash` are sound for `hashes`
  exactly when the hash is listed or no listed hash is a
  digest derived from it.
-/
theorem verifyProof_sound_iff
    (sha256Hex : String → String)
    (hashes : List String)
    (eventHash : String)
    (hHex : ∀ text, Text.IsHex 64 (sha256Hex text))
    (hFree :
      NoSecondPreimage sha256Hex
        (hashedTexts sha256Hex hashes))
    (hHashes : ∀ listed ∈ hashes, Text.IsHex 64 listed) :
    (∀ proof,
        verifyProof sha256Hex eventHash proof
            (build sha256Hex hashes).root = true →
          eventHash ∈ hashes) ↔
      (eventHash ∈ hashes ∨
        ∀ listed ∈ hashes,
          ¬ DerivedFrom sha256Hex eventHash listed) := by
  constructor
  · intro hSound
    by_contra hNot
    push Not at hNot
    rcases hNot with ⟨hAbsent, listed, hListed, hDerived⟩
    rcases hDerived.exists_proofDigest with ⟨lower, hLower⟩
    rcases exists_climb_leaf_eq_root sha256Hex hListed with
      ⟨upper, hUpper⟩
    apply hAbsent
    apply hSound (lower ++ ⟨"left", "leaf"⟩ :: upper)
    rw [verifyProof, beq_iff_eq, proofDigest_append,
      List.map_cons, HashTree.climb_cons, hLower,
      climbStep_leaf_tag, hUpper]
  · intro hCases proof hVerify
    rcases mem_or_derivedFrom_of_verifyProof hHex hFree
        hHashes hVerify with
      hMem | ⟨listed, hListed, hDerived⟩
    · exact hMem
    · rcases hCases with hMem | hNone
      · exact hMem
      · exact absurd hDerived (hNone listed hListed)

/-
  SHA-256 on the two texts of the forged proof below. Texts
  outside the table share a digest that neither has.
-/
def forgeryDigest (text : String) : String :=
  if text =
      "leaf|0000000000000000000000000000000000000000000000000000000000000000"
  then
    "381358e8aac58e3d5c2ff8109940b2b157fb9ec202d9a0ec00c32d79f87fd93f"
  else if text =
      "leaf|381358e8aac58e3d5c2ff8109940b2b157fb9ec202d9a0ec00c32d79f87fd93f"
  then
    "55a862fb54cfe357dcf8903782d195e9e50fa502533e80d416371cc99e4d9f7c"
  else
    "ffffffffffffffffffffffffffffffffffffffffffffffffffffffffffffffff"

def forgedEventHash : String :=
  "0000000000000000000000000000000000000000000000000000000000000000"

/- The tree lists the leaf digest of the forged hash. -/
def forgedHashes : List String :=
  [hashLeaf forgeryDigest forgedEventHash]

/- The forgery table yields digests of 64 digits. -/
theorem isHex_forgeryDigest
    (text : String) :
    Text.IsHex 64 (forgeryDigest text) := by
  unfold forgeryDigest
  split
  · exact Text.IsHex.ofList (by decide)
  · split <;> exact Text.IsHex.ofList (by decide)

/- A digest in the forgery table has one text. -/
theorem forgeryDigest_noSecondPreimage
    {text : String}
    (hText :
      forgeryDigest text ≠
        "ffffffffffffffffffffffffffffffffffffffffffffffffffffffffffffffff") :
    ∀ other,
      forgeryDigest other = forgeryDigest text →
        other = text := by
  intro other hEq
  unfold forgeryDigest at hEq hText
  split at hEq <;> split at hEq <;> grind

/-
  A forged proof: the hash of all zeros is accepted by a
  tree that lists only its leaf digest.
-/
theorem verifyProof_accepts_unlisted :
    (∀ text, Text.IsHex 64 (forgeryDigest text)) ∧
      NoSecondPreimage forgeryDigest
        (hashedTexts forgeryDigest forgedHashes) ∧
      (∀ listed ∈ forgedHashes, Text.IsHex 64 listed) ∧
      Text.IsHex 64 forgedEventHash ∧
      ¬ ∀ proof,
        verifyProof forgeryDigest forgedEventHash proof
            (build forgeryDigest forgedHashes).root = true →
          forgedEventHash ∈ forgedHashes := by
  have hTexts :
      hashedTexts forgeryDigest forgedHashes =
        ["leaf|" ++
          hashLeaf forgeryDigest forgedEventHash] := by
    simp [hashedTexts, forgedHashes, leafLayer, padLeaves,
      HashTree.layers_of_not_lt]
  refine ⟨isHex_forgeryDigest, ?_, ?_,
    Text.IsHex.ofList (by decide), ?_⟩
  · intro text hText
    rw [hTexts, List.mem_singleton] at hText
    apply forgeryDigest_noSecondPreimage
    rw [hText]
    decide
  · intro listed hListed
    rw [forgedHashes, List.mem_singleton] at hListed
    rw [hListed]
    exact isHex_forgeryDigest _
  · intro hSound
    have hMem := hSound [⟨"left", "leaf"⟩] (by
      rw [verifyProof, beq_iff_eq, proofDigest, List.map_cons,
        HashTree.climb_cons, climbStep_leaf_tag,
        build_of_ne_nil (by simp [forgedHashes]),
        HashTree.rootOf_of_not_lt (by
          simp [leafLayer, padLeaves, forgedHashes])]
      simp [leafLayer, padLeaves, forgedHashes])
    revert hMem
    decide

/-
  A tree that lists the hash of all zeros, which no text of
  the table has as its digest, admits no other hash.
-/
theorem verifyProof_sound_of_zero_leaf :
    (∀ text, forgeryDigest text ≠ forgedEventHash) ∧
      ∀ proof,
        verifyProof forgeryDigest
            "ffffffffffffffffffffffffffffffffffffffffffffffffffffffffffffffff"
            proof
            (build forgeryDigest [forgedEventHash]).root =
              true →
          "ffffffffffffffffffffffffffffffffffffffffffffffffffffffffffffffff" ∈
            [forgedEventHash] := by
  have hTexts :
      hashedTexts forgeryDigest [forgedEventHash] =
        ["leaf|" ++ forgedEventHash] := by
    simp [hashedTexts, leafLayer, padLeaves,
      HashTree.layers_of_not_lt]
  have hNotDigest :
      ∀ text, forgeryDigest text ≠ forgedEventHash := by
    intro text
    unfold forgeryDigest
    split
    · decide
    · split <;> decide
  refine ⟨hNotDigest, (verifyProof_sound_iff forgeryDigest
    [forgedEventHash] _ isHex_forgeryDigest ?_ ?_).mpr ?_⟩
  · intro text hText
    rw [hTexts, List.mem_singleton] at hText
    apply forgeryDigest_noSecondPreimage
    rw [hText]
    decide
  · intro listed hListed
    rw [List.mem_singleton.mp hListed]
    exact Text.IsHex.ofList (by decide)
  · right
    intro listed hListed hDerived
    rcases hDerived.exists_text with ⟨text, hText⟩
    apply hNotDigest text
    rw [← hText, List.mem_singleton.mp hListed]

end MerkleTree

end RegEngine
