import Mathlib.Data.List.Nodup
import RegEngine.Library.HashTree.Trees
import RegEngine.Shared.MerkleTree.Soundness

/-
  What a Merkle root says about the event hashes below it.

  An odd last node is hashed with itself at every layer, so a
  root does not tell a hash from its repetition at the end of
  the list. It does tell the filled list, in which the hashes
  below a doubled node stand twice.

  Main declarations:
    * `MerkleTree.filled`
    * `MerkleTree.CollisionFree`
    * `MerkleTree.root_eq_iff`
-/

--------
-- The Root Of A Tree
--------

namespace RegEngine

open HashTree (treeOf)

namespace MerkleTree

variable {sha256Hex : String → String}

/-
  The event hashes at the leaves of the tree, from left to
  right. The hashes below an odd last node, which is hashed
  with itself, stand there twice.
-/
def filled (hashes : List String) : List String :=
  HashTree.rootOf (· ++ ·) (hashes.map (fun hash => [hash]))

/- No two of the texts have one digest. -/
def CollisionFree
    (sha256Hex : String → String)
    (texts : List String) : Prop :=
  ∀ text ∈ texts, ∀ other ∈ texts,
    sha256Hex text = sha256Hex other → text = other

/- Padding the leaves changes no layer above them. -/
theorem nextLayer_padLeaves
    (node : String → String → String)
    {leaves : List String}
    (hLt : 1 < leaves.length) :
    HashTree.nextLayer node (padLeaves leaves) =
      HashTree.nextLayer node leaves := by
  unfold padLeaves
  split
  · rename_i hOdd
    have hNe : leaves ≠ [] := by
      intro hNil
      simp [hNil] at hLt
    rw [List.getLastD_eq_getLast?,
      List.getLast?_eq_some_getLast hNe, Option.getD_some]
    have hCut := List.dropLast_append_getLast hNe
    have hTwice :=
      HashTree.nextLayer_concat_last node (leaves.getLast hNe)
        leaves.dropLast (by
          rw [List.length_dropLast]
          omega)
    rw [hCut] at hTwice
    exact hTwice
  · rfl

theorem length_padLeaves
    (leaves : List String) :
    1 < (padLeaves leaves).length ↔ 1 < leaves.length := by
  unfold padLeaves
  split
  · rw [List.length_append, List.length_singleton]
    omega
  · exact Iff.rfl

/- A short layer of leaves is not padded. -/
theorem padLeaves_of_not_lt
    {leaves : List String}
    (hLt : ¬ 1 < leaves.length) :
    padLeaves leaves = leaves := by
  unfold padLeaves
  exact if_neg (fun hOdd => hLt hOdd.2)

/- The digest of a tree of event hashes. -/
def treeDigest
    (sha256Hex : String → String)
    (tree : HashTree.Tree String) : String :=
  tree.digest (hashLeaf sha256Hex) (hashPair sha256Hex)

variable {hashes : List String}

/- The root of event hashes is the digest of their tree. -/
theorem build_root_eq
    (hNe : hashes ≠ []) :
    (build sha256Hex hashes).root =
      treeDigest sha256Hex (treeOf hashes) := by
  rw [build_of_ne_nil hNe, treeDigest,
    ← HashTree.rootOf_eq_digest _ _ hNe, leafLayer]
  by_cases hLt : 1 < (hashes.map (hashLeaf sha256Hex)).length
  · rw [HashTree.rootOf_of_lt ((length_padLeaves _).mpr hLt),
      HashTree.rootOf_of_lt hLt, nextLayer_padLeaves _ hLt]
  · rw [padLeaves_of_not_lt hLt]

/- The filled list holds the leaves of the tree. -/
theorem filled_eq
    (hNe : hashes ≠ []) :
    filled hashes = (treeOf hashes).leaves :=
  (HashTree.leaves_treeOf hNe).symm

/- Filling adds hashes at the end. -/
theorem isPrefix_filled
    (hashes : List String) :
    hashes <+: filled hashes := by
  by_cases hNil : hashes = []
  · rw [hNil]
    exact List.nil_prefix
  · rw [filled_eq hNil]
    exact HashTree.isPrefix_leaves_treeOf hNil

/- Only the empty list is filled to the empty list. -/
theorem filled_eq_nil
    {hashes : List String} :
    filled hashes = [] ↔ hashes = [] := by
  constructor
  · intro hNil
    have hPrefix := isPrefix_filled hashes
    rw [hNil] at hPrefix
    exact List.prefix_nil.mp hPrefix
  · intro hNil
    rw [hNil, filled, List.map_nil,
      HashTree.rootOf_of_not_lt (by simp)]
    rfl

--------
-- The Texts Of A Tree
--------

/- The text that the digest of a tree is taken of. -/
def treeText (sha256Hex : String → String) :
    HashTree.Tree String → String
| .leaf eventHash => "leaf|" ++ eventHash
| .node left right =>
    pairText (treeDigest sha256Hex left)
      (treeDigest sha256Hex right)

/- The texts that are hashed below a tree, and its own. -/
def treeTexts (sha256Hex : String → String) :
    HashTree.Tree String → List String
| .leaf eventHash => [treeText sha256Hex (.leaf eventHash)]
| .node left right =>
    treeText sha256Hex (.node left right) ::
      (treeTexts sha256Hex left ++ treeTexts sha256Hex right)

theorem treeDigest_eq
    (tree : HashTree.Tree String) :
    treeDigest sha256Hex tree =
      sha256Hex (treeText sha256Hex tree) := by
  cases tree <;> rfl

theorem treeText_mem
    (tree : HashTree.Tree String) :
    treeText sha256Hex tree ∈ treeTexts sha256Hex tree := by
  cases tree <;> simp [treeTexts]

theorem treeText_ne_empty
    (hHex : ∀ text, Text.IsHex 64 (sha256Hex text))
    (tree : HashTree.Tree String) :
    treeText sha256Hex tree ≠ "empty" := by
  intro hEq
  have hList := congrArg String.toList hEq
  cases tree with
  | leaf eventHash =>
      rw [treeText, String.toList_append] at hList
      simp at hList
  | node left right =>
      have hLength := congrArg List.length hList
      have hLeft :=
        (hHex (treeText sha256Hex left)).length_toList
      rw [treeText, treeDigest_eq, pairText,
        String.toList_append, String.toList_append,
        List.length_append, List.length_append, hLeft]
        at hLength
      have hShort : "empty".toList.length = 5 := by decide
      omega

theorem eq_of_treeDigest
    (hHex : ∀ text, Text.IsHex 64 (sha256Hex text))
    {texts : List String}
    (hFree : CollisionFree sha256Hex texts)
    {tree other : HashTree.Tree String}
    (hTree :
      ∀ text ∈ treeTexts sha256Hex tree, text ∈ texts)
    (hOther :
      ∀ text ∈ treeTexts sha256Hex other, text ∈ texts)
    (hDigest :
      treeDigest sha256Hex tree =
        treeDigest sha256Hex other) :
    tree = other := by
  have hIsHex :
      ∀ tree, Text.IsHex 64 (treeDigest sha256Hex tree) := by
    intro tree
    rw [treeDigest_eq]
    exact hHex _
  induction tree generalizing other with
  | leaf eventHash =>
      rw [treeDigest_eq, treeDigest_eq] at hDigest
      have hText :=
        hFree _ (hTree _ (treeText_mem _)) _
          (hOther _ (treeText_mem _)) hDigest
      cases other with
      | leaf eventHash' =>
          simp only [treeText] at hText
          have hList := congrArg String.toList hText
          simp only [String.toList_append,
            List.append_cancel_left_eq] at hList
          rw [String.toList_inj.mp hList]
      | node left' right' =>
          exact absurd hText (leafText_ne_pairText (hIsHex _))
  | node left right ihLeft ihRight =>
      rw [treeDigest_eq, treeDigest_eq] at hDigest
      have hText :=
        hFree _ (hTree _ (treeText_mem _)) _
          (hOther _ (treeText_mem _)) hDigest
      cases other with
      | leaf eventHash' =>
          exact absurd hText.symm
            (leafText_ne_pairText (hIsHex _))
      | node left' right' =>
          simp only [treeText] at hText
          rw [ihLeft
              (fun text hMem =>
                hTree text (by simp [treeTexts, hMem]))
              (fun text hMem =>
                hOther text (by simp [treeTexts, hMem]))
              (pairText_inj_left (hIsHex _) (hIsHex _) hText),
            ihRight
              (fun text hMem =>
                hTree text (by simp [treeTexts, hMem]))
              (fun text hMem =>
                hOther text (by simp [treeTexts, hMem]))
              (pairText_inj_right (hIsHex _) (hIsHex _)
                hText)]

/- The pairs that are hashed above a layer of leaves. -/
def pairTexts
    (sha256Hex : String → String)
    (leaves : List String) : List String :=
  ((HashTree.layers (hashPair sha256Hex) leaves).dropLast).flatMap
    (HashTree.nextLayer pairText)

/- The pairs of a layer, then those of the layer above. -/
theorem pairTexts_of_lt
    {leaves : List String}
    (hLt : 1 < leaves.length) :
    pairTexts sha256Hex leaves =
      HashTree.nextLayer pairText leaves ++
        pairTexts sha256Hex
          (HashTree.nextLayer (hashPair sha256Hex) leaves) := by
  unfold pairTexts
  rw [HashTree.layers_of_lt hLt,
    List.dropLast_cons_of_ne_nil (HashTree.layers_ne_nil _ _),
    List.flatMap_cons]

/- Padding the leaves adds no pair. -/
theorem pairTexts_padLeaves
    (leaves : List String) :
    pairTexts sha256Hex (padLeaves leaves) =
      pairTexts sha256Hex leaves := by
  by_cases hLt : 1 < leaves.length
  · rw [pairTexts_of_lt ((length_padLeaves _).mpr hLt),
      pairTexts_of_lt hLt, nextLayer_padLeaves _ hLt,
      nextLayer_padLeaves _ hLt]
  · rw [padLeaves_of_not_lt hLt]

/- The trees of the next layer are hashed as its pairs. -/
theorem map_treeText_nextLayer
    (layer : List (HashTree.Tree String)) :
    (HashTree.nextLayer HashTree.Tree.node layer).map
        (treeText sha256Hex) =
      HashTree.nextLayer pairText
        (layer.map (treeDigest sha256Hex)) := by
  induction layer using HashTree.nextLayer.induct with
  | case1 => rfl
  | case2 tree => rfl
  | case3 left right rest ih =>
      simp only [HashTree.nextLayer, List.map_cons, ih]
      rfl

/- The texts of the tree are hashed while it is built. -/
theorem mem_hashedTexts_of_treeTexts
    (hNe : hashes ≠ [])
    {text : String}
    (hText : text ∈ treeTexts sha256Hex (treeOf hashes)) :
    text ∈ hashedTexts sha256Hex hashes := by
  have hTexts :
      hashedTexts sha256Hex hashes =
        hashes.map ("leaf|" ++ ·) ++
          pairTexts sha256Hex
            (hashes.map (hashLeaf sha256Hex)) := by
    rw [← pairTexts_padLeaves]
    have hEmpty : hashes.isEmpty = false := by simpa using hNe
    simp only [hashedTexts, hEmpty, pairTexts, leafLayer]
    rfl
  rw [hTexts]
  let WithinTexts (layer : List (HashTree.Tree String)) : Prop :=
    (∀ tree ∈ layer, ∀ text ∈ treeTexts sha256Hex tree,
      text ∈ hashes.map ("leaf|" ++ ·) ++
        pairTexts sha256Hex
          (hashes.map (hashLeaf sha256Hex))) ∧
      ∀ text ∈ pairTexts sha256Hex
          (layer.map (treeDigest sha256Hex)),
        text ∈ pairTexts sha256Hex
          (hashes.map (hashLeaf sha256Hex))
  -- Every tree of a layer, and every pair above it, keeps to
  -- the texts hashed for the whole list.
  have hAll : WithinTexts [treeOf hashes] := by
    refine HashTree.rootOf_induction ?_ (by simpa using hNe)
      ⟨?_, ?_⟩
    · rintro layer hLt ⟨hTrees, hPairs⟩
      rw [pairTexts_of_lt (by simpa using hLt)] at hPairs
      constructor
      · intro tree hTree text hMem
        have hPair :=
          List.mem_map_of_mem (f := treeText sha256Hex) hTree
        rcases HashTree.exists_of_mem_nextLayer hTree with
          ⟨left, hLeft, right, hRight, hEq⟩
        rw [hEq] at hMem hPair
        rcases List.mem_cons.mp hMem with hOwn | hBelow
        · refine List.mem_append_right _ (hPairs text ?_)
          apply List.mem_append_left
          rw [hOwn, ← map_treeText_nextLayer]
          exact hPair
        · rcases List.mem_append.mp hBelow with hIn | hIn
          · exact hTrees left hLeft text hIn
          · exact hTrees right hRight text hIn
      · intro text hMem
        apply hPairs text
        apply List.mem_append_right
        have hNext :
            HashTree.nextLayer (hashPair sha256Hex)
                (layer.map (treeDigest sha256Hex)) =
              (HashTree.nextLayer HashTree.Tree.node layer).map
                (treeDigest sha256Hex) :=
          HashTree.nextLayer_map (fun _ _ => rfl) layer
        rw [hNext]
        exact hMem
    · intro tree hTree text hMem
      rcases List.mem_map.mp hTree with ⟨hash, hHash, hEq⟩
      rw [← hEq, treeTexts, List.mem_singleton] at hMem
      rw [hMem]
      exact List.mem_append_left _
        (List.mem_map_of_mem hHash)
    · intro text hMem
      rw [List.map_map] at hMem
      exact hMem
  exact hAll.1 _ (by simp) text hText

--------
-- Binding
--------

/- A tree with leaves has no root of the empty tree. -/
theorem root_ne_empty
    (hHex : ∀ text, Text.IsHex 64 (sha256Hex text))
    {texts hashes : List String}
    (hFree : CollisionFree sha256Hex texts)
    (hEmpty : "empty" ∈ texts)
    (hHashes :
      ∀ text ∈ hashedTexts sha256Hex hashes, text ∈ texts)
    (hNe : hashes ≠ []) :
    (build sha256Hex hashes).root ≠ sha256Hex "empty" := by
  intro hRoot
  rw [build_root_eq hNe, treeDigest_eq] at hRoot
  have hText :=
    hFree _
      (hHashes _ (mem_hashedTexts_of_treeTexts hNe
        (treeText_mem _)))
      _ hEmpty hRoot
  exact treeText_ne_empty hHex _ hText

/- Roots over leaves are equal when the filled lists are. -/
theorem root_eq_iff_of_ne_nil
    (hHex : ∀ text, Text.IsHex 64 (sha256Hex text))
    {xs ys : List String}
    (hFree :
      CollisionFree sha256Hex
        (hashedTexts sha256Hex xs ++ hashedTexts sha256Hex ys))
    (hXs : xs ≠ [])
    (hYs : ys ≠ []) :
    (build sha256Hex xs).root = (build sha256Hex ys).root ↔
      filled xs = filled ys := by
  rw [build_root_eq hXs, build_root_eq hYs, filled_eq hXs,
    filled_eq hYs, ← HashTree.treeOf_eq_iff hXs hYs]
  constructor
  · intro hDigest
    refine eq_of_treeDigest hHex hFree ?_ ?_ hDigest
    · intro text hText
      exact List.mem_append_left _
        (mem_hashedTexts_of_treeTexts hXs hText)
    · intro text hText
      exact List.mem_append_right _
        (mem_hashedTexts_of_treeTexts hYs hText)
  · intro hTree
    rw [hTree]

/-
  Two lists of event hashes have one root exactly when they
  are filled alike; one of them is then the start of the
  other, and lists of one length are equal.
-/
theorem root_eq_iff
    (sha256Hex : String → String)
    (xs ys : List String)
    (hHex : ∀ text, Text.IsHex 64 (sha256Hex text))
    (hFree :
      CollisionFree sha256Hex
        (hashedTexts sha256Hex xs ++
          hashedTexts sha256Hex ys)) :
    ((build sha256Hex xs).root = (build sha256Hex ys).root ↔
      filled xs = filled ys) ∧
      ((build sha256Hex xs).root = (build sha256Hex ys).root →
        (xs <+: ys ∨ ys <+: xs) ∧
          (xs.length = ys.length → xs = ys)) := by
  have hIff :
      (build sha256Hex xs).root = (build sha256Hex ys).root ↔
        filled xs = filled ys := by
    by_cases hXs : xs = []
    · by_cases hYs : ys = []
      · simp [hXs, hYs]
      · have hNe :=
          root_ne_empty hHex hFree
            (by simp [hXs, hashedTexts])
            (fun text hText => List.mem_append_right _ hText)
            hYs
        constructor
        · intro hRoot
          rw [← hRoot, hXs] at hNe
          exact absurd rfl hNe
        · intro hFilled
          rw [filled_eq_nil.mpr hXs] at hFilled
          exact absurd (filled_eq_nil.mp hFilled.symm) hYs
    · by_cases hYs : ys = []
      · have hNe :=
          root_ne_empty hHex hFree
            (by simp [hYs, hashedTexts])
            (fun text hText => List.mem_append_left _ hText)
            hXs
        constructor
        · intro hRoot
          rw [hRoot, hYs] at hNe
          exact absurd rfl hNe
        · intro hFilled
          rw [filled_eq_nil.mpr hYs] at hFilled
          exact absurd (filled_eq_nil.mp hFilled) hXs
      · exact root_eq_iff_of_ne_nil hHex hFree hXs hYs
  refine ⟨hIff, ?_⟩
  intro hRoot
  have hXs := isPrefix_filled xs
  have hYs := isPrefix_filled ys
  rw [hIff.mp hRoot] at hXs
  refine ⟨List.prefix_or_prefix_of_prefix hXs hYs, ?_⟩
  intro hLength
  have hPrefix : xs <+: ys :=
    List.prefix_of_prefix_length_le hXs hYs
      (Nat.le_of_eq hLength)
  exact hPrefix.eq_of_length hLength

/-
  SHA-256 on the texts of the trees below. Texts outside the
  table share a digest that none of them has.
-/
def tripleDigests : List (String × String) :=
  [("leaf|a",
    "a8e8b80a9094e00a6ecc05808f71dabf39f652cb1cb5b50b5f08d49250275de3"),
  ("leaf|b",
    "e83fbee03669af8bb982a8721c5add834e2fd0c9f4512e0fcd34d239a3e6ebc1"),
  ("leaf|c",
    "e98ca949b35ed46cf85c62420942188e0ee7f4dfe3dd08c4b0a4f48ae73345a1"),
  ("a8e8b80a9094e00a6ecc05808f71dabf39f652cb1cb5b50b5f08d49250275de3|" ++
      "e83fbee03669af8bb982a8721c5add834e2fd0c9f4512e0fcd34d239a3e6ebc1",
    "3bf352530963deca12224203a877ebe9494ceef133c1f19093c25e680e806ddb"),
  ("e98ca949b35ed46cf85c62420942188e0ee7f4dfe3dd08c4b0a4f48ae73345a1|" ++
      "e98ca949b35ed46cf85c62420942188e0ee7f4dfe3dd08c4b0a4f48ae73345a1",
    "8085d42b19ffed1e805beff8f216411c53f0eafbe1c13d9191c5a4ba39128a45"),
  ("3bf352530963deca12224203a877ebe9494ceef133c1f19093c25e680e806ddb|" ++
      "8085d42b19ffed1e805beff8f216411c53f0eafbe1c13d9191c5a4ba39128a45",
    "895732d9a234821be37092352ee3d042af2d8858a6aa78f0ebca7f706be788cb")]

def tripleDigest (text : String) : String :=
  (tripleDigests.lookup text).getD
    "ffffffffffffffffffffffffffffffffffffffffffffffffffffffffffffffff"

/- The table yields digests of 64 digits. -/
theorem isHex_tripleDigest
    (text : String) :
    Text.IsHex 64 (tripleDigest text) := by
  unfold tripleDigest
  cases hLookup : tripleDigests.lookup text with
  | none => exact Text.IsHex.ofList (by decide)
  | some digest =>
      have hAll :
          ∀ entry ∈ tripleDigests, Text.IsHex 64 entry.2 := by
        simp only [tripleDigests, List.forall_mem_cons]
        refine ⟨?_, ?_, ?_, ?_, ?_, ?_, by simp⟩ <;>
          exact Text.IsHex.ofList (by decide)
      rcases List.lookup_eq_some_iff.mp hLookup with
        ⟨front, back, hSplit, -⟩
      exact hAll (text, digest) (by rw [hSplit]; simp)

/- The digests of the table are those of one text each. -/
theorem tripleDigest_inj
    {text other : String}
    (hText : (tripleDigests.lookup text).isSome = true)
    (hOther : (tripleDigests.lookup other).isSome = true)
    (hEq : tripleDigest text = tripleDigest other) :
    text = other := by
  have hNodup :
      (tripleDigests.map (fun entry =>
        entry.2.toUTF8.data.toList.take 2)).Nodup := by
    decide
  rcases Option.isSome_iff_exists.mp hText with
    ⟨digest, hLookup⟩
  rcases Option.isSome_iff_exists.mp hOther with
    ⟨digest', hLookup'⟩
  rw [tripleDigest, tripleDigest, hLookup, hLookup',
    Option.getD_some, Option.getD_some] at hEq
  rcases List.lookup_eq_some_iff.mp hLookup with
    ⟨front, back, hSplit, -⟩
  rcases List.lookup_eq_some_iff.mp hLookup' with
    ⟨front', back', hSplit', -⟩
  have hMem : (text, digest) ∈ tripleDigests := by
    rw [hSplit]
    simp
  have hMem' : (other, digest') ∈ tripleDigests := by
    rw [hSplit']
    simp
  have hSame :=
    List.inj_on_of_nodup_map hNodup hMem hMem' (by
      simp only [hEq])
  exact congrArg Prod.fst hSame

/- The texts of the two trees have digests of their own. -/
theorem collisionFree_tripleDigest :
    CollisionFree tripleDigest
      (hashedTexts tripleDigest ["a", "b", "c"] ++
        hashedTexts tripleDigest ["a", "b", "c", "c"]) := by
  have hListed :
      ∀ text ∈
        hashedTexts tripleDigest ["a", "b", "c"] ++
          hashedTexts tripleDigest ["a", "b", "c", "c"],
        (tripleDigests.lookup text).isSome = true := by
    decide +kernel
  intro text hText other hOther
  exact tripleDigest_inj (hListed text hText)
    (hListed other hOther)

theorem filled_triple :
    filled ["a", "b", "c"] = filled ["a", "b", "c", "c"] := by
  decide +kernel

/-
  Three event hashes, and the same with the last repeated,
  have one root.
-/
theorem root_repeats_last :
    (∀ text, Text.IsHex 64 (tripleDigest text)) ∧
      CollisionFree tripleDigest
        (hashedTexts tripleDigest ["a", "b", "c"] ++
          hashedTexts tripleDigest ["a", "b", "c", "c"]) ∧
      ¬ ((build tripleDigest ["a", "b", "c"]).root =
          (build tripleDigest ["a", "b", "c", "c"]).root →
        ["a", "b", "c"] = ["a", "b", "c", "c"]) := by
  refine ⟨isHex_tripleDigest, collisionFree_tripleDigest, ?_⟩
  have hBoth :=
    root_eq_iff tripleDigest ["a", "b", "c"]
      ["a", "b", "c", "c"] isHex_tripleDigest
      collisionFree_tripleDigest
  intro hBinds
  exact absurd (hBinds (hBoth.1.mpr filled_triple)) (by decide)

/- Three hashes are filled to four, and so share their root. -/
theorem root_eq_iff_triple :
    (build tripleDigest ["a", "b", "c"]).root =
        (build tripleDigest ["a", "b", "c", "c"]).root ∧
      (["a", "b", "c"] <+: ["a", "b", "c", "c"] ∨
        ["a", "b", "c", "c"] <+: ["a", "b", "c"]) := by
  have hBoth :=
    root_eq_iff tripleDigest ["a", "b", "c"]
      ["a", "b", "c", "c"] isHex_tripleDigest
      collisionFree_tripleDigest
  have hRoot := hBoth.1.mpr filled_triple
  exact ⟨hRoot, (hBoth.2 hRoot).1⟩

end MerkleTree

end RegEngine
