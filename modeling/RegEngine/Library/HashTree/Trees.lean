import RegEngine.Library.HashTree

/-
  The trees that the layers of a hash tree stand for, without
  hashing. Every digest of a layer is the digest of a tree, so
  two roots can be compared node by node.

  Main declarations:
    * `HashTree.Tree`
    * `HashTree.Tree.Perfect`
    * `HashTree.rootOf_map`
-/

--------
-- Trees
--------

namespace HashTree

/- A binary tree with its data at the leaves. -/
inductive Tree (α : Type) where
  | leaf (a : α)
  | node (left right : Tree α)

namespace Tree

variable {α δ : Type}

instance [Inhabited α] : Inhabited (Tree α) :=
  ⟨.leaf default⟩

/- The data of a tree from left to right. -/
def leaves : Tree α → List α
| leaf a => [a]
| node left right => left.leaves ++ right.leaves

def digest
    (hashLeaf : α → δ)
    (hashNode : δ → δ → δ) : Tree α → δ
| leaf a => hashLeaf a
| node left right =>
    hashNode (left.digest hashLeaf hashNode)
      (right.digest hashLeaf hashNode)

/- All leaves are at one depth. -/
def Perfect : Nat → Tree α → Prop
| 0, leaf _ => True
| height + 1, node left right =>
    Perfect height left ∧ Perfect height right
| _, _ => False

variable {height : Nat}

/- The number of leaves of a perfect tree. -/
theorem Perfect.length_leaves
    {tree : Tree α}
    (hPerfect : Perfect height tree) :
    tree.leaves.length = 2 ^ height := by
  induction tree generalizing height with
  | leaf a =>
      cases height with
      | zero => rfl
      | succ height => exact absurd hPerfect (by simp [Perfect])
  | node left right ihLeft ihRight =>
      cases height with
      | zero => exact absurd hPerfect (by simp [Perfect])
      | succ height =>
          rw [leaves, List.length_append,
            ihLeft hPerfect.1, ihRight hPerfect.2]
          ring

/- Perfect trees of one height are told by their leaves. -/
theorem Perfect.eq_of_leaves
    {tree other : Tree α}
    (hTree : Perfect height tree)
    (hOther : Perfect height other)
    (hLeaves : tree.leaves = other.leaves) :
    tree = other := by
  induction tree generalizing height other with
  | leaf a =>
      cases height with
      | succ height => exact absurd hTree (by simp [Perfect])
      | zero =>
          cases other with
          | node left right =>
              exact absurd hOther (by simp [Perfect])
          | leaf b =>
              rw [List.singleton_inj.mp hLeaves]
  | node left right ihLeft ihRight =>
      cases height with
      | zero => exact absurd hTree (by simp [Perfect])
      | succ height =>
          cases other with
          | leaf b => exact absurd hOther (by simp [Perfect])
          | node left' right' =>
              have hLength :
                  left.leaves.length = left'.leaves.length := by
                rw [hTree.1.length_leaves,
                  hOther.1.length_leaves]
              have hSides := List.append_inj hLeaves hLength
              rw [ihLeft hTree.1 hOther.1 hSides.1,
                ihRight hTree.2 hOther.2 hSides.2]

end Tree

end HashTree

--------
-- Layers Of Trees
--------

namespace HashTree

variable {α δ γ : Type} {node : δ → δ → δ}
variable {f : δ → γ} {node' : γ → γ → γ} {current : List δ}

/- Mapping commutes with the step to the next layer. -/
theorem nextLayer_map
    (hNode : ∀ x y, f (node x y) = node' (f x) (f y))
    (layer : List δ) :
    nextLayer node' (layer.map f) =
      (nextLayer node layer).map f := by
  induction layer using nextLayer.induct with
  | case1 => rfl
  | case2 x => simp [nextLayer, hNode]
  | case3 x y rest ih => simp [nextLayer, hNode, ih]

/- Mapping commutes with taking the root. -/
theorem rootOf_map
    [Inhabited δ]
    [Inhabited γ]
    (hNode : ∀ x y, f (node x y) = node' (f x) (f y))
    (hNe : current ≠ []) :
    rootOf node' (current.map f) = f (rootOf node current) := by
  induction current using layers.induct node with
  | case1 current hLt ih =>
      rw [rootOf_of_lt hLt, rootOf_of_lt (by simpa using hLt),
        nextLayer_map hNode]
      exact ih (nextLayer_ne_nil hLt)
  | case2 current hLt =>
      rw [rootOf_of_not_lt hLt,
        rootOf_of_not_lt (by simpa using hLt)]
      cases current with
      | nil => exact absurd rfl hNe
      | cons x rest => rfl

/- What the first layer has and hashing keeps, the root has. -/
theorem rootOf_induction
    [Inhabited δ]
    {P : List δ → Prop}
    (hNext :
      ∀ layer, 1 < layer.length → P layer →
        P (nextLayer node layer))
    (hNe : current ≠ [])
    (hCurrent : P current) :
    P [rootOf node current] := by
  induction current using layers.induct node with
  | case1 current hLt ih =>
      rw [rootOf_of_lt hLt]
      exact ih (nextLayer_ne_nil hLt)
        (hNext current hLt hCurrent)
  | case2 current hLt =>
      rw [rootOf_of_not_lt hLt]
      cases current with
      | nil => exact absurd rfl hNe
      | cons x rest =>
          cases rest with
          | nil => exact hCurrent
          | cons y rest => simp at hLt

/- An odd last node is hashed as if it stood there twice. -/
theorem nextLayer_concat_last
    (node : δ → δ → δ)
    (x : δ)
    (layer : List δ)
    (hEven : layer.length % 2 = 0) :
    nextLayer node (layer ++ [x] ++ [x]) =
      nextLayer node (layer ++ [x]) := by
  induction layer using nextLayer.induct with
  | case1 => rfl
  | case2 y => simp at hEven
  | case3 y z rest ih =>
      simp only [List.length_cons] at hEven
      simp only [List.cons_append, nextLayer]
      rw [ih (by omega)]

theorem flatMap_leaves_nextLayer
    (layer : List (Tree α)) :
    layer.flatMap Tree.leaves <+:
      (nextLayer Tree.node layer).flatMap Tree.leaves := by
  induction layer using nextLayer.induct with
  | case1 => simp [nextLayer]
  | case2 x => simp [nextLayer, Tree.leaves]
  | case3 x y rest ih =>
      simpa [nextLayer, Tree.leaves] using ih

end HashTree

--------
-- The Tree Of A List
--------

namespace HashTree

variable {α δ : Type} [Inhabited α]

/- The tree over a list of data. -/
def treeOf (data : List α) : Tree α :=
  rootOf Tree.node (data.map Tree.leaf)

/- The root over hashed data is the digest of its tree. -/
theorem rootOf_eq_digest
    [Inhabited δ]
    (hashLeaf : α → δ)
    (hashNode : δ → δ → δ)
    {data : List α}
    (hNe : data ≠ []) :
    rootOf hashNode (data.map hashLeaf) =
      (treeOf data).digest hashLeaf hashNode := by
  have hRoot :
      rootOf hashNode
          ((data.map Tree.leaf).map
            (Tree.digest hashLeaf hashNode)) =
        (treeOf data).digest hashLeaf hashNode :=
    rootOf_map (fun _ _ => rfl) (by simpa using hNe)
  rw [← hRoot, List.map_map]
  rfl

/- The leaves of a tree, with those of doubled nodes twice. -/
theorem leaves_treeOf
    {data : List α}
    (hNe : data ≠ []) :
    (treeOf data).leaves =
      rootOf (· ++ ·) (data.map (fun a => [a])) := by
  have hRoot :
      rootOf (· ++ ·)
          ((data.map Tree.leaf).map Tree.leaves) =
        (treeOf data).leaves :=
    rootOf_map (fun _ _ => rfl) (by simpa using hNe)
  rw [← hRoot, List.map_map]
  rfl

theorem exists_perfect_treeOf
    {data : List α}
    (hNe : data ≠ []) :
    ∃ height, (treeOf data).Perfect height := by
  have hAll :
      ∃ height, ∀ tree ∈ [treeOf data],
        Tree.Perfect height tree := by
    refine rootOf_induction
      (P := fun layer => ∃ height, ∀ tree ∈ layer,
        Tree.Perfect height tree) ?_ (by simpa using hNe) ?_
    · rintro layer - ⟨height, hPerfect⟩
      refine ⟨height + 1, ?_⟩
      intro tree hTree
      rcases exists_of_mem_nextLayer hTree with
        ⟨left, hLeft, right, hRight, hEq⟩
      rw [hEq]
      exact ⟨hPerfect left hLeft, hPerfect right hRight⟩
    · refine ⟨0, ?_⟩
      intro tree hTree
      rcases List.mem_map.mp hTree with ⟨a, -, hEq⟩
      rw [← hEq]
      trivial
  rcases hAll with ⟨height, hPerfect⟩
  exact ⟨height, hPerfect _ (by simp)⟩

/- Trees of lists are told by their leaves. -/
theorem treeOf_eq_iff
    {data other : List α}
    (hNe : data ≠ [])
    (hNe' : other ≠ []) :
    treeOf data = treeOf other ↔
      (treeOf data).leaves = (treeOf other).leaves := by
  constructor
  · intro hEq
    rw [hEq]
  · intro hLeaves
    rcases exists_perfect_treeOf hNe with ⟨height, hTree⟩
    rcases exists_perfect_treeOf hNe' with ⟨height', hOther⟩
    have hHeight : height = height' := by
      apply Nat.pow_right_injective (Nat.le_refl 2)
      change 2 ^ height = 2 ^ height'
      rw [← hTree.length_leaves, ← hOther.length_leaves,
        hLeaves]
    rw [hHeight] at hTree
    exact hTree.eq_of_leaves hOther hLeaves

/- The data stand in front of the leaves of their tree. -/
theorem isPrefix_leaves_treeOf
    {data : List α}
    (hNe : data ≠ []) :
    data <+: (treeOf data).leaves := by
  have hAll :
      data <+: [treeOf data].flatMap Tree.leaves := by
    refine rootOf_induction
      (P := fun layer => data <+: layer.flatMap Tree.leaves)
      ?_ (by simpa using hNe) ?_
    · intro layer _ hLayer
      exact hLayer.trans (flatMap_leaves_nextLayer layer)
    · rw [List.flatMap_map]
      simp [Tree.leaves]
  simpa using hAll

end HashTree
