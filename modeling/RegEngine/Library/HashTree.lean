import Mathlib.Data.List.Basic
import Mathlib.Tactic.Ring

/-
  Binary hash trees built layer by layer, and the paths that
  climb them.

  A tree is given by its leaf layer; the layer above hashes
  adjacent nodes in order and hashes an odd last node with
  itself. A path lists sibling digests from a node to the
  root.

  Main declarations:
    * `HashTree.nextLayer`
    * `HashTree.layers`
    * `HashTree.path`
-/

--------
-- Layers
--------

namespace HashTree

variable {δ : Type}

/-
  The layer above a layer of nodes.
-/
def nextLayer (node : δ → δ → δ) : List δ → List δ
| [] => []
| [x] => [node x x]
| x :: y :: rest => node x y :: nextLayer node rest

/- One layer up has half the nodes, rounded up. -/
theorem length_nextLayer
    (node : δ → δ → δ)
    (layer : List δ) :
    (nextLayer node layer).length =
      (layer.length + 1) / 2 := by
  induction layer using nextLayer.induct with
  | case1 => simp [nextLayer]
  | case2 x => simp [nextLayer]
  | case3 x y rest ih =>
      simp only [nextLayer, List.length_cons, ih]
      omega

/-
  All layers from `current` up to the layer that has a
  single node.
-/
def layers
    (node : δ → δ → δ)
    (current : List δ) :
    List (List δ) :=
  if 1 < current.length then
    current :: layers node (nextLayer node current)
  else
    [current]
termination_by current.length
decreasing_by
  rw [length_nextLayer]
  omega

variable {current : List δ} {node : δ → δ → δ}

theorem layers_of_lt
    (hLt : 1 < current.length) :
    layers node current =
      current :: layers node (nextLayer node current) := by
  rw [layers, if_pos hLt]

theorem layers_of_not_lt
    (hLt : ¬ 1 < current.length) :
    layers node current = [current] := by
  rw [layers, if_neg hLt]

theorem layers_ne_nil
    (node : δ → δ → δ)
    (current : List δ) :
    layers node current ≠ [] := by
  by_cases hLt : 1 < current.length
  · simp [layers_of_lt hLt]
  · simp [layers_of_not_lt hLt]

theorem mem_layers_self
    (node : δ → δ → δ)
    (current : List δ) :
    current ∈ layers node current := by
  by_cases hLt : 1 < current.length
  · simp [layers_of_lt hLt]
  · simp [layers_of_not_lt hLt]

/-
  Digests of every layer satisfy a property that the leaves
  have and hashing establishes.
-/
theorem forall_mem_layers
    {P : δ → Prop}
    (hNode : ∀ x y, P (node x y)) :
    ∀ (current : List δ),
      (∀ x ∈ current, P x) →
        ∀ layer ∈ layers node current, ∀ x ∈ layer, P x := by
  have hNext :
      ∀ current : List δ, ∀ x ∈ nextLayer node current,
        P x := by
    intro current
    induction current using nextLayer.induct with
    | case1 => simp [nextLayer]
    | case2 x => simp [nextLayer, hNode]
    | case3 x y rest ih =>
        intro z hz
        rcases List.mem_cons.mp hz with hHead | hTail
        · exact hHead ▸ hNode x y
        · exact ih z hTail
  intro current
  induction current using layers.induct node with
  | case1 current hLt ih =>
      intro hLeaves layer hLayer
      rw [layers_of_lt hLt] at hLayer
      rcases List.mem_cons.mp hLayer with hHead | hTail
      · exact hHead ▸ hLeaves
      · exact ih (hNext current) layer hTail
  | case2 current hLt =>
      intro hLeaves layer hLayer
      rw [layers_of_not_lt hLt] at hLayer
      exact List.mem_singleton.mp hLayer ▸ hLeaves

/- The single node of the top layer. -/
def rootOf
    [Inhabited δ]
    (node : δ → δ → δ)
    (current : List δ) : δ :=
  (((layers node current).getLast?).getD []).headD default

theorem rootOf_of_lt
    [Inhabited δ]
    (hLt : 1 < current.length) :
    rootOf node current =
      rootOf node (nextLayer node current) := by
  unfold rootOf
  rw [layers_of_lt hLt,
    List.getLast?_cons_of_ne_nil (layers_ne_nil _ _)]

theorem rootOf_of_not_lt
    [Inhabited δ]
    (hLt : ¬ 1 < current.length) :
    rootOf node current = current.headD default := by
  simp [rootOf, layers_of_not_lt hLt]

variable {layer : List δ}

/- A layer of several nodes has a layer above it. -/
theorem nextLayer_ne_nil
    (hLt : 1 < layer.length) :
    nextLayer node layer ≠ [] := by
  intro hNil
  have hLength := length_nextLayer node layer
  rw [hNil, List.length_nil] at hLength
  omega

/- The top layer has the root and no other node. -/
theorem getLast?_layers
    [Inhabited δ]
    (node : δ → δ → δ)
    (current : List δ)
    (hSome : current ≠ []) :
    (layers node current).getLast? =
      some [rootOf node current] := by
  induction current using layers.induct node with
  | case1 current hLt ih =>
      rw [layers_of_lt hLt, rootOf_of_lt hLt,
        List.getLast?_cons_of_ne_nil (layers_ne_nil _ _)]
      exact ih (nextLayer_ne_nil hLt)
  | case2 current hLt =>
      rw [layers_of_not_lt hLt, rootOf_of_not_lt hLt]
      cases current with
      | nil => exact absurd rfl hSome
      | cons root rest =>
          cases rest with
          | nil => rfl
          | cons next rest => simp at hLt

/-
  The node over position `k` hashes the nodes at `2k` and
  `2k + 1`, the first with itself when the second is absent.
-/
theorem getElem?_nextLayer
    (node : δ → δ → δ)
    (layer : List δ)
    (k : Nat) :
    (nextLayer node layer)[k]? =
      (layer[2 * k]?).map
        (fun x => node x ((layer[2 * k + 1]?).getD x)) := by
  induction layer using nextLayer.induct generalizing k with
  | case1 => simp [nextLayer]
  | case2 x =>
      cases k with
      | zero => simp [nextLayer]
      | succ k => simp [nextLayer, Nat.mul_succ]
  | case3 x y rest ih =>
      cases k with
      | zero => simp [nextLayer]
      | succ k =>
          simp [nextLayer, ih k, Nat.mul_succ]

/- A node of the next layer hashes two nodes of the layer. -/
theorem exists_of_mem_nextLayer
    {z : δ}
    (hMem : z ∈ nextLayer node layer) :
    ∃ x ∈ layer, ∃ y ∈ layer, z = node x y := by
  induction layer using nextLayer.induct with
  | case1 => simp [nextLayer] at hMem
  | case2 x =>
      have hEq : z = node x x := by
        simpa [nextLayer] using hMem
      exact ⟨x, by simp, x, by simp, hEq⟩
  | case3 x y rest ih =>
      rcases List.mem_cons.mp hMem with hHead | hTail
      · exact ⟨x, by simp, y, by simp, hHead⟩
      · rcases ih hTail with ⟨a, ha, b, hb, hEq⟩
        exact ⟨a, by simp [ha], b, by simp [hb], hEq⟩

end HashTree

--------
-- Climbing
--------

namespace HashTree

variable {δ : Type}

/- The side of the path node on which its sibling stands. -/
inductive Side where
  | left
  | right
  deriving DecidableEq, Repr

/- Hash a node with its sibling. -/
def climbStep
    (node : δ → δ → δ)
    (current : δ)
    (step : Side × δ) : δ :=
  match step.1 with
  | .left => node step.2 current
  | .right => node current step.2

/- Climb from a node along a list of siblings. -/
def climb
    (node : δ → δ → δ)
    (current : δ)
    (steps : List (Side × δ)) : δ :=
  steps.foldl (climbStep node) current

@[simp] theorem climb_nil
    (node : δ → δ → δ)
    (current : δ) :
    climb node current [] = current := rfl

@[simp] theorem climb_cons
    (node : δ → δ → δ)
    (current : δ)
    (step : Side × δ)
    (steps : List (Side × δ)) :
    climb node current (step :: steps) =
      climb node (climbStep node current step) steps := rfl

@[simp] theorem climb_append
    (node : δ → δ → δ)
    (current : δ)
    (lower upper : List (Side × δ)) :
    climb node current (lower ++ upper) =
      climb node (climb node current lower) upper := by
  simp [climb]

/-
  The sibling step of position `idx` in a layer. A last odd
  node is its own right sibling.
-/
def siblingStep
    [Inhabited δ]
    (layer : List δ)
    (idx : Nat) : Side × δ :=
  if idx % 2 = 0 then
    if idx + 1 < layer.length then
      (.right, layer.getD (idx + 1) default)
    else
      (.right, layer.getD idx default)
  else
    (.left, layer.getD (idx - 1) default)

/- The path of position `idx` through layers, bottom up. -/
def path
    [Inhabited δ] :
    List (List δ) → Nat → List (Side × δ)
| [], _ => []
| layer :: above, idx =>
    siblingStep layer idx :: path above (idx / 2)

/- One path step lands on the node of the next layer. -/
theorem climbStep_siblingStep
    [Inhabited δ]
    (node : δ → δ → δ)
    {layer : List δ}
    {idx : Nat}
    {x : δ}
    (hGet : layer[idx]? = some x) :
    (nextLayer node layer)[idx / 2]? =
      some (climbStep node x (siblingStep layer idx)) := by
  have hIdx : idx < layer.length := by
    exact (List.getElem?_eq_some_iff.mp hGet).1
  rw [getElem?_nextLayer]
  unfold siblingStep
  by_cases hEven : idx % 2 = 0
  · have hTwice : 2 * (idx / 2) = idx := by omega
    rw [hTwice, hGet, if_pos hEven]
    by_cases hNext : idx + 1 < layer.length
    · simp [climbStep, hNext]
    · simp [climbStep, hNext, List.getD, hGet]
  · have hTwice : 2 * (idx / 2) = idx - 1 := by omega
    have hOdd : 2 * (idx / 2) + 1 = idx := by omega
    have hPrev : idx - 1 < layer.length := by omega
    rw [hOdd, hTwice, hGet, if_neg hEven]
    simp [climbStep, List.getD, hPrev]

/-
  Climbing from a leaf along its own path reaches the root.
-/
theorem climb_path
    [Inhabited δ]
    (node : δ → δ → δ)
    (current : List δ) :
    ∀ (idx : Nat) (x : δ),
      current[idx]? = some x →
        climb node x
            (path (layers node current).dropLast idx) =
          rootOf node current := by
  induction current using layers.induct node with
  | case1 current hLt ih =>
      intro idx x hGet
      rw [layers_of_lt hLt,
        List.dropLast_cons_of_ne_nil (layers_ne_nil _ _),
        path, climb_cons, rootOf_of_lt hLt]
      exact ih (idx / 2) _ (climbStep_siblingStep node hGet)
  | case2 current hLt =>
      intro idx x hGet
      rw [layers_of_not_lt hLt, rootOf_of_not_lt hLt]
      have hIdx := (List.getElem?_eq_some_iff.mp hGet).1
      have hZero : idx = 0 := by omega
      subst hZero
      cases current with
      | nil => simp at hGet
      | cons y rest =>
          have hEq : y = x := by simpa using hGet
          simp [path, hEq]

/-
  A climb that ends at the root passes through the leaf
  layer. The start must not be a node above that layer, and
  a digest the climb has reached may hash to a node only
  from one of that node's own children.
-/
theorem exists_climb_mem_of_climb_eq_root
    [Inhabited δ]
    {node : δ → δ → δ}
    {start : δ}
    {steps : List (Side × δ)}
    (current : List δ)
    (hNonempty : current ≠ [])
    (hStart :
      ∀ lower ∈ layers node current,
        1 < lower.length → start ∉ nextLayer node lower)
    (hInvert :
      ∀ lower ∈ layers node current,
        1 < lower.length →
          ∀ done step,
            climbStep node (climb node start done) step ∈
                nextLayer node lower →
              climb node start done ∈ lower)
    (hRoot : climb node start steps = rootOf node current) :
    ∃ done rest,
      steps = done ++ rest ∧
        climb node start done ∈ current := by
  induction current using layers.induct node with
  | case1 current hLt ih =>
      have hUp :
          ∀ lower ∈ layers node (nextLayer node current),
            lower ∈ layers node current := by
        intro lower hLower
        rw [layers_of_lt hLt]
        exact List.mem_cons_of_mem _ hLower
      have hNextNonempty : nextLayer node current ≠ [] := by
        intro hNil
        have hLength := length_nextLayer node current
        rw [hNil, List.length_nil] at hLength
        omega
      rcases ih hNextNonempty
          (fun lower hLower =>
            hStart lower (hUp lower hLower))
          (fun lower hLower =>
            hInvert lower (hUp lower hLower))
          (by rw [hRoot, rootOf_of_lt hLt]) with
        ⟨done, rest, hSteps, hMem⟩
      rcases List.eq_nil_or_concat done with
        hNil | ⟨before, step, hConcat⟩
      · subst hNil
        exact absurd hMem
          (hStart current (mem_layers_self _ _) hLt)
      · rw [List.concat_eq_append] at hConcat
        refine ⟨before, step :: rest, ?_, ?_⟩
        · rw [hSteps, hConcat, List.append_assoc,
            List.singleton_append]
        · rw [hConcat, climb_append] at hMem
          exact hInvert current (mem_layers_self _ _) hLt
            before step hMem
  | case2 current hLt =>
      rw [rootOf_of_not_lt hLt] at hRoot
      refine ⟨steps, [], by simp, ?_⟩
      rw [hRoot]
      cases current with
      | nil => exact absurd rfl hNonempty
      | cons x rest => simp

end HashTree
