import RegEngine.Library.HashTree
import RegEngine.Library.Text

/-
  The Merkle tree over the event hashes of a tenant's
  ledger (`services/shared/merkle_tree.py`).

  `sha256Hex` stands for `hashlib.sha256(...).hexdigest()`
  of a UTF-8 encoded text.

  Main declarations:
    * `MerkleTree.hashLeaf`
    * `MerkleTree.hashPair`
    * `MerkleTree.build`
    * `MerkleTree.verifyProof`
-/

--------
-- Node Digests
--------

namespace RegEngine

namespace MerkleTree

/- `_hash_pair`: children hashed in positional order. -/
def hashPair
    (sha256Hex : String → String)
    (left right : String) : String :=
  sha256Hex (left ++ "|" ++ right)

/- `_hash_leaf`: an event hash under the leaf tag. -/
def hashLeaf
    (sha256Hex : String → String)
    (eventHash : String) : String :=
  sha256Hex ("leaf|" ++ eventHash)

end MerkleTree

end RegEngine

--------
-- Construction
--------

namespace RegEngine

/- The attributes `MerkleTree.__init__` sets. -/
structure MerkleTree where
  layers : List (List String)
  root : String
  leafCount : Nat

namespace MerkleTree

/- An odd layer of several leaves repeats its last leaf. -/
def padLeaves (leaves : List String) : List String :=
  if leaves.length % 2 = 1 ∧ 1 < leaves.length then
    leaves ++ [leaves.getLastD ""]
  else
    leaves

/- `MerkleTree.__init__` followed by `_build`. -/
def build
    (sha256Hex : String → String)
    (hashes : List String) : MerkleTree :=
  if hashes.isEmpty then
    { layers := []
      root := sha256Hex "empty"
      leafCount := 0 }
  else
    let leaves :=
      padLeaves (hashes.map (hashLeaf sha256Hex))
    { layers := HashTree.layers (hashPair sha256Hex) leaves
      root := HashTree.rootOf (hashPair sha256Hex) leaves
      leafCount := hashes.length }

--------
-- Proofs
--------

/-
  One step of an inclusion proof. The verifier reads every
  position other than `"right"` as left.
-/
structure ProofStep where
  position : String
  hash : String
  deriving DecidableEq, Repr

def ProofStep.sibling
    (step : ProofStep) : HashTree.Side × String :=
  if step.position = "right" then
    (.right, step.hash)
  else
    (.left, step.hash)

def ProofStep.ofSibling
    (sibling : HashTree.Side × String) : ProofStep :=
  match sibling with
  | (.right, hash) => ⟨"right", hash⟩
  | (.left, hash) => ⟨"left", hash⟩

/- `generate_proof`, with `none` for its `IndexError`. -/
def generateProof
    (tree : MerkleTree)
    (index : Nat) : Option (List ProofStep) :=
  if index < tree.leafCount then
    some ((HashTree.path tree.layers.dropLast index).map
      ProofStep.ofSibling)
  else
    none

/- The digest `verify_proof` compares with the root. -/
def proofDigest
    (sha256Hex : String → String)
    (eventHash : String)
    (proof : List ProofStep) : String :=
  HashTree.climb (hashPair sha256Hex)
    (hashLeaf sha256Hex eventHash)
    (proof.map ProofStep.sibling)

/- `verify_proof`. -/
def verifyProof
    (sha256Hex : String → String)
    (eventHash : String)
    (proof : List ProofStep)
    (root : String) : Bool :=
  proofDigest sha256Hex eventHash proof == root

@[simp] theorem ProofStep.sibling_ofSibling
    (sibling : HashTree.Side × String) :
    (ProofStep.ofSibling sibling).sibling = sibling := by
  rcases sibling with ⟨side, hash⟩
  cases side <;> simp [ofSibling, ProofStep.sibling]

end MerkleTree

end RegEngine
