import RegEngine.Sdk.VerifyChain
import RegEngine.Shared.MerkleTree

/-
  The public proof verification endpoint on an uploaded bundle
  (`services/ingestion/app/proof_verify_router.py`).

  Main declarations:
    * `ProofVerify.safeZipMember`
    * `ProofVerify.verifyPayload`
    * `ProofVerify.verifiers_agree_iff`
-/

--------
-- Answers
--------

namespace RegEngine

open Python Codec

namespace ProofVerify

/- `VerifyCheck`, without its detail text. -/
structure VerifyCheck where
  name : String
  passed : Bool
  deriving DecidableEq, Repr

/- `VerifyResponse`, without its timestamp. -/
structure VerifyResponse where
  verified : Bool
  checks : List VerifyCheck
  merkleRootRecomputed : String
  deriving DecidableEq, Repr

/- The response to a list of checks. -/
def respond
    (checks : List VerifyCheck)
    (root : String) : VerifyResponse :=
  ⟨checks.all VerifyCheck.passed, checks, root⟩

/-
  How a request ends without a response: with an
  `HTTPException`, or with an exception that is not caught.
-/
inductive Stop where
  | http (status : Nat)
  | raised
  deriving DecidableEq, Repr

abbrev Answer := Except Stop

/- `raise HTTPException(status)` unless the condition holds. -/
def ensure (condition : Bool) (status : Nat) : Answer Unit :=
  if condition then .ok () else .error (.http status)

/- A condition is passed when it holds. -/
theorem ensure_eq_ok
    {condition : Bool}
    {status : Nat}
    {u : Unit} :
    ensure condition status = .ok u ↔ condition = true := by
  cases condition <;> simp [ensure]

/-
  `json.loads(data.decode("utf-8"))`, where text that is no
  JSON and bytes that are no text answer 400.
-/
def loadsOr400
    (decoder : List Nat → Except ReadError Value)
    (bytes : List UInt8) : Answer Value :=
  match loadsUtf8 decoder bytes with
  | .ok value => .ok value
  | .error .other => .error .raised
  | .error _ => .error (.http 400)

/- `MAX_BUNDLE_BYTES`. -/
def maxBundleBytes : Nat := 5 * 1024 * 1024

/- `MAX_DECOMPRESSED_BYTES`. -/
def maxDecompressedBytes : Nat := 25 * 1024 * 1024

/- `MAX_ZIP_ENTRIES`. -/
def maxZipEntries : Nat := 64

/- `_is_sha256_hex`. -/
def isSha256Hex : Value → Bool
| .str value => decide (Text.IsHex 64 value)
| _ => false

/- `_safe_zip_member`. -/
def safeZipMember (name : String) : Bool :=
  let backslash := Char.ofNat 92
  let parts :=
    (name.toList.map (fun c => if c = backslash then '/' else c)
      ).splitOn '/'
  !name.toList.isEmpty &&
    name.toList.getLast? != some '/' &&
    name.toList.head? != some '/' &&
    name.toList.head? != some backslash &&
    !parts.contains ['.', '.'] &&
    !name.toList.contains ':'

/- An unsafe name includes the empty one. -/
theorem ne_empty_of_safeZipMember
    {name : String}
    (hSafe : safeZipMember name = true) :
    name ≠ "" := by
  rintro rfl
  simp [safeZipMember] at hSafe

/- The digest of a text. -/
def sha256Hex
    (sha256 : List UInt8 → String)
    (text : String) : String :=
  sha256 (VerifyChain.encode text)

--------
-- Event Payloads
--------

/- `first or second`. -/
def orElse (first second : Value) : Value :=
  if first.truthy then first else second

/-
  `_extract_event_hashes`: `none` is its `ValueError`, and an
  event that is no object raises.
-/
def extractEventHashes (events : List Value) :
    Answer (Option (List String)) :=
  match events with
  | [] => .ok (some [])
  | .dict event :: rest =>
      let hash :=
        orElse
          (orElse (Dict.get event "event_hash")
            (Dict.get event "sha256_hash"))
          (Dict.get event "hash")
      match hash with
      | .str text =>
          if isSha256Hex hash then do
            let hashes ← extractEventHashes rest
            .ok (hashes.map (fun hashes => text :: hashes))
          else
            .ok none
      | _ => .ok none
  | _ :: _ => .error .raised

/- The check of a declared root against the recomputed one. -/
def rootCheck
    (declaredRoot : Value)
    (recomputed : String) : VerifyCheck :=
  ⟨"merkle_root_matches_declared",
    isSha256Hex declaredRoot && declaredRoot.isText recomputed⟩

/- `_verify_payload`. -/
def verifyPayload
    (sha256 : List UInt8 → String)
    (manifest : Dict)
    (events declaredRoot : Value)
    (extraChecks : List VerifyCheck) : Answer VerifyResponse :=
  match events with
  | .list (event :: events) => do
      let checks := extraChecks ++ [⟨"events_present", true⟩]
      match ← extractEventHashes (event :: events) with
      | none =>
          .ok (respond
            (checks ++ [⟨"event_hashes_well_formed", false⟩]) "")
      | some hashes =>
          let recomputed :=
            (MerkleTree.build (sha256Hex sha256) hashes).root
          let wellFormed :=
            if manifest.isEmpty then []
            else [⟨"manifest_well_formed",
              (Dict.get manifest "version").truthy⟩]
          .ok (respond
            (checks ++ [⟨"event_hashes_well_formed", true⟩,
              rootCheck declaredRoot recomputed] ++ wellFormed)
            recomputed)
  | _ =>
      .ok (respond
        (extraChecks ++ [⟨"events_present", false⟩]) "")

--------
-- Manifest File Bundles
--------

/-
  The lists the loop over `files` fills. An entry that is not
  well formed is kept by its index.
-/
structure Tally where
  badEntries : List Nat
  missing : List String
  mismatched : List String
  sizeMismatched : List String
  recomputed : List String
  deriving DecidableEq, Repr

def Tally.empty : Tally :=
  ⟨[], [], [], [], []⟩

/- A tally with nothing to complain about. -/
def Tally.clean (tally : Tally) : Bool :=
  tally.badEntries.isEmpty && tally.missing.isEmpty &&
    tally.mismatched.isEmpty && tally.sizeMismatched.isEmpty

/- A file that is present, against the entry's size and hash. -/
def tallyFile
    (sha256 : List UInt8 → String)
    (tally : Tally)
    (fields : Dict)
    (path : String)
    (data : List UInt8) : Tally :=
  let declaredSize := Dict.get fields "size"
  let sizeMismatched :=
    if !declaredSize.isNone &&
        !declaredSize.isCount data.length then
      tally.sizeMismatched ++ [path]
    else
      tally.sizeMismatched
  let mismatched :=
    if (Dict.get fields "sha256").isText (sha256 data) then
      tally.mismatched
    else
      tally.mismatched ++ [path]
  { tally with
    sizeMismatched := sizeMismatched
    recomputed := tally.recomputed ++ [sha256 data]
    mismatched := mismatched }

/- One round of the loop over `files`. -/
def tallyEntry
    (sha256 : List UInt8 → String)
    (bundle : Archive)
    (tally : Tally)
    (entry : Value × Nat) : Tally :=
  let bad :=
    { tally with badEntries := tally.badEntries ++ [entry.2] }
  match entry.1 with
  | .dict fields =>
      match Dict.get fields "path" with
      | .str path =>
          if !safeZipMember path ||
              !isSha256Hex (Dict.get fields "sha256") then
            bad
          else
            match bundle.read path with
            | none =>
                { tally with missing := tally.missing ++ [path] }
            | some data =>
                tallyFile sha256 tally fields path data
      | _ => bad
  | _ => bad

/- The loop over `files`. -/
def tallyFiles
    (sha256 : List UInt8 → String)
    (bundle : Archive)
    (files : List Value) : Tally :=
  files.zipIdx.foldl (tallyEntry sha256 bundle) Tally.empty

/- `declared_root`: the root where it is a text, else none. -/
def declaredRoot (manifest : Dict) : Value :=
  match Dict.get manifest "merkle" with
  | .dict merkle => .ofOption (Dict.get merkle "root").str?
  | _ => .none

/- The check of the declared leaves, where they are a list. -/
def leafChecks
    (manifest : Dict)
    (recomputed : List String) : List VerifyCheck :=
  match Dict.get manifest "merkle" with
  | .dict merkle =>
      match Dict.get merkle "leaves" with
      | .list leaves =>
          [⟨"manifest_merkle_leaves_match_files",
            (Value.list leaves).isTexts recomputed⟩]
      | _ => []
  | _ => []

/-
  The chain metadata of an FDA package, `none` where there is a
  `metadata_error`.
-/
def readMetadata
    (decoder : List Nat → Except ReadError Value)
    (bundle : Archive)
    (manifest : Dict)
    (files : List Value) : Answer (Option ChainMetadata) :=
  match Dict.get manifest "verification", chainPaths files with
  | .dict verification, [path] =>
      match bundle.read path with
      | none => .ok none
      | some bytes =>
          match loadsUtf8 decoder bytes with
          | .ok artifact =>
              .ok (ChainMetadata.ofArtifact verification
                artifact)
          | .error .other => .error .raised
          | .error _ => .ok none
  | _, _ => .ok none

/- The two checks of an FDA package. -/
def packageChecks
    (metadata : Option ChainMetadata) : List VerifyCheck :=
  let consistent := metadata.any ChainMetadata.consistent
  let acceptable :=
    consistent && metadata.any (fun data =>
      data.status.isText "VERIFIED" ||
        data.status.isText "PARTIAL")
  [⟨"package_chain_metadata_consistent", consistent⟩,
    ⟨"package_persisted_chain_acceptable", acceptable⟩]

/- `recomputed_root`. -/
def recomputedRoot
    (sha256 : List UInt8 → String)
    (recomputed : List String) : String :=
  if recomputed.isEmpty then ""
  else (MerkleTree.build (sha256Hex sha256) recomputed).root

/- The checks of every bundle whose manifest has `files`. -/
def fileChecks
    (sha256 : List UInt8 → String)
    (bundle : Archive)
    (manifest : Dict)
    (files : List Value) : List VerifyCheck :=
  let tally := tallyFiles sha256 bundle files
  [⟨"manifest_files_present", true⟩,
      ⟨"manifest_covers_bundle_members",
        decide (declaredPaths files).Nodup &&
          bundle.namelist.all (fun name =>
            name == "manifest.json" ||
              (declaredPaths files).contains name)⟩,
      ⟨"manifest_file_entries_well_formed",
        tally.badEntries.isEmpty && tally.missing.isEmpty⟩,
      ⟨"file_hashes_match_manifest",
        tally.mismatched.isEmpty &&
          tally.sizeMismatched.isEmpty⟩] ++
    leafChecks manifest tally.recomputed ++
    [rootCheck (declaredRoot manifest)
        (recomputedRoot sha256 tally.recomputed),
      ⟨"manifest_well_formed",
        (Dict.get manifest "version").truthy⟩]

/-
  `_verify_manifest_file_bundle`; `none` where the manifest
  has no `files`.
-/
def verifyManifestFileBundle
    (sha256 : List UInt8 → String)
    (decoder : List Nat → Except ReadError Value)
    (bundle : Archive)
    (manifest : Dict)
    (extraChecks : List VerifyCheck) :
    Answer (Option VerifyResponse) :=
  match Dict.get manifest "files" with
  | .list (file :: rest) =>
      let files := file :: rest
      let checks :=
        extraChecks ++ fileChecks sha256 bundle manifest files
      let root :=
        recomputedRoot sha256
          (tallyFiles sha256 bundle files).recomputed
      if isFdaPackage manifest files then do
        let metadata ←
          readMetadata decoder bundle manifest files
        .ok (some
          (respond (checks ++ packageChecks metadata) root))
      else
        .ok (some (respond checks root))
  | _ => .ok none

--------
-- Uploaded Bundles
--------

/-
  The checks of the older manifest shape, `file_hashes`, which
  must cover the payload members exactly.
-/
def fileHashChecks
    (sha256 : List UInt8 → String)
    (bundle : Archive)
    (manifest : Dict) : List VerifyCheck :=
  let payload :=
    bundle.namelist.filter (fun name => name != "manifest.json")
  let check (covers : Bool) (fileHashes : Dict) :=
    let mismatched :=
      fileHashes.filter (fun entry =>
        payload.contains entry.1 && isSha256Hex entry.2 &&
          !(bundle.read entry.1).any (fun data =>
            entry.2.isText (sha256 data)))
    [(⟨"manifest_covers_bundle_members", covers⟩ : VerifyCheck),
      ⟨"file_hashes_match_manifest", mismatched.isEmpty⟩]
  let covers (fileHashes : Dict) :=
    fileHashes.all (fun entry =>
        safeZipMember entry.1 && isSha256Hex entry.2 &&
          payload.contains entry.1) &&
      payload.all (fun name => Dict.has fileHashes name)
  match Dict.get manifest "file_hashes" with
  | .none => check (covers []) []
  | .dict fileHashes => check (covers fileHashes) fileHashes
  | _ => check false []

/- The first chain artifact of a bundle, where there is one. -/
def readChainFile
    (decoder : List Nat → Except ReadError Value)
    (bundle : Archive) : Answer (Option Dict) :=
  match bundle.namelist.find? (fun name =>
      "chain_verification".toList.isPrefixOf name.toList &&
        ".json".toList.isSuffixOf name.toList) with
  | none => .ok none
  | some name => do
      match ← loadsOr400 decoder ((bundle.read name).getD []) with
      | .dict payload => .ok (some payload)
      | _ => .error (.http 400)

/- `value.get("merkle_root") if isinstance(value, dict)`. -/
def merkleRootOf : Value → Value
| .dict entries => Dict.get entries "merkle_root"
| _ => .none

/- The path of a bundle whose manifest has no `files`. -/
def verifyFileHashes
    (sha256 : List UInt8 → String)
    (decoder : List Nat → Except ReadError Value)
    (bundle : Archive)
    (manifest : Dict)
    (extra : List VerifyCheck) : Answer VerifyResponse := do
  let chain ← readChainFile decoder bundle
  let chainPayload := chain.getD []
  let chainEvents :=
    orElse (Dict.get chainPayload "events") (.list [])
  let chainRoot :=
    orElse (Dict.get chainPayload "merkle_root")
      (merkleRootOf (Dict.get chainPayload "chain_verification"))
  let events :=
    orElse chainEvents
      (orElse (Dict.get manifest "events") (.list []))
  let declaredRoot :=
    orElse chainRoot
      (orElse (Dict.get manifest "merkle_root")
        (merkleRootOf (Dict.get manifest "summary")))
  verifyPayload sha256 manifest events declaredRoot
    (extra ++ fileHashChecks sha256 bundle manifest)

/-
  `_verify_zip_bundle` on an upload of `rawSize` bytes; `none`
  is a malformed archive.
-/
def verifyZipBundle
    (sha256 : List UInt8 → String)
    (decoder : List Nat → Except ReadError Value)
    (rawSize : Nat)
    (archive : Option Archive) : Answer VerifyResponse := do
  ensure (rawSize ≤ maxBundleBytes) 413
  match archive with
  | none => .error (.http 400)
  | some bundle => do
      let total :=
        (bundle.members.map (fun member =>
          member.2.length)).sum
      ensure (bundle.members.length ≤ maxZipEntries) 400
      ensure (decide bundle.namelist.Nodup) 400
      ensure (bundle.namelist.all safeZipMember) 400
      ensure (total ≤ maxDecompressedBytes) 400
      match bundle.read "manifest.json" with
      | none => .error (.http 400)
      | some bytes => do
          match ← loadsOr400 decoder bytes with
          | .dict manifest => do
              let extra := [⟨"zip_structure", true⟩]
              match ← verifyManifestFileBundle sha256 decoder
                  bundle manifest extra with
              | some response => .ok response
              | none =>
                  verifyFileHashes sha256 decoder bundle
                    manifest extra
          | _ => .error (.http 400)

end ProofVerify

end RegEngine

--------
-- The Two Merkle Roots
--------

namespace RegEngine

namespace VerifyChain

variable {sha256 : List UInt8 → String}

/- A round of the downloadable verifier is a layer up. -/
theorem nextRound_eq
    (layer : List String) :
    nextRound sha256 layer =
      HashTree.nextLayer
        (MerkleTree.hashPair (ProofVerify.sha256Hex sha256))
        layer := by
  fun_induction nextRound sha256 layer with
  | case1 => rfl
  | case2 left => rfl
  | case3 left right rest ih =>
      rw [HashTree.nextLayer, ih]
      rfl

/- Its loop ends at the root of the layer. -/
theorem reduceLayer_eq
    (layer : List String) :
    reduceLayer sha256 layer =
      HashTree.rootOf
        (MerkleTree.hashPair (ProofVerify.sha256Hex sha256))
        layer := by
  fun_induction reduceLayer sha256 layer with
  | case1 layer hLt ih =>
      rw [ih, nextRound_eq, ← HashTree.rootOf_of_lt hLt]
  | case2 layer hLt =>
      rw [HashTree.rootOf_of_not_lt hLt]
      rfl

/- The verifier's root is the root of the production tree. -/
theorem merkleRoot_eq
    (fileHashes : List String) :
    merkleRoot sha256 fileHashes =
      (MerkleTree.build (ProofVerify.sha256Hex sha256)
        fileHashes).root := by
  have hLeaf :
      hashLeaf sha256 =
        MerkleTree.hashLeaf (ProofVerify.sha256Hex sha256) :=
    rfl
  unfold merkleRoot MerkleTree.build
  split
  · rfl
  · simp only [MerkleTree.padLeaves, ← hLeaf]
    split <;> exact reduceLayer_eq _

/-
  `_merkle_root` is the root that `_build` leaves: the digest
  of `empty` where there is nothing to build, else the only
  node of the last layer.
-/
theorem merkleRoot_eq_root
    (fileHashes : List String) :
    merkleRoot sha256 fileHashes =
        (MerkleTree.build (ProofVerify.sha256Hex sha256)
          fileHashes).root ∧
      (fileHashes = [] →
        (MerkleTree.build (ProofVerify.sha256Hex sha256)
          fileHashes).layers = [] ∧
        merkleRoot sha256 fileHashes =
          ProofVerify.sha256Hex sha256 "empty") ∧
      (fileHashes ≠ [] →
        (MerkleTree.build (ProofVerify.sha256Hex sha256)
          fileHashes).layers.getLast? =
            some [merkleRoot sha256 fileHashes]) := by
  have hRoot :
      merkleRoot sha256 fileHashes =
        (MerkleTree.build (ProofVerify.sha256Hex sha256)
          fileHashes).root :=
    merkleRoot_eq fileHashes
  refine ⟨hRoot, ?_, ?_⟩
  · intro hNil
    rw [hRoot, hNil]
    exact ⟨rfl, rfl⟩
  · intro hSome
    have hLeaves :
        fileHashes.map (MerkleTree.hashLeaf
          (ProofVerify.sha256Hex sha256)) ≠ [] := by
      simpa using hSome
    rw [hRoot]
    simp only [MerkleTree.build, List.isEmpty_iff, hSome,
      if_false]
    apply HashTree.getLast?_layers
    unfold MerkleTree.padLeaves
    split
    · simp
    · exact hLeaves

/- A reduced layer of digests is a digest. -/
theorem isHex_reduceLayer
    (hHex : ∀ bytes, Text.IsHex 64 (sha256 bytes))
    {layer : List String}
    (hSome : layer ≠ [])
    (hLayer : ∀ digest ∈ layer, Text.IsHex 64 digest) :
    Text.IsHex 64 (reduceLayer sha256 layer) := by
  fun_induction reduceLayer sha256 layer with
  | case1 layer hLt ih =>
      apply ih
      · intro hNil
        have hLength := length_nextRound sha256 layer
        rw [hNil, List.length_nil] at hLength
        omega
      · intro digest hDigest
        rw [nextRound_eq] at hDigest
        rcases HashTree.exists_of_mem_nextLayer hDigest with
          ⟨left, -, right, -, rfl⟩
        exact hHex _
  | case2 layer hLt =>
      cases layer with
      | nil => exact absurd rfl hSome
      | cons digest rest => exact hLayer digest (by simp)

/- The root over one file or more is a digest. -/
theorem isHex_merkleRoot
    (hHex : ∀ bytes, Text.IsHex 64 (sha256 bytes))
    (fileHashes : List String) :
    Text.IsHex 64 (merkleRoot sha256 fileHashes) := by
  have hLeaves :
      ∀ digest ∈ fileHashes.map (hashLeaf sha256),
        Text.IsHex 64 digest := by
    intro digest hDigest
    rcases List.mem_map.mp hDigest with ⟨hash, -, rfl⟩
    exact hHex _
  unfold merkleRoot
  split
  · exact hHex _
  · rename_i hSome
    have hNonempty : fileHashes.map (hashLeaf sha256) ≠ [] := by
      simpa using hSome
    dsimp only
    split
    · apply isHex_reduceLayer hHex (by simp)
      intro digest hDigest
      rcases List.mem_append.mp hDigest with hHere | hLast
      · exact hLeaves digest hHere
      · rw [List.mem_singleton] at hLast
        rw [hLast, List.getLastD_eq_getLast?,
          List.getLast?_eq_some_getLast hNonempty]
        exact hLeaves _ (List.getLast_mem hNonempty)
    · exact isHex_reduceLayer hHex hNonempty hLeaves

end VerifyChain

end RegEngine

--------
-- The Loop Over The Files
--------

namespace RegEngine

open Python Codec

namespace ProofVerify

section

variable {sha256 : List UInt8 → String} {bundle : Archive}

/- A digest declared in hexadecimal is not empty. -/
theorem truthy_of_isSha256Hex
    {value : Value}
    (hHex : isSha256Hex value = true) :
    value.truthy = true := by
  cases value with
  | str text =>
      simp only [isSha256Hex, decide_eq_true_eq] at hHex
      simp only [Value.truthy, bne_iff_ne, ne_eq]
      rintro rfl
      exact absurd hHex.1 (by decide)
  | _ => simp [isSha256Hex] at hHex

/- A declared digest that is the digest is in hexadecimal. -/
theorem isSha256Hex_of_isText
    (hHex : ∀ bytes, Text.IsHex 64 (sha256 bytes))
    {value : Value}
    {data : List UInt8}
    (hText : value.isText (sha256 data) = true) :
    isSha256Hex value = true := by
  cases value with
  | str text =>
      simp only [Value.isText, beq_iff_eq] at hText
      simp only [isSha256Hex, decide_eq_true_eq, hText]
      exact hHex data
  | _ => simp [Value.isText] at hText

/-
  A file that is present leaves the tally clean when it has
  the size and the digest its entry declares.
-/
theorem clean_tallyFile_iff
    {tally : Tally}
    {fields : Dict}
    {path : String}
    {data : List UInt8} :
    (tallyFile sha256 tally fields path data).clean = true ↔
      tally.clean = true ∧
        ((Dict.get fields "size").isNone = true ∨
          (Dict.get fields "size").isCount data.length =
            true) ∧
        (Dict.get fields "sha256").isText (sha256 data) =
          true := by
  simp only [tallyFile, Tally.clean]
  cases (Dict.get fields "size").isNone <;>
    cases (Dict.get fields "size").isCount data.length <;>
    cases (Dict.get fields "sha256").isText (sha256 data) <;>
    simp

/-
  A round keeps the tally clean when the downloadable verifier
  passes the entry, and then adds the digest this returns.
-/
theorem tallyEntry_spec
    (hHex : ∀ bytes, Text.IsHex 64 (sha256 bytes))
    (hSafe : ∀ name ∈ bundle.namelist, safeZipMember name = true)
    (tally : Tally)
    (entry : Value × Nat)
    (recomputed : List String) :
    (tallyEntry sha256 bundle tally entry).clean = true ∧
        (tallyEntry sha256 bundle tally entry).recomputed =
          recomputed ↔
      tally.clean = true ∧
        ∃ digest,
          VerifyChain.checkEntry sha256 bundle entry.1 =
            .ok digest ∧
          recomputed = tally.recomputed ++ [digest] := by
  simp only [VerifyChain.checkEntry_eq_ok_iff]
  constructor
  · rintro ⟨hClean, hRecomputed⟩
    unfold tallyEntry at hClean hRecomputed
    dsimp only at hClean hRecomputed
    split at hClean
    · rename_i fields hFields
      split at hClean
      · rename_i path hPath
        split at hClean
        · simp [Tally.clean] at hClean
        · rename_i hEntry
          simp only [Bool.or_eq_true, Bool.not_eq_true',
            not_or, Bool.not_eq_false] at hEntry
          split at hClean
          · simp [Tally.clean] at hClean
          · rename_i data hRead
            rcases clean_tallyFile_iff.mp hClean with
              ⟨hTally, hSize, hSha⟩
            refine ⟨hTally, sha256 data, ⟨fields, path, data,
              hFields, hPath,
              ne_empty_of_safeZipMember hEntry.1,
              truthy_of_isSha256Hex hEntry.2, hRead, hSize,
              hSha, rfl⟩, ?_⟩
            rw [← hRecomputed, hFields]
            simp [hPath, hEntry.1, hEntry.2, hRead, tallyFile]
      · simp [Tally.clean] at hClean
    · simp [Tally.clean] at hClean
  · rintro ⟨hTally, digest, ⟨fields, path, data, hFields,
      hPath, -, -, hRead, hSize, hSha, rfl⟩, rfl⟩
    have hNamed : path ∈ bundle.namelist :=
      Archive.mem_namelist_iff.mpr ⟨data, hRead⟩
    have hStep :
        tallyEntry sha256 bundle tally entry =
          tallyFile sha256 tally fields path data := by
      simp [tallyEntry, hFields, hPath, hSafe path hNamed,
        isSha256Hex_of_isText hHex hSha, hRead]
    rw [hStep]
    exact ⟨clean_tallyFile_iff.mpr ⟨hTally, hSize, hSha⟩, rfl⟩

theorem foldl_tallyEntry_spec
    (hHex : ∀ bytes, Text.IsHex 64 (sha256 bytes))
    (hSafe : ∀ name ∈ bundle.namelist, safeZipMember name = true)
    (entries : List (Value × Nat))
    (tally : Tally)
    (recomputed : List String) :
    (entries.foldl (tallyEntry sha256 bundle) tally).clean =
          true ∧
        (entries.foldl (tallyEntry sha256 bundle)
          tally).recomputed = recomputed ↔
      tally.clean = true ∧
        ∃ digests,
          (entries.map Prod.fst).mapM
              (VerifyChain.checkEntry sha256 bundle) =
            .ok digests ∧
          recomputed = tally.recomputed ++ digests := by
  induction entries generalizing tally with
  | nil =>
      simp only [List.foldl_nil, List.map_nil, List.mapM_nil,
        Outcome.pure_eq_ok, exists_eq_left', List.append_nil]
      exact and_congr_right (fun _ => eq_comm)
  | cons entry rest ih =>
      have hStep := tallyEntry_spec hHex hSafe tally entry
        (tallyEntry sha256 bundle tally entry).recomputed
      rw [List.foldl_cons, ih, List.map_cons, List.mapM_cons]
      simp only [Outcome.bind_eq_ok, Outcome.pure_eq_ok]
      constructor
      · rintro ⟨hClean, digests, hRest, rfl⟩
        rcases hStep.mp ⟨hClean, rfl⟩ with
          ⟨hTally, digest, hEntry, hEq⟩
        refine ⟨hTally, digest :: digests,
          ⟨digest, hEntry, digests, hRest, rfl⟩, ?_⟩
        rw [hEq, List.append_assoc]
        rfl
      · rintro ⟨hTally, all, ⟨digest, hEntry, digests, hRest,
          rfl⟩, rfl⟩
        have hEq :=
          (tallyEntry_spec hHex hSafe tally entry _).mpr
            ⟨hTally, digest, hEntry, rfl⟩
        refine ⟨hEq.1, digests, hRest, ?_⟩
        rw [hEq.2, List.append_assoc]
        rfl

/-
  The loop ends clean when the downloadable verifier passes
  every entry, with the digests this returns.
-/
theorem tallyFiles_spec
    (hHex : ∀ bytes, Text.IsHex 64 (sha256 bytes))
    (hSafe : ∀ name ∈ bundle.namelist, safeZipMember name = true)
    (files : List Value)
    (recomputed : List String) :
    (tallyFiles sha256 bundle files).clean = true ∧
        (tallyFiles sha256 bundle files).recomputed =
          recomputed ↔
      files.mapM (VerifyChain.checkEntry sha256 bundle) =
        .ok recomputed := by
  unfold tallyFiles
  rw [foldl_tallyEntry_spec hHex hSafe, List.zipIdx_map_fst]
  constructor
  · rintro ⟨-, digests, hMap, rfl⟩
    exact hMap
  · intro hMap
    exact ⟨rfl, recomputed, hMap, rfl⟩

end

--------
-- Agreement Of The Verifiers
--------

open Python Codec

variable {sha256 : List UInt8 → String}
  {decoder : List Nat → Except ReadError Value}
  {bundle : Archive}

/- Consistent metadata that is not rejected is acceptable. -/
theorem acceptable_of_consistent
    {metadata : ChainMetadata}
    (hConsistent : metadata.consistent = true) :
    (metadata.status.isText "VERIFIED" ||
        metadata.status.isText "PARTIAL") =
      !metadata.status.isText "UNVERIFIED" := by
  simp only [ChainMetadata.consistent,
    ChainMetadata.truthTableValid, Bool.and_eq_true,
    Bool.or_eq_true] at hConsistent
  cases hStatus : metadata.status with
  | str status =>
      simp only [hStatus, Value.isText, beq_iff_eq]
        at hConsistent ⊢
      rcases hConsistent.1.1.1.1 with
        (⟨⟨rfl, -⟩, -⟩ | ⟨⟨rfl, -⟩, -⟩) | ⟨⟨rfl, -⟩, -⟩ <;>
        decide
  | _ => simp [hStatus, Value.isText] at hConsistent

/- The two checks on an artifact that reads. -/
theorem packageChecks_ofArtifact_iff
    {metadata : Option ChainMetadata} :
    (packageChecks metadata).all VerifyCheck.passed = true ↔
      (match metadata with
        | none => VerifyChain.fail
        | some metadata => do
            VerifyChain.ensure metadata.consistent
            VerifyChain.ensure
              (!metadata.status.isText "UNVERIFIED") :
        VerifyChain.Check Unit) = .ok () := by
  cases metadata with
  | none => simp [packageChecks, VerifyChain.fail]
  | some metadata =>
      simp only [Outcome.bind_eq_ok, VerifyChain.ensure_eq_ok,
        exists_const]
      simp only [packageChecks, Option.any_some, List.all_cons,
        List.all_nil, Bool.and_true, Bool.and_eq_true]
      constructor
      · rintro ⟨hConsistent, -, hAcceptable⟩
        rw [← acceptable_of_consistent hConsistent]
        exact ⟨hConsistent, hAcceptable⟩
      · rintro ⟨hConsistent, hAcceptable⟩
        rw [← acceptable_of_consistent hConsistent]
          at hAcceptable
        exact ⟨hConsistent, hConsistent, hAcceptable⟩

variable {manifest : Dict} {extra : List VerifyCheck}
variable {bytes : List UInt8}

/-
  The two checks of an FDA package pass when the downloadable
  verifier passes it.
-/
theorem packageChecks_iff
    {files : List Value} :
    (∃ metadata,
      readMetadata decoder bundle manifest files =
          .ok metadata ∧
        (packageChecks metadata).all VerifyCheck.passed =
          true) ↔
      VerifyChain.checkPackage decoder bundle manifest files =
        .ok () := by
  have hNone :
      (packageChecks none).all VerifyCheck.passed = false :=
    rfl
  cases hVerification : Dict.get manifest "verification" with
  | dict verification =>
      match hPath : chainPaths files with
      | [] | _ :: _ :: _ =>
          simp only [readMetadata, VerifyChain.checkPackage,
            hVerification, hPath, VerifyChain.fail, hNone,
            Except.ok.injEq, exists_eq_left',
            Bool.false_eq_true, reduceCtorEq]
      | [path] =>
          simp only [readMetadata, VerifyChain.checkPackage,
            hVerification, hPath, VerifyChain.readArtifact]
          cases bundle.read path with
          | none =>
              simp only [VerifyChain.fail, hNone, bind,
                Except.bind, Except.ok.injEq, exists_eq_left',
                Bool.false_eq_true, reduceCtorEq]
          | some bytes =>
              cases hLoads : loadsUtf8 decoder bytes with
              | error raised =>
                  cases raised <;>
                    simp only [hLoads, VerifyChain.fail, hNone,
                      VerifyChain.crash, bind, Except.bind,
                      Except.ok.injEq, exists_eq_left',
                      Bool.false_eq_true, reduceCtorEq,
                      false_and, exists_const]
              | ok artifact =>
                  simp only [hLoads, Except.ok.injEq, bind,
                    Except.bind, exists_eq_left']
                  exact packageChecks_ofArtifact_iff
  | _ =>
      simp only [readMetadata, VerifyChain.checkPackage,
        hVerification, VerifyChain.fail, hNone,
        Except.ok.injEq, exists_eq_left', Bool.false_eq_true,
        reduceCtorEq]

/- A key with a text value is a key of the dictionary. -/
theorem has_of_isText
    {d : Dict}
    {key text : String}
    (hText : (Dict.get d key).isText text = true) :
    Dict.has d key = true := by
  unfold Dict.get at hText
  cases hFind : d.find? (fun entry => entry.1 == key) with
  | none => simp [hFind, Value.isText] at hText
  | some entry =>
      have hKey := List.find?_some hFind
      exact List.any_eq_true.mpr
        ⟨entry, List.mem_of_find?_eq_some hFind, hKey⟩

/-
  The root check passes when the manifest's Merkle object has
  the root the downloadable verifier computes.
-/
theorem rootCheck_iff
    (hHex : ∀ bytes, Text.IsHex 64 (sha256 bytes))
    {recomputed : List String} :
    (rootCheck (declaredRoot manifest)
      (MerkleTree.build (sha256Hex sha256)
        recomputed).root).passed = true ↔
      ∃ merkle,
        VerifyChain.readMerkle manifest = .ok merkle ∧
          Dict.get manifest "merkle" = .dict merkle ∧
          (Dict.get merkle "root").isText
            (VerifyChain.merkleRoot sha256 recomputed) =
              true := by
  rw [← VerifyChain.merkleRoot_eq]
  unfold declaredRoot VerifyChain.readMerkle rootCheck
  cases hMerkle : Dict.get manifest "merkle" with
  | dict merkle =>
      simp only [Bool.and_eq_true, Value.dict.injEq]
      constructor
      · rintro ⟨-, hRoot⟩
        have hText :
            (Dict.get merkle "root").isText
              (VerifyChain.merkleRoot sha256 recomputed) =
                true := by
          cases hValue : Dict.get merkle "root" with
          | str root =>
              rw [hValue] at hRoot
              exact hRoot
          | _ =>
              simp [hValue, Value.str?, Value.ofOption,
                Value.isText] at hRoot
        refine ⟨merkle, ?_, rfl, hText⟩
        rw [if_pos (has_of_isText hText)]
      · rintro ⟨merkle', -, rfl, hText⟩
        cases hValue : Dict.get merkle "root" with
        | str root =>
            rw [hValue] at hText
            refine ⟨?_, hText⟩
            simp only [Value.isText, beq_iff_eq] at hText
            simp only [Value.str?, Value.ofOption, isSha256Hex,
              decide_eq_true_eq, hText]
            exact VerifyChain.isHex_merkleRoot hHex recomputed
        | _ => simp [hValue, Value.isText] at hText
  | _ => simp [isSha256Hex, VerifyChain.fail]

variable {recomputed : List String}

/- The leaf check passes when the declared leaves match. -/
theorem leafChecks_iff
    {manifest merkle : Dict}
    (hMerkle : Dict.get manifest "merkle" = .dict merkle) :
    (leafChecks manifest recomputed).all VerifyCheck.passed =
      VerifyChain.leavesMatch merkle recomputed := by
  simp only [leafChecks, hMerkle, VerifyChain.leavesMatch]
  cases Dict.get merkle "leaves" <;> simp

/- The object `readMerkle` returns is the manifest's. -/
theorem get_merkle_of_readMerkle
    {manifest merkle : Dict}
    (hRead : VerifyChain.readMerkle manifest = .ok merkle) :
    Dict.get manifest "merkle" = .dict merkle := by
  unfold VerifyChain.readMerkle at hRead
  split at hRead
  · rename_i found hFound
    split at hRead
    · rw [hFound, Except.ok.inj hRead]
    · cases hRead
  · cases hRead

/- The digests of files with entries are some. -/
theorem recomputed_ne_nil
    {file : Value}
    {rest : List Value}
    (hEntries :
      (file :: rest).mapM
        (VerifyChain.checkEntry sha256 bundle) =
          .ok recomputed) :
    ¬ recomputed.isEmpty = true := by
  rw [List.mapM_cons] at hEntries
  rcases Outcome.bind_eq_ok.mp hEntries with
    ⟨digest, -, hEntries⟩
  rcases Outcome.bind_eq_ok.mp hEntries with
    ⟨digests, -, hEntries⟩
  rw [← Outcome.pure_eq_ok.mp hEntries]
  simp

/- The checks of the files, by what each of them says. -/
theorem fileChecks_iff
    {files : List Value} :
    (fileChecks sha256 bundle manifest files).all
        VerifyCheck.passed = true ↔
      (declaredPaths files).Nodup ∧
        (∀ name ∈ bundle.namelist, name = "manifest.json" ∨
          name ∈ declaredPaths files) ∧
        (tallyFiles sha256 bundle files).clean = true ∧
        (leafChecks manifest
          (tallyFiles sha256 bundle files).recomputed).all
            VerifyCheck.passed = true ∧
        (rootCheck (declaredRoot manifest)
          (recomputedRoot sha256
            (tallyFiles sha256 bundle
              files).recomputed)).passed = true ∧
        (Dict.get manifest "version").truthy = true := by
  simp only [fileChecks, List.all_append, List.all_cons,
    List.all_nil, Bool.and_true, Bool.true_and,
    Bool.and_eq_true, decide_eq_true_eq, Tally.clean,
    List.all_eq_true, Bool.or_eq_true, beq_iff_eq,
    List.contains_iff_mem]
  tauto

/- A response to a bundle whose manifest has `files`. -/
theorem verifyManifestFileBundle_verified_iff
    {file : Value}
    {rest : List Value}
    (hExtra : extra.all VerifyCheck.passed = true)
    (hFiles : Dict.get manifest "files" =
      .list (file :: rest)) :
    (∃ response,
      verifyManifestFileBundle sha256 decoder bundle manifest
          extra = .ok (some response) ∧
        response.verified = true) ↔
      (fileChecks sha256 bundle manifest (file :: rest)).all
          VerifyCheck.passed = true ∧
        (isFdaPackage manifest (file :: rest) = true →
          ∃ metadata,
            readMetadata decoder bundle manifest
                (file :: rest) = .ok metadata ∧
              (packageChecks metadata).all
                VerifyCheck.passed = true) := by
  simp only [verifyManifestFileBundle, hFiles]
  cases isFdaPackage manifest (file :: rest) with
  | false =>
      simp only [Bool.false_eq_true, if_false,
        Except.ok.injEq, Option.some.injEq, exists_eq_left',
        respond, List.all_append, hExtra, Bool.true_and,
        false_implies, and_true]
  | true =>
      simp only [if_true, Outcome.bind_eq_ok, Except.ok.injEq,
        Option.some.injEq, forall_const]
      constructor
      · rintro ⟨response, ⟨metadata, hMetadata, rfl⟩,
          hVerified⟩
        simp only [respond, List.all_append, hExtra,
          Bool.true_and, Bool.and_eq_true] at hVerified
        exact ⟨hVerified.1, metadata, hMetadata, hVerified.2⟩
      · rintro ⟨hChecks, metadata, hMetadata, hPackage⟩
        refine ⟨_, ⟨metadata, hMetadata, rfl⟩, ?_⟩
        simp only [respond, List.all_append, hExtra, hChecks,
          hPackage, Bool.and_self]

/-
  The checks of a bundle whose manifest has `files` pass when
  the downloadable verifier accepts it and the manifest has a
  version.
-/
theorem verifyManifestFileBundle_iff
    (hHex : ∀ bytes, Text.IsHex 64 (sha256 bytes))
    (hSafe : ∀ name ∈ bundle.namelist, safeZipMember name = true)
    (hNodup : bundle.namelist.Nodup)
    {file : Value}
    {rest : List Value}
    (hExtra : extra.all VerifyCheck.passed = true)
    (hManifest :
      VerifyChain.readManifest decoder bundle = .ok manifest)
    (hFiles : Dict.get manifest "files" =
      .list (file :: rest)) :
    (∃ response,
      verifyManifestFileBundle sha256 decoder bundle manifest
          extra = .ok (some response) ∧
        response.verified = true) ↔
      VerifyChain.verifyBundle sha256 decoder (some bundle) =
          .code 0 ∧
        (Dict.get manifest "version").truthy = true := by
  have hReadFiles :
      VerifyChain.readFiles manifest = .ok (file :: rest) := by
    simp only [VerifyChain.readFiles, hFiles]
  rw [verifyManifestFileBundle_verified_iff hExtra hFiles,
    VerifyChain.verifyBundle_eq_zero_iff]
  constructor
  · rintro ⟨hChecks, hPackage⟩
    rcases fileChecks_iff.mp hChecks with
      ⟨hPaths, hCovered, hClean, hLeaves, hRoot, hVersion⟩
    have hEntries :=
      (tallyFiles_spec hHex hSafe (file :: rest) _).mp
        ⟨hClean, rfl⟩
    rw [recomputedRoot,
      if_neg (recomputed_ne_nil hEntries)] at hRoot
    rcases (rootCheck_iff hHex).mp hRoot with
      ⟨merkle, hMerkle, hGet, hText⟩
    rw [leafChecks_iff hGet] at hLeaves
    refine ⟨⟨manifest, file :: rest, merkle, _, hNodup,
      hManifest, hReadFiles, hMerkle, hPaths, hCovered,
      hEntries, hLeaves, hText, ?_⟩, hVersion⟩
    intro hFda
    exact packageChecks_iff.mp (hPackage hFda)
  · rintro ⟨⟨manifest', files', merkle, recomputed, hAccepted⟩,
      hVersion⟩
    have hSame : manifest' = manifest := by
      have hRead := hAccepted.readManifest
      rw [hManifest] at hRead
      exact (Except.ok.inj hRead).symm
    subst hSame
    have hSameFiles : files' = file :: rest := by
      have hRead := hAccepted.readFiles
      rw [hReadFiles] at hRead
      exact (Except.ok.inj hRead).symm
    subst hSameFiles
    rcases (tallyFiles_spec hHex hSafe (file :: rest) _).mpr
      hAccepted.entries with ⟨hClean, hRecomputed⟩
    have hGet := get_merkle_of_readMerkle hAccepted.readMerkle
    constructor
    · rw [fileChecks_iff, hRecomputed, recomputedRoot,
        if_neg (recomputed_ne_nil hAccepted.entries),
        leafChecks_iff hGet]
      exact ⟨hAccepted.paths, hAccepted.covered, hClean,
        hAccepted.leaves, (rootCheck_iff hHex).mpr
          ⟨merkle, hAccepted.readMerkle, hGet,
            hAccepted.root⟩,
        hVersion⟩
    · intro hFda
      exact packageChecks_iff.mpr (hAccepted.package hFda)

/- The server reports a bundle verified. -/
def Verified
    (sha256 : List UInt8 → String)
    (decoder : List Nat → Except ReadError Value)
    (rawSize : Nat)
    (bundle : Archive) : Prop :=
  ∃ response,
    verifyZipBundle sha256 decoder rawSize (some bundle) =
        .ok response ∧
      response.verified = true

/- An upload within the limits of the server. -/
structure WithinLimits
    (rawSize : Nat)
    (bundle : Archive) : Prop where
  raw : rawSize ≤ maxBundleBytes
  entries : bundle.members.length ≤ maxZipEntries
  decompressed :
    (bundle.members.map (fun member =>
      member.2.length)).sum ≤ maxDecompressedBytes

/- A manifest with `files` is not left to the older shape. -/
theorem verifyManifestFileBundle_ne_none
    {file : Value}
    {rest : List Value}
    (hFiles : Dict.get manifest "files" =
      .list (file :: rest)) :
    verifyManifestFileBundle sha256 decoder bundle manifest
      extra ≠ .ok none := by
  intro hAnswer
  simp only [verifyManifestFileBundle, hFiles] at hAnswer
  split at hAnswer
  · rcases Outcome.bind_eq_ok.mp hAnswer with
      ⟨metadata, -, hAnswer⟩
    cases hAnswer
  · cases hAnswer

/- A document is read or the request ends. -/
theorem loadsOr400_eq_ok
    {value : Value} :
    loadsOr400 decoder bytes = .ok value ↔
      loadsUtf8 decoder bytes = .ok value := by
  unfold loadsOr400
  cases loadsUtf8 decoder bytes with
  | ok read => simp
  | error raised => cases raised <;> simp

/- The manifest as the downloadable verifier reads it. -/
theorem readManifest_eq_ok
    (hRead : bundle.read "manifest.json" = some bytes)
    (hLoads : loadsBytes decoder bytes =
      .ok (.dict manifest)) :
    VerifyChain.readManifest decoder bundle = .ok manifest := by
  simp only [VerifyChain.readManifest, hRead, hLoads]

/-
  A bundle within the limits, whose manifest has `files`, is
  verified when the manifest is in plain UTF-8 and has a
  version, the member paths are safe, and the downloadable
  verifier accepts the bundle.
-/
theorem verified_iff
    (hHex : ∀ bytes, Text.IsHex 64 (sha256 bytes))
    (hZero : RejectsZero decoder)
    {rawSize : Nat}
    {file : Value}
    {rest : List Value}
    (hLimits : WithinLimits rawSize bundle)
    (hRead : bundle.read "manifest.json" = some bytes)
    (hLoads : loadsBytes decoder bytes = .ok (.dict manifest))
    (hFiles : Dict.get manifest "files" =
      .list (file :: rest)) :
    Verified sha256 decoder rawSize bundle ↔
      isPlainUtf8 bytes = true ∧
        (∀ name ∈ bundle.namelist,
          safeZipMember name = true) ∧
        VerifyChain.verifyBundle sha256 decoder (some bundle) =
          .code 0 ∧
        (Dict.get manifest "version").truthy = true := by
  have hManifest := readManifest_eq_ok hRead hLoads
  constructor
  · rintro ⟨response, hResponse, hVerified⟩
    simp only [verifyZipBundle, Outcome.bind_eq_ok,
      ensure_eq_ok, exists_const, decide_eq_true_eq,
      List.all_eq_true, hRead] at hResponse
    rcases hResponse with
      ⟨-, -, hNodup, hSafe, -, value, hValue, hResponse⟩
    rcases (loadsUtf8_eq_ok_iff hZero).mp
      (loadsOr400_eq_ok.mp hValue) with ⟨hPlain, hLoads'⟩
    rw [hLoads] at hLoads'
    cases hLoads'
    rcases Outcome.bind_eq_ok.mp hResponse with
      ⟨answer, hAnswer, hResponse⟩
    cases answer with
    | none =>
        exact absurd hAnswer
          (verifyManifestFileBundle_ne_none hFiles)
    | some found =>
        cases hResponse
        exact ⟨hPlain, hSafe,
          (verifyManifestFileBundle_iff hHex hSafe hNodup rfl
            hManifest hFiles).mp
            ⟨response, hAnswer, hVerified⟩⟩
  · rintro ⟨hPlain, hSafe, hAccepts, hVersion⟩
    rcases VerifyChain.verifyBundle_eq_zero_iff.mp hAccepts with
      ⟨_, _, _, _, hAccepted⟩
    have hValue :=
      loadsOr400_eq_ok.mpr
        ((loadsUtf8_eq_ok_iff hZero).mpr ⟨hPlain, hLoads⟩)
    rcases (verifyManifestFileBundle_iff hHex hSafe
        hAccepted.nodup
        (rfl : [(⟨"zip_structure", true⟩ :
          VerifyCheck)].all VerifyCheck.passed = true)
        hManifest hFiles).mpr ⟨hAccepts, hVersion⟩ with
      ⟨response, hResponse, hVerified⟩
    refine ⟨response, ?_, hVerified⟩
    simp only [verifyZipBundle, Outcome.bind_eq_ok,
      ensure_eq_ok, exists_const, decide_eq_true_eq,
      List.all_eq_true, hRead]
    refine ⟨hLimits.raw, hLimits.entries, hAccepted.nodup,
      hSafe, hLimits.decompressed, _, hValue, ?_⟩
    simp only [Outcome.bind_eq_ok]
    exact ⟨_, hResponse, rfl⟩

/-
  What the server verifies the downloadable verifier accepts.
  Of the bundles this accepts, with a version and with safe
  member paths, the server verifies exactly those with a
  manifest in plain UTF-8.
-/
theorem verifiers_agree_iff
    (sha256 : List UInt8 → String)
    (decoder : List Nat → Except ReadError Value)
    (hHex : ∀ bytes, Text.IsHex 64 (sha256 bytes))
    (hZero : RejectsZero decoder)
    (rawSize : Nat)
    (bundle : Archive)
    (bytes : List UInt8)
    (manifest : Dict)
    (file : Value)
    (rest : List Value)
    (hLimits : WithinLimits rawSize bundle)
    (hRead : bundle.read "manifest.json" = some bytes)
    (hLoads : loadsBytes decoder bytes = .ok (.dict manifest))
    (hFiles : Dict.get manifest "files" =
      .list (file :: rest)) :
    (Verified sha256 decoder rawSize bundle →
        VerifyChain.verifyBundle sha256 decoder (some bundle) =
          .code 0) ∧
      (VerifyChain.verifyBundle sha256 decoder (some bundle) =
          .code 0 →
        (Dict.get manifest "version").truthy = true →
        (∀ name ∈ bundle.namelist,
          safeZipMember name = true) →
        (Verified sha256 decoder rawSize bundle ↔
          isPlainUtf8 bytes = true)) := by
  rw [verified_iff hHex hZero hLimits hRead hLoads hFiles]
  constructor
  · rintro ⟨-, -, hAccepts, -⟩
    exact hAccepts
  · intro hAccepts hVersion hSafe
    constructor
    · exact And.left
    · intro hPlain
      exact ⟨hPlain, hSafe, hAccepts, hVersion⟩

/- The sample digests are hexadecimal. -/
theorem isHex_sampleSha256
    (bytes : List UInt8) :
    Text.IsHex 64 (VerifyChain.sampleSha256 bytes) := by
  unfold VerifyChain.sampleSha256
  have hDigits :
      ∀ {cs cs' : List Char},
        (cs.length == 32 && cs.all Text.hexDigits.contains) =
            true →
          (cs'.length == 32 &&
              cs'.all Text.hexDigits.contains) = true →
            Text.IsHex 64 (String.ofList cs ++ String.ofList cs') :=
    fun hHex hHex' =>
      (Text.IsHex.ofList hHex).append (Text.IsHex.ofList hHex')
  split
  · exact hDigits (by decide) (by decide)
  · split
    · exact hDigits (by decide) (by decide)
    · split <;> exact hDigits (by decide) (by decide)

/- The bytes of an ASCII text are plain. -/
theorem plain_encode
    {text : String}
    (hAscii : Text.IsAscii text) :
    Codec.utf8 false (VerifyChain.encode text) =
        some (text.toList.map Char.toNat) ∧
      (text.toList.map Char.toNat).head? ≠ some 0xFEFF ∧
      0 ∉ text.toList.map Char.toNat := by
  have hCodes :
      text.toList.map Char.toNat =
        (VerifyChain.encode text).map UInt8.toNat :=
    Text.codes_eq_bytes hAscii
  have hRange :
      ∀ n ∈ text.toList.map Char.toNat, 0 < n ∧ n < 128 := by
    intro n hMem
    rcases List.mem_map.mp hMem with ⟨c, hC, rfl⟩
    exact hAscii c hC
  refine ⟨?_, ?_, fun hZero => ?_⟩
  · rw [hCodes]
    refine Codec.utf8_of_ascii (fun b hB => ?_)
    rw [UInt8.lt_iff_toNat_lt]
    exact (hRange _ (hCodes ▸ List.mem_map_of_mem hB)).2
  · intro hHead
    have hMark := hRange _ (List.mem_of_head? hHead)
    omega
  · exact absurd (hRange 0 hZero).1 (Nat.lt_irrefl 0)

theorem rejectsZero_sampleDecoder :
    RejectsZero VerifyChain.sampleDecoder := by
  intro text value hRead
  unfold VerifyChain.sampleDecoder at hRead
  split at hRead
  · rename_i hText
    rw [hText]
    exact (plain_encode VerifyChain.isAscii_sampleManifest).2.2
  · cases hRead

theorem verifiers_agree_iff_sample :
    Verified VerifyChain.sampleSha256 VerifyChain.sampleDecoder
      400 VerifyChain.sampleBundle := by
  have hPlain := plain_encode VerifyChain.isAscii_sampleManifest
  have hAgree :=
    verifiers_agree_iff VerifyChain.sampleSha256
      VerifyChain.sampleDecoder isHex_sampleSha256
      rejectsZero_sampleDecoder 400 VerifyChain.sampleBundle
      (VerifyChain.encode VerifyChain.sampleManifest)
      VerifyChain.sampleFields _ _
      ⟨by decide, by decide, by decide +kernel⟩
      (by decide +kernel)
      ((loadsBytes_of_plain hPlain.1 hPlain.2.1
        hPlain.2.2).trans (if_pos rfl)) rfl
  apply (hAgree.2 VerifyChain.verifyBundle_sampleBundle rfl
    ?_).mpr
  · exact isPlainUtf8_iff.mpr ⟨_, hPlain⟩
  · decide

/- The sample bundle, its manifest saved with a mark in front. -/
def markedBundle : Archive :=
  ⟨[("manifest.json",
      [0xEF, 0xBB, 0xBF] ++
        VerifyChain.encode VerifyChain.sampleManifest),
    ("events.json", VerifyChain.encode "[]")]⟩

/-
  The downloadable verifier accepts a manifest with a byte
  order mark, to which the server answers 400.
-/
theorem not_verified_markedBundle :
    VerifyChain.verifyBundle VerifyChain.sampleSha256
        VerifyChain.sampleDecoder (some markedBundle) =
          .code 0 ∧
      markedBundle.namelist.all safeZipMember = true ∧
      WithinLimits 400 markedBundle ∧
      verifyZipBundle VerifyChain.sampleSha256
        VerifyChain.sampleDecoder 400 (some markedBundle) =
          .error (.http 400) ∧
      ¬ Verified VerifyChain.sampleSha256
        VerifyChain.sampleDecoder 400 markedBundle := by
  have hAnswer :
      verifyZipBundle VerifyChain.sampleSha256
        VerifyChain.sampleDecoder 400 (some markedBundle) =
          .error (.http 400) := by
    rw [VerifyChain.sampleDecoder_eq]
    decide +kernel
  have hAccepts :
      VerifyChain.verifyBundle VerifyChain.sampleSha256
        VerifyChain.sampleDecoder (some markedBundle) =
          .code 0 := by
    rw [VerifyChain.sampleDecoder_eq]
    decide +kernel
  refine ⟨hAccepts, by decide +kernel,
    ⟨by decide, by decide, by decide +kernel⟩, hAnswer, ?_⟩
  rintro ⟨response, hResponse, -⟩
  rw [hAnswer] at hResponse
  cases hResponse

end ProofVerify

end RegEngine
