import RegEngine.Library.Archive
import RegEngine.Library.Codec
import RegEngine.Library.HashTree
import RegEngine.Library.Outcome
import RegEngine.Sdk.ChainMetadata

/-
  The downloadable verifier of an audit bundle
  (`frontend/public/sdk/verify_chain.py`).

  `sha256` stands for `hashlib.sha256(...).hexdigest()` of
  bytes, and `decoder` for the scan of a JSON text.

  Main declarations:
    * `VerifyChain.merkleRoot`
    * `VerifyChain.checkEntry`
    * `VerifyChain.verifyBundle_edited`
-/

--------
-- The Merkle Root
--------

namespace RegEngine

namespace VerifyChain

section

variable (sha256 : List UInt8 → String)

/- `text.encode("utf-8")`. -/
def encode (text : String) : List UInt8 :=
  text.toUTF8.data.toList

/- `_hash_leaf`. -/
def hashLeaf (fileSha256 : String) : String :=
  sha256 (encode ("leaf|" ++ fileSha256))

/- `_hash_pair`. -/
def hashPair (left right : String) : String :=
  sha256 (encode (left ++ "|" ++ right))

/- One round of the loop: the last of an odd layer repeats. -/
def nextRound : List String → List String
| [] => []
| [left] => [hashPair sha256 left left]
| left :: right :: rest =>
    hashPair sha256 left right :: nextRound rest

/- A round leaves half of a layer, rounded up. -/
theorem length_nextRound
    (layer : List String) :
    (nextRound sha256 layer).length =
      (layer.length + 1) / 2 := by
  fun_induction nextRound sha256 layer with
  | case1 => rfl
  | case2 left => simp
  | case3 left right rest ih =>
      simp only [List.length_cons, ih]
      omega

/- The loop over the layers, down to one digest. -/
def reduceLayer (layer : List String) : String :=
  if 1 < layer.length then
    reduceLayer (nextRound sha256 layer)
  else
    layer.headD ""
termination_by layer.length
decreasing_by
  rw [length_nextRound]
  omega

/- `_merkle_root`. -/
def merkleRoot (fileHashes : List String) : String :=
  if fileHashes.isEmpty then
    sha256 (encode "empty")
  else
    let layer := fileHashes.map (hashLeaf sha256)
    if layer.length % 2 = 1 ∧ 1 < layer.length then
      reduceLayer sha256 (layer ++ [layer.getLastD ""])
    else
      reduceLayer sha256 layer

end

--------
-- The Verifier
--------

open Python Codec

/-
  How the verifier ends: with an exit code, or with an
  exception it does not catch.
-/
inductive Exit where
  | code (value : Nat)
  | raised
  deriving DecidableEq, Repr

/- How a part of the verifier ends all of it. -/
inductive Stop where
  | failed
  | raised
  deriving DecidableEq, Repr

/- A part of the verifier, which may end it. -/
abbrev Check := Except Stop

/- `return _fail(...)`. -/
def fail {α : Type} : Check α :=
  .error .failed

/- An exception that is not caught. -/
def crash {α : Type} : Check α :=
  .error .raised

/- `return _fail(...)` unless the condition holds. -/
def ensure (condition : Bool) : Check Unit :=
  if condition then .ok () else fail

/- A condition is passed when it holds. -/
theorem ensure_eq_ok
    {condition : Bool}
    {u : Unit} :
    ensure condition = .ok u ↔ condition = true := by
  cases condition <;> simp [ensure, fail]

/-
  The JSON object `manifest.json` holds. Bytes that are no
  text, and a manifest that is no object, raise.
-/
def readManifest
    (decoder : List Nat → Except ReadError Value)
    (bundle : Archive) : Check Dict :=
  match bundle.read "manifest.json" with
  | none => fail
  | some bytes =>
      match loadsBytes decoder bytes with
      | .ok (.dict manifest) => .ok manifest
      | .ok _ => crash
      | .error .jsonDecodeError => fail
      | .error _ => crash

/- `files`, where it is a list with entries. -/
def readFiles (manifest : Dict) : Check (List Value) :=
  match Dict.get manifest "files" with
  | .list (file :: files) => .ok (file :: files)
  | _ => fail

/- `merkle`, where it is an object with a root. -/
def readMerkle (manifest : Dict) : Check Dict :=
  match Dict.get manifest "merkle" with
  | .dict merkle =>
      if Dict.has merkle "root" then .ok merkle else fail
  | _ => fail

/-
  One round of the loop over `files`: the digest of the file
  the entry declares. An entry that is no object raises, and a
  path that cannot be hashed does in `path not in names`.
-/
def checkEntry
    (sha256 : List UInt8 → String)
    (bundle : Archive)
    (entry : Value) : Check String :=
  match entry with
  | .dict entry =>
      let declared := Dict.get entry "sha256"
      let declaredSize := Dict.get entry "size"
      if !(Dict.get entry "path").truthy ||
          !declared.truthy then
        fail
      else
        match Dict.get entry "path" with
        | .str path =>
            match bundle.read path with
            | none => fail
            | some data =>
                if !declaredSize.isNone &&
                    !declaredSize.isCount data.length then
                  fail
                else if !declared.isText (sha256 data) then
                  fail
                else
                  .ok (sha256 data)
        | .list _ => crash
        | .dict _ => crash
        | _ => fail
  | _ => crash

/- `declared_leaves`, checked where they are a list. -/
def leavesMatch
    (merkle : Dict)
    (recomputed : List String) : Bool :=
  match Dict.get merkle "leaves" with
  | .list leaves => (Value.list leaves).isTexts recomputed
  | _ => true

/- The artifact of an FDA package, read as JSON. -/
def readArtifact
    (decoder : List Nat → Except ReadError Value)
    (bundle : Archive)
    (path : String) : Check Value :=
  match bundle.read path with
  | none => fail
  | some bytes =>
      match loadsUtf8 decoder bytes with
      | .ok artifact => .ok artifact
      | .error .other => crash
      | .error _ => fail

/- The checks of an FDA package's persisted-chain summary. -/
def checkPackage
    (decoder : List Nat → Except ReadError Value)
    (bundle : Archive)
    (manifest : Dict)
    (files : List Value) : Check Unit :=
  match Dict.get manifest "verification", chainPaths files with
  | .dict verification, [path] => do
      let artifact ← readArtifact decoder bundle path
      match ChainMetadata.ofArtifact verification artifact with
      | none => fail
      | some metadata => do
          ensure metadata.consistent
          ensure (!metadata.status.isText "UNVERIFIED")
  | _, _ => fail

/- The body of `verify_bundle` on an opened archive. -/
def checkBundle
    (sha256 : List UInt8 → String)
    (decoder : List Nat → Except ReadError Value)
    (bundle : Archive) : Check Unit := do
  ensure (decide bundle.namelist.Nodup)
  let manifest ← readManifest decoder bundle
  let files ← readFiles manifest
  let merkle ← readMerkle manifest
  ensure (decide (declaredPaths files).Nodup)
  ensure (bundle.namelist.all (fun name =>
    name == "manifest.json" ||
      (declaredPaths files).contains name))
  let recomputed ← files.mapM (checkEntry sha256 bundle)
  ensure (leavesMatch merkle recomputed)
  ensure ((Dict.get merkle "root").isText
    (merkleRoot sha256 recomputed))
  if isFdaPackage manifest files then
    checkPackage decoder bundle manifest files
  else
    .ok ()

/-
  `verify_bundle`; `none` is a file that is missing or no
  archive.
-/
def verifyBundle
    (sha256 : List UInt8 → String)
    (decoder : List Nat → Except ReadError Value)
    (archive : Option Archive) : Exit :=
  match archive with
  | none => .code 1
  | some bundle =>
      match checkBundle sha256 decoder bundle with
      | .ok () => .code 0
      | .error .failed => .code 1
      | .error .raised => .raised

--------
-- Accepted Bundles
--------

/- What a bundle meets for the verifier to return 0. -/
structure Accepted
    (sha256 : List UInt8 → String)
    (decoder : List Nat → Except ReadError Value)
    (bundle : Archive)
    (manifest : Dict)
    (files : List Value)
    (merkle : Dict)
    (recomputed : List String) : Prop where
  nodup : bundle.namelist.Nodup
  readManifest : readManifest decoder bundle = .ok manifest
  readFiles : readFiles manifest = .ok files
  readMerkle : readMerkle manifest = .ok merkle
  paths : (declaredPaths files).Nodup
  covered :
    ∀ name ∈ bundle.namelist,
      name = "manifest.json" ∨ name ∈ declaredPaths files
  entries :
    files.mapM (checkEntry sha256 bundle) = .ok recomputed
  leaves : leavesMatch merkle recomputed = true
  root :
    (Dict.get merkle "root").isText
      (merkleRoot sha256 recomputed) = true
  package :
    isFdaPackage manifest files = true →
      checkPackage decoder bundle manifest files = .ok ()

variable {decoder : List Nat → Except ReadError Value}
variable {sha256 : List UInt8 → String} {bundle : Archive}
variable {files : List Value}

/- The verifier returns 0 on exactly the accepted bundles. -/
theorem verifyBundle_eq_zero_iff
    {bundle : Archive} :
    verifyBundle sha256 decoder (some bundle) = .code 0 ↔
      ∃ manifest files merkle recomputed,
        Accepted sha256 decoder bundle manifest files merkle
          recomputed := by
  have hOk :
      verifyBundle sha256 decoder (some bundle) = .code 0 ↔
        checkBundle sha256 decoder bundle = .ok () := by
    simp only [verifyBundle]
    split <;> simp_all
  rw [hOk, checkBundle]
  simp only [Outcome.bind_eq_ok, ensure_eq_ok,
    decide_eq_true_eq, exists_const, List.all_eq_true,
    Bool.or_eq_true, beq_iff_eq, List.contains_iff_mem]
  constructor
  · rintro ⟨hNodup, manifest, hManifest, files, hFiles, merkle,
      hMerkle, hPaths, hCovered, recomputed, hEntries, hLeaves,
      hRoot, hPackage⟩
    refine ⟨manifest, files, merkle, recomputed, hNodup,
      hManifest, hFiles, hMerkle, hPaths, hCovered, hEntries,
      hLeaves, hRoot, ?_⟩
    intro hFda
    rwa [if_pos hFda] at hPackage
  · rintro ⟨manifest, files, merkle, recomputed, hAccepted⟩
    refine ⟨hAccepted.nodup, manifest, hAccepted.readManifest,
      files, hAccepted.readFiles, merkle, hAccepted.readMerkle,
      hAccepted.paths, hAccepted.covered, recomputed,
      hAccepted.entries, hAccepted.leaves, hAccepted.root, ?_⟩
    split
    · exact hAccepted.package ‹_›
    · rfl

/-
  A passed entry: the path it declares is read, and the bytes
  have the size and the digest it declares.
-/
theorem checkEntry_eq_ok_iff
    {entry : Value}
    {digest : String} :
    checkEntry sha256 bundle entry = .ok digest ↔
      ∃ fields path data,
        entry = .dict fields ∧
          Dict.get fields "path" = .str path ∧ path ≠ "" ∧
          (Dict.get fields "sha256").truthy = true ∧
          bundle.read path = some data ∧
          ((Dict.get fields "size").isNone = true ∨
            (Dict.get fields "size").isCount data.length =
              true) ∧
          (Dict.get fields "sha256").isText (sha256 data) =
            true ∧
          digest = sha256 data := by
  constructor
  · intro hEntry
    unfold checkEntry at hEntry
    split at hEntry
    · rename_i fields
      dsimp only at hEntry
      split at hEntry
      · cases hEntry
      · rename_i hTruthy
        simp only [Bool.or_eq_true, Bool.not_eq_true',
          not_or, Bool.not_eq_false] at hTruthy
        split at hEntry
        · rename_i path hPath
          split at hEntry
          · cases hEntry
          · rename_i data hRead
            split at hEntry
            · cases hEntry
            · rename_i hSize
              split at hEntry
              · cases hEntry
              · rename_i hSha
                refine ⟨fields, path, data, rfl, hPath, ?_,
                  hTruthy.2, hRead, ?_, by simpa using hSha,
                  (Except.ok.inj hEntry).symm⟩
                · rintro rfl
                  simp [hPath, Value.truthy] at hTruthy
                · cases hNone :
                    (Dict.get fields "size").isNone with
                  | true => exact Or.inl rfl
                  | false =>
                      rw [hNone] at hSize
                      exact Or.inr (by simpa using hSize)
        all_goals cases hEntry
    · cases hEntry
  · rintro ⟨fields, path, data, rfl, hPath, hSome, hTruthy,
      hRead, hSize, hSha, rfl⟩
    have hFits :
        (!(Dict.get fields "size").isNone &&
          !(Dict.get fields "size").isCount data.length) =
            false := by
      rcases hSize with hNone | hCount
      · simp [hNone]
      · simp [hCount]
    have hPathTruthy : (Value.str path).truthy = true := by
      simp [Value.truthy, hSome]
    simp [checkEntry, hPath, hPathTruthy, hTruthy, hRead,
      hFits, hSha]

theorem exists_entry_of_mem_declaredPaths
    {path : String}
    (hMem : path ∈ declaredPaths files) :
    ∃ fields, Value.dict fields ∈ files ∧
      Dict.get fields "path" = .str path := by
  rcases List.mem_filterMap.mp hMem with ⟨entry, hEntry, hPath⟩
  cases entry with
  | dict fields =>
      refine ⟨fields, hEntry, ?_⟩
      simp only [declaredPath] at hPath
      cases hValue : Dict.get fields "path" with
      | str value =>
          rw [hValue] at hPath
          simpa [Value.str?] using hPath
      | _ => simp [hValue, Value.str?] at hPath
  | _ => simp [declaredPath] at hPath

variable {manifest merkle : Dict} {recomputed : List String}
variable {bytes : List UInt8}

/-
  Every declared path of an accepted bundle names a member
  with the digest the manifest declares for it.
-/
theorem Accepted.exists_data
    {fields : Dict}
    {path : String}
    (hAccepted : Accepted sha256 decoder bundle manifest files
      merkle recomputed)
    (hEntry : Value.dict fields ∈ files)
    (hPath : Dict.get fields "path" = .str path) :
    ∃ data, (path, data) ∈ bundle.members ∧
      Dict.get fields "sha256" = .str (sha256 data) := by
  rcases Outcome.exists_of_mapM_eq_ok hAccepted.entries hEntry
    with ⟨digest, -, hCheck⟩
  rcases Iff.mp checkEntry_eq_ok_iff hCheck with
    ⟨fields', path', data, hFields, hPath', -, -, hRead, -,
      hSha, -⟩
  cases Value.dict.inj hFields
  have hSame : path' = path := by
    rw [hPath] at hPath'
    exact (Value.str.inj hPath').symm
  rw [hSame] at hRead
  refine ⟨data, Archive.mem_of_read hRead, ?_⟩
  cases hValue : Dict.get fields "sha256" with
  | str value =>
      rw [hValue] at hSha
      simp only [Value.isText, beq_iff_eq] at hSha
      rw [hSha]
  | _ => simp [hValue, Value.isText] at hSha

/- The manifest is the member of its name. -/
theorem Accepted.exists_manifest
    (hAccepted : Accepted sha256 decoder bundle manifest files
      merkle recomputed) :
    ∃ bytes,
      bundle.read "manifest.json" = some bytes ∧
        loadsBytes decoder bytes = .ok (.dict manifest) := by
  have hRead := hAccepted.readManifest
  unfold VerifyChain.readManifest at hRead
  split at hRead
  · cases hRead
  · rename_i bytes hBytes
    refine ⟨bytes, hBytes, ?_⟩
    split at hRead
    · rename_i hLoads
      rw [hLoads, Except.ok.inj hRead]
    all_goals cases hRead

--------
-- Tamper Evidence
--------

/- The contents of two bundles are told apart by their hash. -/
def CollisionFree
    (sha256 : List UInt8 → String)
    (bundle other : Archive) : Prop :=
  ∀ member ∈ bundle.members, ∀ member' ∈ other.members,
    sha256 member.2 = sha256 member'.2 → member.2 = member'.2

/-
  A member of one accepted bundle is a member of every other
  with the same manifest: it is the manifest, or the manifest
  declares its path and its digest.
-/
theorem mem_of_accepted
    {bundle other : Archive}
    {member : String × List UInt8}
    (hFree : CollisionFree sha256 bundle other)
    (hBundle : verifyBundle sha256 decoder (some bundle) =
      .code 0)
    (hOther : verifyBundle sha256 decoder (some other) =
      .code 0)
    (hManifest : ("manifest.json", bytes) ∈ bundle.members)
    (hManifest' : ("manifest.json", bytes) ∈ other.members)
    (hMem : member ∈ bundle.members) :
    member ∈ other.members := by
  rcases Iff.mp verifyBundle_eq_zero_iff hBundle with
    ⟨manifest, files, merkle, recomputed, hAccepted⟩
  rcases Iff.mp verifyBundle_eq_zero_iff hOther with
    ⟨manifest', files', merkle', recomputed', hAccepted'⟩
  have hSameManifest : manifest' = manifest := by
    rcases hAccepted.exists_manifest with
      ⟨read, hRead, hLoads⟩
    rcases hAccepted'.exists_manifest with
      ⟨read', hRead', hLoads'⟩
    have hBytes :=
      (Archive.read_eq_some_iff hAccepted.nodup).mpr hManifest
    have hBytes' :=
      (Archive.read_eq_some_iff hAccepted'.nodup).mpr hManifest'
    rw [hBytes] at hRead
    rw [hBytes'] at hRead'
    cases hRead
    cases hRead'
    rw [hLoads] at hLoads'
    cases hLoads'
    rfl
  have hSameFiles : files' = files := by
    have hFiles := hAccepted'.readFiles
    rw [hSameManifest, hAccepted.readFiles] at hFiles
    exact (Except.ok.inj hFiles).symm
  rcases member with ⟨name, data⟩
  have hNamed : name ∈ bundle.namelist :=
    List.mem_map.mpr ⟨_, hMem, rfl⟩
  rcases hAccepted.covered name hNamed with rfl | hDeclared
  · have hSame :=
      List.inj_on_of_nodup_map hAccepted.nodup hMem hManifest rfl
    rwa [hSame]
  · rcases exists_entry_of_mem_declaredPaths hDeclared with
      ⟨fields, hEntry, hPath⟩
    rcases hAccepted.exists_data hEntry hPath with
      ⟨read, hRead, hSha⟩
    rw [← hSameFiles] at hEntry
    rcases hAccepted'.exists_data hEntry hPath with
      ⟨read', hRead', hSha'⟩
    have hData :=
      List.inj_on_of_nodup_map hAccepted.nodup hMem hRead rfl
    rw [hData]
    have hDigest : sha256 read = sha256 read' := by
      rw [hSha] at hSha'
      exact Value.str.inj hSha'
    have hSame : read = read' :=
      hFree _ hRead _ hRead' hDigest
    rwa [hSame]

/- Accepted bundles with one manifest hold the same members. -/
theorem perm_of_accepted
    {bundle other : Archive}
    (hFree : CollisionFree sha256 bundle other)
    (hBundle : verifyBundle sha256 decoder (some bundle) =
      .code 0)
    (hOther : verifyBundle sha256 decoder (some other) =
      .code 0)
    (hManifest : ("manifest.json", bytes) ∈ bundle.members)
    (hManifest' : ("manifest.json", bytes) ∈ other.members) :
    other.members.Perm bundle.members := by
  rcases Iff.mp verifyBundle_eq_zero_iff hBundle with
    ⟨_, _, _, _, hAccepted⟩
  rcases Iff.mp verifyBundle_eq_zero_iff hOther with
    ⟨_, _, _, _, hAccepted'⟩
  have hFree' : CollisionFree sha256 other bundle := by
    intro member hMember member' hMember' hSha
    exact (hFree member' hMember' member hMember hSha.symm).symm
  rw [List.perm_ext_iff_of_nodup
    (Archive.nodup_members hAccepted'.nodup)
    (Archive.nodup_members hAccepted.nodup)]
  intro member
  constructor
  · exact mem_of_accepted hFree' hOther hBundle hManifest'
      hManifest
  · exact mem_of_accepted hFree hBundle hOther hManifest
      hManifest'

/-
  An accepted bundle with one member edited and the manifest's
  bytes kept is not accepted.
-/
theorem verifyBundle_edited
    (sha256 : List UInt8 → String)
    (decoder : List Nat → Except ReadError Value)
    (bundle edited : Archive)
    (hFree : CollisionFree sha256 bundle edited)
    (hAccepts : verifyBundle sha256 decoder (some bundle) =
      .code 0)
    (hEdited : Archive.Edited "manifest.json" bundle edited) :
    verifyBundle sha256 decoder (some edited) ≠ .code 0 := by
  intro hAccepts'
  rcases Iff.mp verifyBundle_eq_zero_iff hAccepts with
    ⟨_, _, _, _, hAccepted⟩
  rcases Iff.mp verifyBundle_eq_zero_iff hAccepts' with
    ⟨_, _, _, _, hAccepted'⟩
  rcases hAccepted.exists_manifest with ⟨bytes, hRead, -⟩
  rcases hAccepted'.exists_manifest with ⟨bytes', hRead', -⟩
  have hManifest := Archive.mem_of_read hRead
  have hNamed : "manifest.json" ∈ edited.namelist :=
    Archive.mem_namelist_iff.mpr ⟨bytes', hRead'⟩
  have hManifest' :=
    hEdited.mem_fixed hAccepted.nodup hManifest hNamed
  exact hEdited.not_perm
    (perm_of_accepted hFree hAccepts hAccepts' hManifest
      hManifest')

/- The digest of the file of a sample bundle, `[]`. -/
def sampleDigest : String :=
  "4f53cda18c2baa0c0354bb5f9a3ecbe5" ++
    "ed12ab4d8e11ba873c2f11161202b945"

/- The Merkle root of the sample bundle. -/
def sampleRoot : String :=
  "29fba8284c54b69cb035d7f28f0f23c2" ++
    "9ed25eeb2457b2e347800e9ea530db11"

/- The text of the sample bundle's manifest. -/
def sampleManifest : String :=
  "\x7b\"version\":\"1.0\",\"files\":[" ++
    "\x7b\"path\":\"events.json\",\"sha256\":\"" ++
    sampleDigest ++ "\",\"size\":2\x7d]," ++
    "\"merkle\":\x7b\"root\":\"" ++ sampleRoot ++ "\"\x7d\x7d"

def sampleFields : Dict :=
  [("version", .str "1.0"),
    ("files", .list [.dict
      [("path", .str "events.json"),
        ("sha256", .str sampleDigest),
        ("size", .int 2)]]),
    ("merkle", .dict [("root", .str sampleRoot)])]

/- The scan of that text, and of no other. -/
def sampleDecoder (text : List Nat) : Except ReadError Value :=
  if text = sampleManifest.toList.map Char.toNat then
    .ok (.dict sampleFields)
  else
    .error .jsonDecodeError

theorem isAscii_sampleManifest :
    Text.IsAscii sampleManifest := by
  have hDigest : Text.IsAscii sampleDigest :=
    (Text.IsAscii.ofList (by decide)).append
      (Text.IsAscii.ofList (by decide))
  have hRoot : Text.IsAscii sampleRoot :=
    (Text.IsAscii.ofList (by decide)).append
      (Text.IsAscii.ofList (by decide))
  exact ((((((Text.IsAscii.ofList (by decide)).append
    (Text.IsAscii.ofList (by decide))).append hDigest).append
    (Text.IsAscii.ofList (by decide))).append
    (Text.IsAscii.ofList (by decide))).append hRoot).append
    (Text.IsAscii.ofList (by decide))

/- The decoder compares with the bytes of the text. -/
theorem sampleDecoder_eq :
    sampleDecoder = fun text =>
      if text = (encode sampleManifest).map UInt8.toNat then
        .ok (.dict sampleFields)
      else
        .error .jsonDecodeError := by
  funext text
  rw [sampleDecoder,
    Text.codes_eq_bytes isAscii_sampleManifest]
  rfl

/- SHA-256 on the bytes that occur here. -/
def sampleSha256 (bytes : List UInt8) : String :=
  if bytes = encode "[]" then
    sampleDigest
  else if bytes = encode ("leaf|" ++ sampleDigest) then
    sampleRoot
  else if bytes = encode "\x7b\x7d" then
    "44136fa355b3678a1146ad16f7e8649e" ++
      "94fb4fc21fe77e8310c060f61caaff8a"
  else
    "ec11d61ded804721fabb5b6976a87283" ++
      "6275d344eeb97e02d9fd064caca91f3b"

def sampleBundle : Archive :=
  ⟨[("manifest.json", encode sampleManifest),
    ("events.json", encode "[]")]⟩

/- The bundle with the bytes of its file changed. -/
def tamperedBundle : Archive :=
  ⟨[("manifest.json", encode sampleManifest),
    ("events.json", encode "\x7b\x7d")]⟩

/- The verifier accepts the sample bundle. -/
theorem verifyBundle_sampleBundle :
    verifyBundle sampleSha256 sampleDecoder
        (some sampleBundle) = .code 0 := by
  rw [sampleDecoder_eq]
  decide +kernel

theorem verifyBundle_edited_sample :
    verifyBundle sampleSha256 sampleDecoder
        (some sampleBundle) = .code 0 ∧
      verifyBundle sampleSha256 sampleDecoder
        (some tamperedBundle) ≠ .code 0 := by
  have hFree :
      CollisionFree sampleSha256 sampleBundle
        tamperedBundle := by
    unfold CollisionFree
    decide +kernel
  have hEdited :
      Archive.Edited "manifest.json" sampleBundle
        tamperedBundle :=
    @Archive.Edited.changed _ _
      [("manifest.json", encode sampleManifest)] []
      "events.json" (encode "[]") (encode "\x7b\x7d") rfl
      (by decide) (by decide)
  exact ⟨verifyBundle_sampleBundle,
    verifyBundle_edited sampleSha256 sampleDecoder sampleBundle
      tamperedBundle hFree verifyBundle_sampleBundle hEdited⟩

end VerifyChain

end RegEngine
