import RegEngine.Library.Value

/-
  The persisted-chain summary of an FDA package, as both
  verifiers of a bundle check it: the manifest's
  `verification` against the chain artifact it declares.

  Main declarations:
    * `ChainMetadata`
    * `declaredPaths`
    * `chainPaths`
-/

--------
-- Declared Files
--------

namespace RegEngine

open Python

/- The text path of a file entry that has one. -/
def declaredPath : Value → Option String
| .dict entry => (Dict.get entry "path").str?
| _ => none

/- `declared_paths`: the text paths of the file entries. -/
def declaredPaths (files : List Value) : List String :=
  files.filterMap declaredPath

/- The name of a chain artifact, `chain_verification_*.json`. -/
def isChainPath (path : String) : Bool :=
  "chain_verification_".toList.isPrefixOf path.toList &&
    ".json".toList.isSuffixOf path.toList

/- `chain_paths`. -/
def chainPaths (files : List Value) : List String :=
  (declaredPaths files).filter isChainPath

/- `is_fda_package`. -/
def isFdaPackage (manifest : Dict) (files : List Value) : Bool :=
  (Dict.get manifest "export_type").isText
      "fda_traceability_package" ||
    !(chainPaths files).isEmpty

--------
-- Chain Metadata
--------

/- The manifest's summary beside the artifact's values. -/
structure ChainMetadata where
  status : Value
  chainValid : Value
  manifestChainLength : Value
  artifactStatus : Value
  artifactChainValid : Value
  artifactChainLength : Value
  missingRecordHashes : Value
  missingChainHashes : Value

namespace ChainMetadata

/-
  `missing_hashes`, where `counts_valid` says that both counts
  are numbers that are not negative.
-/
def missingHashes (data : ChainMetadata) : Option Nat :=
  match data.missingRecordHashes.natural?,
      data.missingChainHashes.natural? with
  | some records, some chain => some (records + chain)
  | _, _ => none

/- `lengths_valid`. -/
def lengthsValid (data : ChainMetadata) : Bool :=
  data.artifactChainLength.natural?.isSome &&
    (data.manifestChainLength.isNone ||
      data.manifestChainLength.natural?.isSome)

/- `truth_table_valid`. -/
def truthTableValid (data : ChainMetadata) : Bool :=
  (data.status.isText "VERIFIED" &&
      data.chainValid.isBool true &&
      data.missingHashes == some 0) ||
    (data.status.isText "PARTIAL" &&
      data.chainValid.isBool true &&
      data.missingHashes.any (fun missing => 0 < missing)) ||
    (data.status.isText "UNVERIFIED" &&
      data.chainValid.isBool false &&
      data.missingHashes.isSome)

/-
  `metadata_consistent`. The truth table fixes the status to a
  text and the validity to a truth value, and `lengths_valid`
  the lengths to numbers, before these are compared.
-/
def consistent (data : ChainMetadata) : Bool :=
  data.truthTableValid && data.lengthsValid &&
    (match data.status with
      | .str status => data.artifactStatus.isText status
      | _ => false) &&
    (match data.chainValid with
      | .bool valid => data.artifactChainValid.isBool valid
      | _ => false) &&
    (data.manifestChainLength.isNone ||
      data.manifestChainLength.natural? ==
        data.artifactChainLength.natural?)

end ChainMetadata

/-
  The values compared, read from the manifest's
  `verification` and the artifact's text. `none` where the
  artifact is no object or lacks one of its two parts.
-/
def ChainMetadata.ofArtifact
    (verification : Dict)
    (artifact : Value) : Option ChainMetadata :=
  match artifact with
  | .dict payload =>
      match Dict.get payload "chain_verification",
          Dict.get payload "row_hash_coverage" with
      | .dict chainResult, .dict coverage =>
          some
            { status := Dict.get verification "status"
              chainValid := Dict.get verification "chain_valid"
              manifestChainLength :=
                Dict.get verification "chain_length"
              artifactStatus :=
                Dict.get payload "verification_status"
              artifactChainValid := Dict.get chainResult "valid"
              artifactChainLength :=
                Dict.get chainResult "chain_length"
              missingRecordHashes :=
                Dict.get coverage "missing_record_hashes"
              missingChainHashes :=
                Dict.get coverage "missing_chain_hashes" }
      | _, _ => none
  | _ => none

end RegEngine
