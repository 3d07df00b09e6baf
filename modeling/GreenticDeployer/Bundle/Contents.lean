import GreenticDeployer.Spec.Documents
import Mathlib.Data.List.Sort

/-!
# What a bundle's extraction holds

The runtime packs of an extracted bundle, the lock that pins them and the
pack-config documents of its inputs: all functions of the bundle's bytes and of
the platform pack that may be added to it.
-/

set_option maxHeartbeats 200000

namespace GreenticDeployer.Bundle

open Spec

abbrev Bytes := String

/-- The components of a path below some directory. -/
abbrev RelPath := List String

abbrev Tree := List (RelPath × Bytes)

/-- `Path::file_stem` and `Path::extension` of a file name. -/
def nameParts (name : String) : String × Option String :=
  let backwards := name.toList.reverse
  let extension := (backwards.takeWhile (· ≠ '.')).reverse
  let stem := ((backwards.dropWhile (· ≠ '.')).drop 1).reverse
  if stem = [] then (name, none) else (String.ofList stem, some (String.ofList extension))

def fileStem (path : RelPath) : String := (nameParts (path.getLast?.getD "")).1

def hasExtension (extension : String) (path : RelPath) : Bool :=
  (nameParts (path.getLast?.getD "")).2 = some extension

/-- A file below this directory, at any depth. -/
def below (dir path : RelPath) : Bool := dir.isPrefixOf path ∧ dir.length < path.length

def collectGtpacks (dir : RelPath) (tree : Tree) : Tree :=
  tree.filter fun file => below dir file.1 ∧ hasExtension "gtpack" file.1

def packsDir : RelPath := ["packs"]

def providersDir : RelPath := ["providers"]

def nonRuntimeProviderDomains : List String := ["deployer"]

/-- Below a runtime domain, a directory of `providers`. -/
def inRuntimeDomain : RelPath → Bool
  | _ :: domain :: _ :: _ => domain ∉ nonRuntimeProviderDomains
  | _ => false

def collectProviderGtpacks (tree : Tree) : Tree :=
  (collectGtpacks providersDir tree).filter fun file => inRuntimeDomain file.1

def manifestPath : RelPath := ["bundle-manifest.json"]

def webchatUiPackFile : String := "messaging-webchat-ui.gtpack"

def uiPackPath : RelPath := ["packs", webchatUiPackFile]

/-- `pack_id` is the file stem. -/
def UniquePackIds (packs : Tree) : Prop := (packs.map fun file => fileStem file.1).Nodup

instance (packs : Tree) : Decidable (UniquePackIds packs) :=
  inferInstanceAs (Decidable (List.Nodup _))

structure LockedPack where
  packId : PackId
  path : RelPath
  digest : String
  deriving DecidableEq, Repr

structure PackListLock where
  schema : SchemaVersion
  revisionId : RevisionId
  packs : List LockedPack
  deriving DecidableEq, Repr

def packListLockV1 : String := "greentic.pack-list-lock.v1"

def revDirRel (revisionId : RevisionId) : RelPath := ["revisions", revisionId.toString]

/-- The packs and their digests, sorted by path. Paths are below the environment's
directory. -/
def pin (revisionId : RevisionId) (packs : Tree) (digests : List String) : PackListLock where
  schema := ⟨packListLockV1⟩
  revisionId := revisionId
  packs := ((packs.zip digests).map fun (file, digest) =>
    ⟨⟨fileStem file.1⟩, revDirRel revisionId ++ "bundle" :: file.1, digest⟩).mergeSort
      fun left right => left.path ≤ right.path

def packListLockRef (revisionId : RevisionId) : PathBuf :=
  "revisions/" ++ revisionId.toString ++ "/pack-list.lock"

structure PackConfigInput where
  schema : String
  packId : String
  envId : String
  bundleId : String
  nonSecret : List (String × Json)
  secretRefs : List (String × String)
  deriving DecidableEq, Repr

structure PackConfig where
  schema : SchemaVersion
  packId : PackId
  revisionId : RevisionId
  nonSecret : List (String × Json)
  secretRefs : List (String × String)
  deriving DecidableEq, Repr

def packConfigInputSchema : String := "greentic.pack-config-input.v1"

def packConfigV1 : String := "greentic.pack-config.v1"

def inputDir : RelPath := ["state", "pack-configs"]

inductive OpError where
  | io
  | notFound
  | notAFile
  | extract
  | notABundle
  | noPacks
  | duplicatePackId
  | bundleDigest (pulled : String)
  | lockRef
  | input (name : String)
  | inputSchema (name schema : String)
  | inputEnv (name envId : String)
  | inputBundle (name bundleId : String)
  | inputPack (name packId : String)
  | inputStem (name packId : String)
  | secretRef (name key raw : String)
  deriving DecidableEq, Repr

/-- The functions of the bundle library, of the digests and of the parsers. -/
structure Formats where
  sha256 : Bytes → String
  unbundle : Bytes → Option Tree
  parseInput : Bytes → Option PackConfigInput
  manifestPackId : Bytes → Option String
  needsWebchatUi : List Bytes → Bool

def guardThat (condition : Prop) [Decidable condition] (otherwise : OpError) :
    Except OpError Unit :=
  if condition then .ok () else .error otherwise

theorem guardThat_ok {condition : Prop} [Decidable condition] {e : OpError} {value : Unit}
    (passed : guardThat condition e = .ok value) : condition := by
  unfold guardThat at passed
  split at passed
  · assumption
  · cases passed

/-- What a secret reference must be, all of its segments pinned. -/
def scopedSecretRef (envId : EnvId) (bundleId : BundleId) (packId key : String) : String :=
  "secret://" ++ envId.asStr ++ "/" ++ bundleId.asStr ++ "/" ++ packId ++ "/" ++ key

/-- The direct files of the input directory with the extension `json`, sorted. -/
def configInputs (tree : Tree) : Tree :=
  (tree.filter fun file => below inputDir file.1 ∧ file.1.length = inputDir.length + 1 ∧
    hasExtension "json" file.1).mergeSort fun left right => left.1 ≤ right.1

section Configs

variable (formats : Formats) (envId : EnvId) (bundleId : BundleId) (revisionId : RevisionId)

/-- One input's document, after the checks of its scope. -/
def packConfig (pinned : List String) (path : RelPath) (body : Bytes) :
    Except OpError PackConfig := do
  let name := path.getLast?.getD ""
  match formats.parseInput body with
  | none => throw (.input name)
  | some input =>
    guardThat (input.schema = packConfigInputSchema) (.inputSchema name input.schema)
    guardThat (input.envId = envId.asStr) (.inputEnv name input.envId)
    guardThat (input.bundleId = bundleId.asStr) (.inputBundle name input.bundleId)
    guardThat (input.packId ∈ pinned) (.inputPack name input.packId)
    guardThat (fileStem path = input.packId) (.inputStem name input.packId)
    input.secretRefs.forM fun (key, raw) =>
      guardThat (raw = scopedSecretRef envId bundleId input.packId key) (.secretRef name key raw)
    return ⟨⟨packConfigV1⟩, ⟨input.packId⟩, revisionId, input.nonSecret, input.secretRefs⟩

/-- The names an input may use for a pack: its stem, or the id of its manifest. -/
def packConfigPackIds (packs : Tree) : List String :=
  packs.flatMap fun file => fileStem file.1 :: (formats.manifestPackId file.2).toList

end Configs

structure Extraction where
  tree : Option Tree
  bundle : Option Bytes
  lock : Option PackListLock
  configs : List PackConfig
  deriving DecidableEq, Repr

def Extraction.empty : Extraction := ⟨none, none, none, []⟩

/-- The revision that is materialised, and the environment it is in. -/
structure Target where
  formats : Formats
  envId : EnvId
  bundleId : BundleId
  revision : Revision

/-- What staging a bundle leaves: the tree, and the packs that are pinned. -/
structure StagedTree where
  tree : Tree
  packs : Tree

def runtimePacks (tree : Tree) : Tree :=
  collectGtpacks packsDir tree ++ collectProviderGtpacks tree

/-- The platform's page for packs that serve webchat without one. -/
def Target.uiPack (target : Target) (cached : Option Bytes) (packs : Tree) : Option Bytes :=
  if target.formats.needsWebchatUi (packs.map (·.2)) then cached else none

def uiFile (ui : Option Bytes) : Tree := (ui.map fun bytes => (uiPackPath, bytes)).toList

def Target.lock (target : Target) (packs : Tree) : PackListLock :=
  pin target.revision.revisionId packs (packs.map fun file => target.formats.sha256 file.2)

def Target.stagedTree (target : Target) (bundle : Bytes) (cached : Option Bytes) :
    Except OpError StagedTree :=
  match target.formats.unbundle bundle with
  | none => .error .extract
  | some files => do
    guardThat (files.any (·.1 = manifestPath)) .notABundle
    let own := runtimePacks files
    guardThat (own ≠ []) .noPacks
    let added := uiFile (target.uiPack cached own)
    guardThat (UniquePackIds (own ++ added)) .duplicatePackId
    return ⟨files ++ added, own ++ added⟩

/-- The integrity gate, on the digest and on the lock's reference. -/
def Target.gate (target : Target) (digest : String) : Except OpError Unit := do
  guardThat (digest = target.revision.bundleDigest) (.bundleDigest digest)
  guardThat (packListLockRef target.revision.revisionId = target.revision.packListLockRef) .lockRef

def Target.config (target : Target) (ids : List String) (file : RelPath × Bytes) :
    Except OpError PackConfig :=
  packConfig target.formats target.envId target.bundleId target.revision.revisionId ids file.1
    file.2

/-- What a bundle's extraction is: its copy, the tree, the lock of its packs and the
documents of its inputs. -/
def Target.extraction (target : Target) (bundle : Bytes) (cached : Option Bytes) :
    Except OpError Extraction := do
  let staged ← target.stagedTree bundle cached
  target.gate (target.formats.sha256 bundle)
  let ids := packConfigPackIds target.formats staged.packs
  let configs ← (configInputs staged.tree).mapM (target.config ids)
  return ⟨some staged.tree, some bundle, some (target.lock staged.packs), configs⟩

/-- The directory holds the extraction of some bundle with the pinned digest. -/
def Target.Complete (target : Target) (dir : Option Extraction) : Prop :=
  ∃ bundle cached whole, target.formats.sha256 bundle = target.revision.bundleDigest ∧
    target.extraction bundle cached = .ok whole ∧ dir = some whole

end GreenticDeployer.Bundle
