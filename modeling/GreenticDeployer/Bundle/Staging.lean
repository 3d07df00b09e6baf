import GreenticDeployer.Bundle.Contents
import GreenticDeployer.Lib.LinkedTree
import GreenticDeployer.Lib.Results

/-!
# Staging a bundle's packs

The packs of an extracted tree are collected by a walk from two roots, with the platform's
page added where webchat has none, and pinned in a lock. Whether a lock is complete is
judged later, by another walk of the tree.
-/

set_option maxHeartbeats 200000

namespace GreenticDeployer.Bundle.Staging

open Spec Lib

abbrev Dir := Entries Bytes

abbrev Disk := RelPath → Option (Kind Bytes)

/-- As many links as the system follows. -/
def maxLinks : Nat := 40

/-- `is_dir` and `read_dir`, which follow links. -/
def readDir (tree : Dir) (path : RelPath) : Option Dir :=
  (directoryAt tree.kindAt maxLinks path).bind tree.subtree

/-- What a reader of the path finds, links followed. -/
def fileAt (disk : Disk) (path : RelPath) : Option Bytes :=
  match (resolve disk maxLinks path).bind disk with
  | some (.file content) => some content
  | _ => none

def collectGtpacks (dir : RelPath) : Dir → List RelPath
  | .nil => []
  | .file name _ rest =>
    if hasExtension "gtpack" [name] then (dir ++ [name]) :: collectGtpacks dir rest
    else collectGtpacks dir rest
  | .symlink _ _ rest => collectGtpacks dir rest
  | .directory name children rest =>
    collectGtpacks (dir ++ [name]) children ++ collectGtpacks dir rest

@[simp] theorem collectGtpacks_nil (dir : RelPath) : collectGtpacks dir .nil = [] := rfl

@[simp] theorem collectGtpacks_file (dir : RelPath) (name : String) (content : Bytes)
    (rest : Dir) : collectGtpacks dir (.file name content rest) =
      if hasExtension "gtpack" [name] then (dir ++ [name]) :: collectGtpacks dir rest
      else collectGtpacks dir rest := rfl

@[simp] theorem collectGtpacks_symlink (dir : RelPath) (name : String) (target : List String)
    (rest : Dir) : collectGtpacks dir (.symlink name target rest) = collectGtpacks dir rest := rfl

@[simp] theorem collectGtpacks_directory (dir : RelPath) (name : String) (children rest : Dir) :
    collectGtpacks dir (.directory name children rest) =
      collectGtpacks (dir ++ [name]) children ++ collectGtpacks dir rest := rfl

/-- The loop over the domains of `providers`. -/
def collectDomains : Dir → List RelPath
  | .nil => []
  | .file _ _ rest => collectDomains rest
  | .symlink _ _ rest => collectDomains rest
  | .directory domain children rest =>
    if domain ∈ nonRuntimeProviderDomains then collectDomains rest
    else collectGtpacks (providersDir ++ [domain]) children ++ collectDomains rest

@[simp] theorem collectDomains_nil : collectDomains .nil = [] := rfl

@[simp] theorem collectDomains_file (name : String) (content : Bytes) (rest : Dir) :
    collectDomains (.file name content rest) = collectDomains rest := rfl

@[simp] theorem collectDomains_symlink (name : String) (target : List String) (rest : Dir) :
    collectDomains (.symlink name target rest) = collectDomains rest := rfl

@[simp] theorem collectDomains_directory (domain : String) (children rest : Dir) :
    collectDomains (.directory domain children rest) =
      if domain ∈ nonRuntimeProviderDomains then collectDomains rest
      else collectGtpacks (providersDir ++ [domain]) children ++ collectDomains rest := rfl

def collectProviderGtpacks (tree : Dir) : List RelPath :=
  ((readDir tree providersDir).map collectDomains).getD []

def runtimePacks (tree : Dir) : List RelPath :=
  ((readDir tree packsDir).map (collectGtpacks packsDir)).getD [] ++ collectProviderGtpacks tree

structure WebchatFacts where
  servesUi : Bool
  servesProvider : Bool
  deriving DecidableEq

def WebchatFacts.merge (self other : WebchatFacts) : WebchatFacts :=
  ⟨self.servesUi || other.servesUi, self.servesProvider || other.servesProvider⟩

def WebchatFacts.needsUi (self : WebchatFacts) : Bool := self.servesProvider && !self.servesUi

/-- The digest, and what a pack's manifest declares of webchat. -/
structure PackFormats where
  sha256 : Bytes → String
  manifestFacts : Bytes → Option WebchatFacts

section Stage

variable (formats : PackFormats)

def packWebchatFacts (disk : Disk) (path : RelPath) : WebchatFacts :=
  ((fileAt disk path).bind formats.manifestFacts).getD ⟨false, false⟩

def needsWebchatUi (disk : Disk) (packs : List RelPath) : Bool :=
  ((packs.map (packWebchatFacts formats disk)).foldl WebchatFacts.merge ⟨false, false⟩).needsUi

/-- `create_dir_all` of the packs' directory. -/
def createPacksDir (tree : Dir) : Except OpError Dir :=
  if (readDir tree packsDir).isSome then .ok tree
  else if tree.kindAt packsDir = none then .ok (tree.makeDirectory "packs")
  else .error .io

instance (tree : Dir) (path : RelPath) : Decidable (tree.Writable path) :=
  match there : tree.kindAt path with
  | none => decidable_of_iff (tree.kindAt path.dropLast = some .directory)
      (by simp [Entries.Writable, there])
  | some (.file old) => decidable_of_iff (tree.kindAt path.dropLast = some .directory)
      (by simp [Entries.Writable, there])
  | some (.symlink target) => .isFalse (by simp [Entries.Writable, there])
  | some .directory => .isFalse (by simp [Entries.Writable, there])

/-- `fs::copy` to the page's place; it follows links. -/
def copyUiPack (tree : Dir) (bytes : Bytes) : Except OpError Dir :=
  match resolve tree.kindAt maxLinks uiPackPath with
  | none => .error .io
  | some place => if tree.Writable place then .ok (tree.put bytes place) else .error .io

def stageUiPack (tree : Dir) (bytes : Bytes) : Except OpError Dir := do
  let made ← createPacksDir tree
  copyUiPack made bytes

/-- The platform's page, where it is needed and cached. -/
def uiPack (tree : Dir) (cached : Option Bytes) : Option Bytes :=
  if needsWebchatUi formats tree.kindAt (runtimePacks tree) then cached else none

def withUiPack (tree : Dir) (cached : Option Bytes) : Except OpError (Dir × List RelPath) :=
  match uiPack formats tree cached with
  | none => .ok (tree, runtimePacks tree)
  | some bytes => do
    let staged ← stageUiPack tree bytes
    return (staged, runtimePacks tree ++ [uiPackPath])

def readPack (disk : Disk) (path : RelPath) : Except OpError (RelPath × Bytes) :=
  match fileAt disk path with
  | some content => .ok (path, content)
  | none => .error .io

structure StagedPacks where
  tree : Dir
  lockRef : PathBuf
  lock : PackListLock

/-- The tail of `stage_into`, from the extracted tree on. -/
def stageInto (revisionId : RevisionId) (tree : Dir) (cached : Option Bytes) :
    Except OpError StagedPacks := do
  guardThat (fileAt tree.kindAt manifestPath ≠ none) .notABundle
  guardThat (runtimePacks tree ≠ []) .noPacks
  let (staged, paths) ← withUiPack formats tree cached
  guardThat (paths.map fileStem).Nodup .duplicatePackId
  let packs ← paths.mapM (readPack staged.kindAt)
  return ⟨staged, packListLockRef revisionId,
    pin revisionId packs (packs.map fun file => formats.sha256 file.2)⟩

end Stage

/-- Whether the lock pins every runtime pack of the staged tree, as far as that can be
told. -/
def packListIsComplete (lockAt : PathBuf → Option PackListLock) (bundle : Option Dir)
    (revisionId : RevisionId) (lockRef : PathBuf) : Bool :=
  if lockRef = "" then true
  else
    match lockAt lockRef with
    | none => true
    | some lock =>
      if lock.revisionId ≠ revisionId then false
      else
        match bundle with
        | none => true
        | some tree => (runtimePacks tree).all fun path =>
            (lock.packs.map (·.path)).contains (revDirRel revisionId ++ "bundle" :: path)

end GreenticDeployer.Bundle.Staging
