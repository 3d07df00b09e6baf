import GreenticDeployer.Lib.FileTree
import GreenticDeployer.Ssh.Warm

/-!
# The store archive

What a warm ships is the environment's local directory, walked in name order and
filtered by exact names and positions. The dev-store and `environment.json` come
from memory in place of the files.
-/

set_option maxHeartbeats 200000

namespace GreenticDeployer.Ssh

open Spec Lib

inductive Verdict
  | include
  | skip
  | replaceDevStore
  | replaceEnvironment
  | patchRuntime
  deriving DecidableEq

/-- `DEV_STORE_RELATIVE`. -/
def devStore : List String := [".greentic", "dev", ".dev.secrets.env"]

/-- `DEV_STORE_STATE_RELATIVE`. -/
def devStoreState : List String := [".greentic", "state", "dev", ".dev.secrets.env"]

def isLock (rel : List String) : Bool :=
  rel.getLast? == some ".lock" || rel.getLast? == some ".dev.secrets.env.lock"

def isBundle : List String → Bool
  | [top, _, name] => top == "revisions" && name == "bundle.gtbundle"
  | _ => false

/-- `classify`, of a path below the environment's directory. -/
def classify (rel : List String) (isDir : Bool) : Verdict :=
  if !isDir && isLock rel then .skip
  else if rel = ["backups"] ∨ rel = ["audit"] then .skip
  else if rel = ["revision-signing.key"] ∨ rel = ["logs"] then .skip
  else if isDir then .include
  else if isBundle rel then .skip
  else if rel = devStore then .replaceDevStore
  else if rel = devStoreState then .skip
  else if rel = ["environment.json"] then .replaceEnvironment
  else if rel = ["runtime.json"] then .patchRuntime
  else .include

/-- A file of the environment's directory. A dev-store is the records it holds,
which its library writes in a form of its own. -/
inductive Content
  | bytes (bytes : Bytes)
  | secrets (records : List (String × Bytes))
  deriving DecidableEq

/-- `BTreeMap<String, Option<Vec<u8>>>`: a file's contents, or a directory. -/
abbrev Entries := List (String × Option Bytes)

def Entries.insert (key : String) (value : Option Bytes) : Entries → Entries
  | [] => [(key, value)]
  | (other, old) :: rest =>
    if key = other then (key, value) :: rest
    else if key < other then (key, value) :: (other, old) :: rest
    else (other, old) :: Entries.insert key value rest

def Entries.insertNew (key : String) (value : Option Bytes) (entries : Entries) : Entries :=
  if entries.any (·.1 = key) then entries else entries.insert key value

inductive ArchiveError
  | missingDirectory (envId : String)
  | symlink (rel : List String)
  | tooLarge
  | runtimeNotJson
  | seed
  | tar
  deriving DecidableEq

def maxSnapshotBytes : Nat := 256 * 1024 * 1024

/-- `SnapshotInput`, with what serializing the seed environment and rewriting
`runtime.json` for these parameters come to. -/
structure SnapshotInput where
  envId : String
  seed : Option Bytes
  devSecrets : Option Bytes
  patchRuntimeJson : Bytes → Option Bytes

structure Walked where
  entries : Entries
  total : Nat

/-- The libraries: how a dev-store is written, `tar` and the hash. -/
structure ArchiveLibs where
  encode : List (String × Bytes) → Bytes
  writeTar : Entries → Option Bytes
  hexSha256 : Bytes → String

namespace ArchiveLibs

variable (libs : ArchiveLibs)

def read : Content → Bytes
  | .bytes bytes => bytes
  | .secrets records => libs.encode records

def walk (input : SnapshotInput) (rel : List String) :
    Listing Content → Walked → Except ArchiveError Walked
  | .nil, walked => .ok walked
  | .symlink name _, _ => .error (.symlink (rel ++ [name]))
  | .file name content rest, walked =>
    let key := input.envId ++ "/" ++ "/".intercalate (rel ++ [name])
    match classify (rel ++ [name]) false with
    | .skip => walk input rel rest walked
    | .replaceEnvironment => walk input rel rest walked
    | .replaceDevStore => walk input rel rest walked
    | .patchRuntime => do
      let raw := libs.read content
      match input.patchRuntimeJson raw with
      | none => .error .runtimeNotJson
      | some patched =>
        walk input rel rest ⟨walked.entries.insert key (some patched), walked.total + raw.length⟩
    | .include =>
      let bytes := libs.read content
      let total := walked.total + bytes.length
      if maxSnapshotBytes < total then .error .tooLarge
      else walk input rel rest ⟨walked.entries.insert key (some bytes), total⟩
  | .directory name children rest, walked =>
    let key := input.envId ++ "/" ++ "/".intercalate (rel ++ [name])
    match classify (rel ++ [name]) true with
    | .skip => walk input rel rest walked
    | _ => do
      let walked ← walk input (rel ++ [name]) children
        { walked with entries := walked.entries.insert key none }
      walk input rel rest walked

end ArchiveLibs

/-- The directories above a file of the archive. -/
def parentsOf (key : String) : List String :=
  let segments := (key.toList.splitOn '/').map String.ofList
  (List.range (segments.length - 1)).map fun n => "/".intercalate (segments.take (n + 1))

def withParents (entries : Entries) : Entries :=
  ((entries.filter (·.2.isSome)).flatMap fun file => parentsOf file.1).foldl
    (fun entries parent => entries.insertNew parent none) entries

structure StoreArchive where
  bytes : Bytes
  contentSha256 : String
  deriving DecidableEq

/-- `build_store_archive`; `none` where the environment has no directory. -/
def buildStoreArchive (libs : ArchiveLibs) (input : SnapshotInput)
    (envDir : Option (Listing Content)) : Except ArchiveError StoreArchive := do
  let some listing := envDir | .error (.missingDirectory input.envId)
  let walked ← libs.walk input [] listing ⟨Entries.insert input.envId none [], 0⟩
  let some seed := input.seed | .error .seed
  let entries := walked.entries.insert (input.envId ++ "/environment.json") (some seed)
  let entries := match input.devSecrets with
    | some secrets => entries.insert (input.envId ++ "/" ++ "/".intercalate devStore) (some secrets)
    | none => entries
  let entries := withParents entries
  let some content := libs.writeTar entries | .error .tar
  let hash := libs.hexSha256 content
  let marked := entries.insert markerPath (some (pathBytes (hash ++ "\n")))
  let some bytes := libs.writeTar marked | .error .tar
  return ⟨bytes, hash⟩

/-- Below the environment's directory, where the walk looks at no contents: in the
two dev-stores and in the backups. -/
def Unread (path : List String) : Prop :=
  path = devStore ∨ path = devStoreState ∨ path.head? = some "backups"

theorem classify_devStore : classify devStore false = .replaceDevStore := by decide

theorem classify_devStoreState : classify devStoreState false = .skip := by decide

theorem classify_backups (isDir : Bool) : classify ["backups"] isDir = .skip := by
  cases isDir <;> decide

theorem walk_alike (libs : ArchiveLibs) (input : SnapshotInput) {rel : List String}
    {left right : Listing Content} {permits : List String → Content → Content → Prop}
    (alike : Listing.Alike permits rel left right) (outside : rel.head? ≠ some "backups")
    (unread : ∀ path first second, permits path first second → first = second ∨ Unread path)
    (walked : Walked) : libs.walk input rel left walked = libs.walk input rel right walked := by
  induction alike generalizing walked with
  | nil => rfl
  | @file rel name first second rest rest' contents others ih =>
      rcases unread _ _ _ contents with same | at_
      · subst same
        simp only [ArchiveLibs.walk, ih outside]
      · have quiet : classify (rel ++ [name]) false = .replaceDevStore ∨
            classify (rel ++ [name]) false = .skip := by
          rcases at_ with dev | state | backups
          · rw [dev]
            exact .inl classify_devStore
          · rw [state]
            exact .inr classify_devStoreState
          · cases rel with
            | nil =>
                cases backups
                exact .inr (classify_backups false)
            | cons top more => exact absurd backups outside
        rcases quiet with verdict | verdict
        · simp only [ArchiveLibs.walk, verdict, ih outside]
        · simp only [ArchiveLibs.walk, verdict, ih outside]
  | symlink others ih => rfl
  | @directory rel name children children' rest rest' inner others ihInner ihOuter =>
      simp only [ArchiveLibs.walk]
      by_cases backups : rel ++ [name] = ["backups"]
      · rw [backups, classify_backups true]
        exact ihOuter outside walked
      · have below : (rel ++ [name]).head? ≠ some "backups" := by
          cases rel with
          | nil =>
              intro same
              cases same
              exact backups rfl
          | cons top more => exact outside
        rw [ihInner below]
        simp only [ihOuter outside]

theorem buildStoreArchive_alike (libs : ArchiveLibs) (input : SnapshotInput)
    {left right : Listing Content} {permits : List String → Content → Content → Prop}
    (alike : Listing.Alike permits [] left right)
    (unread : ∀ path first second, permits path first second → first = second ∨ Unread path) :
    buildStoreArchive libs input (some left) = buildStoreArchive libs input (some right) := by
  have walks := walk_alike libs input alike (by simp) unread
  simp only [buildStoreArchive, walks]

end GreenticDeployer.Ssh
