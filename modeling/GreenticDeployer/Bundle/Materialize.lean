import GreenticDeployer.Bundle.Contents
import GreenticDeployer.Lib.Crash

/-!
# Materialising a revision from its bundle

One run moves the directory found aside, lays down the extraction anew and checks
it, and moves the old one back where a step fails. Each operation may fail, or
the run may be cut before it.
-/

set_option maxHeartbeats 200000

namespace GreenticDeployer.Bundle

open Spec Lib

/-- The revision's directory and the one it is moved aside to. -/
structure Dirs where
  revDir : Option Extraction
  backup : Option Extraction
  deriving DecidableEq, Repr

/-- What a run finds besides: the bundle at its path, if it is a file, and the
platform pack cached for the environment. -/
structure Source where
  bundle : Option Bytes
  cached : Option Bytes

/-- How an operation turns out. One that fails may leave anything of what it was
writing or removing; a lookup may overlook what is there, and says nothing of it. -/
inductive Turn where
  | done
  | failed (debris : Extraction)
  | overlooked (seen : RelPath → Bool)

def Turn.sees : Turn → Bool
  | done | failed _ => true
  | overlooked _ => false

/-- The operations. Reads of the tree with no write in between are one call. -/
inductive MaterializeCall where
  | load
  | removeBackup
  | revDirExists
  | setAside
  | bundleIsFile
  | clearExtract
  | createExtract
  | copyBundle
  | hashStaged
  | unbundle
  | hasManifest
  | runtimePacks
  | webchatUi (packs : Tree)
  | stageUi (bytes : Bytes)
  | hashPacks (packs : Tree)
  | writeLock (lock : PackListLock)
  | configInputs
  | packIds (packs : Tree)
  | createConfigDir
  | readInput (path : RelPath)
  | writeConfig (config : PackConfig)
  | refreshRuntimeConfig
  /-- The removal and the rename of the roll-back. -/
  | discard
  | restore

@[reducible] def MaterializeCall.Reply : MaterializeCall → Type
  | revDirExists | bundleIsFile | hasManifest => Bool
  | hashStaged => Option String
  | runtimePacks | configInputs => Option Tree
  | webchatUi _ => Option (Option Bytes)
  | packIds _ => List String
  | load | removeBackup | setAside | clearExtract | createExtract | copyBundle | unbundle
  | stageUi _ | hashPacks _ | writeLock _ | createConfigDir | readInput _ | writeConfig _
  | refreshRuntimeConfig | discard | restore => Option Unit

def Dirs.write (dirs : Dirs) (change : Extraction → Extraction) : Dirs :=
  { dirs with revDir := some (change (dirs.revDir.getD .empty)) }

def Dirs.tree (dirs : Dirs) : Tree := (dirs.revDir.bind (·.tree)).getD []

def Dirs.bundle (dirs : Dirs) : Bytes := (dirs.revDir.bind (·.bundle)).getD ""

/-- A write that is done, or fails and leaves what it left. -/
def writing (turn : Turn) (dirs : Dirs) (change : Extraction → Extraction) : Option Unit × Dirs :=
  match turn with
  | .done => (some (), dirs.write change)
  | .failed debris => (none, { dirs with revDir := some debris })
  | .overlooked _ => (none, dirs)

def reading {α : Type} (turn : Turn) (value : α) (overlooked : (RelPath → Bool) → Option α) :
    Option α :=
  match turn with
  | .done => some value
  | .failed _ => none
  | .overlooked seen => overlooked seen

/-- A listing that skips what it overlooks. -/
def listing (turn : Turn) (files : Tree) : Option Tree :=
  reading turn files fun seen => some (files.filter fun file => seen file.1)

/-- A directory moved to a name that is not taken. -/
def Dirs.setAside (dirs : Dirs) : Option Unit × Dirs :=
  match dirs.backup with
  | some _ => (none, dirs)
  | none => (some (), ⟨none, dirs.revDir⟩)

section Exec

variable (formats : Formats) (source : Source)

def exec (turn : Turn) (dirs : Dirs) : (call : MaterializeCall) → call.Reply × Dirs
  | .load => (reading turn () fun _ => none, dirs)
  | .removeBackup =>
    match turn with
    | .done => (some (), { dirs with backup := none })
    | .failed debris => (none, { dirs with backup := dirs.backup.map fun _ => debris })
    | .overlooked _ => (none, dirs)
  | .revDirExists => (turn.sees && dirs.revDir.isSome, dirs)
  | .setAside =>
    match turn with
    | .done => dirs.setAside
    | .failed _ | .overlooked _ => (none, dirs)
  | .bundleIsFile => (turn.sees && source.bundle.isSome, dirs)
  | .clearExtract =>
    match turn with
    | .overlooked _ => (some (), dirs)
    | .done => (some (), { dirs with revDir := dirs.revDir.map ({ · with tree := none }) })
    | .failed debris => (none, { dirs with revDir := dirs.revDir.map fun _ => debris })
  | .createExtract => writing turn dirs ({ · with tree := some [] })
  | .copyBundle => writing turn dirs ({ · with bundle := source.bundle })
  | .hashStaged => (reading turn (formats.sha256 dirs.bundle) fun _ => none, dirs)
  | .unbundle =>
    match formats.unbundle dirs.bundle with
    | some files => writing turn dirs ({ · with tree := some files })
    | none => (none, dirs)
  | .hasManifest => (turn.sees && dirs.tree.any (·.1 = manifestPath), dirs)
  | .runtimePacks => (listing turn (runtimePacks dirs.tree), dirs)
  | .webchatUi packs =>
    (reading turn (if formats.needsWebchatUi (packs.map (·.2)) then source.cached else none)
      fun _ => some none, dirs)
  | .stageUi bytes =>
    writing turn dirs fun dir => { dir with tree := dir.tree.map (· ++ uiFile (some bytes)) }
  | .hashPacks _ => (reading turn () fun _ => none, dirs)
  | .writeLock lock => writing turn dirs ({ · with lock := some lock })
  | .configInputs => (listing turn (configInputs dirs.tree), dirs)
  | .packIds packs =>
    (if turn.sees then packConfigPackIds formats packs else packs.map fun file => fileStem file.1,
      dirs)
  | .createConfigDir => writing turn dirs id
  | .readInput _ => (reading turn () fun _ => none, dirs)
  | .writeConfig config => writing turn dirs fun dir => { dir with configs := dir.configs ++ [config] }
  | .refreshRuntimeConfig => (reading turn () fun _ => none, dirs)
  | .discard => (some (), { dirs with revDir := none })
  | .restore => (some (), ⟨dirs.backup, none⟩)

end Exec

abbrev Materializing (α : Type) :=
  Program.Fallible MaterializeCall MaterializeCall.Reply OpError α

def attempt (call : MaterializeCall) {α : Type} (outcome : call.Reply → Option α)
    (failure : OpError) : Materializing α :=
  Program.ask call fun reply =>
    match outcome reply with
    | some value => .ok value
    | none => .error failure

def require (call : MaterializeCall) (holds : call.Reply → Bool) (failure : OpError) :
    Materializing Unit :=
  Program.ask call fun reply => if holds reply then .ok () else .error failure

/-- What `stage_local_bundle` hands on: the digest of the copy, and the packs of the
lock it has written. -/
structure StagedBundle where
  bundleDigest : String
  packs : Tree

def stageUiPack (ui : Option Bytes) : Materializing Unit :=
  match ui with
  | none => pure ()
  | some bytes => attempt (.stageUi bytes) id .io

def pinPacks (target : Target) : Materializing Tree := do
  let own ← attempt .runtimePacks id .io
  Program.lift (guardThat (own ≠ []) .noPacks)
  let ui ← attempt (.webchatUi own) id .io
  stageUiPack ui
  let packs := own ++ uiFile ui
  Program.lift (guardThat (UniquePackIds packs) .duplicatePackId)
  attempt (.hashPacks packs) id .io
  attempt (.writeLock (target.lock packs)) id .io
  return packs

def stageInto (target : Target) : Materializing StagedBundle := do
  attempt .clearExtract id .io
  attempt .createExtract id .io
  attempt .copyBundle id .io
  let digest ← attempt .hashStaged id .io
  attempt .unbundle id .extract
  require .hasManifest id .notABundle
  let packs ← pinPacks target
  return ⟨digest, packs⟩

/-- `stage_local_bundle`: a failed stage leaves no directory. -/
def stageLocalBundle (target : Target) : Materializing StagedBundle := do
  require .bundleIsFile id .notAFile
  Program.rescue (stageInto target) fun e => do
    attempt .discard id .io
    throw e

def writePackConfig (target : Target) (ids : List String) (file : RelPath × Bytes) :
    Materializing Unit := do
  attempt (.readInput file.1) id .io
  let config ← Program.lift (target.config ids file)
  attempt (.writeConfig config) id .io

def materializePackConfigs (target : Target) (packs : Tree) : Materializing Unit := do
  let ids ← Program.ask (.packIds packs) .ok
  let inputs ← attempt .configInputs id .io
  if inputs.isEmpty then return ()
  else
    attempt .createConfigDir id .io
    inputs.forM (writePackConfig target ids)

def materializeIntoRevDir (target : Target) : Materializing Unit := do
  let staged ← stageLocalBundle target
  Program.lift (target.gate staged.bundleDigest)
  materializePackConfigs target staged.packs

/-- Discard the partial attempt and bring back what was set aside. -/
def rollBack (hadExisting : Bool) : Materializing Unit := do
  attempt .discard id .io
  if hadExisting then attempt .restore id .io else pure ()

/-- An operation whose failure is not looked at. -/
def ignoring (call : MaterializeCall) : Materializing Unit := Program.ask call fun _ => .ok ()

def setAside : Materializing Bool := do
  ignoring .removeBackup
  let hadExisting ← Program.ask .revDirExists .ok
  if hadExisting then
    attempt .setAside id .io
    return true
  else return false

/-- The revision and its deployment's bundle, looked up in the environment. -/
def locate (formats : Formats) (env : Environment) (revisionId : RevisionId) :
    Except OpError Target :=
  match env.revisions.find? (·.revisionId = revisionId) with
  | none => .error .notFound
  | some revision =>
    match env.bundles.find? (·.deploymentId = revision.deploymentId) with
    | none => .error .notFound
    | some deployment => .ok ⟨formats, env.environmentId, deployment.bundleId, revision⟩

def materializeRevisionFromBundle (formats : Formats) (env : Environment)
    (revisionId : RevisionId) : Materializing Unit := do
  attempt .load id .io
  let target ← Program.lift (locate formats env revisionId)
  let hadExisting ← setAside
  Program.rescue (do
    materializeIntoRevDir target
    attempt .refreshRuntimeConfig id .io) fun e => do
      rollBack hadExisting
      throw e
  ignoring .removeBackup

/-- A run with its bundle. It is cut where its turns end. -/
structure MaterializeRun where
  source : Source
  turns : List Turn

/-- The directories, whether some run has returned `Ok`, and whether the last one has
returned at all. -/
structure History where
  dirs : Dirs
  promoted : Bool
  returned : Bool
  deriving DecidableEq

section System

variable (formats : Formats) (env : Environment) (revisionId : RevisionId)

def MaterializeRun.outcome (run : MaterializeRun) (dirs : Dirs) : Option (Except OpError Unit) :=
  (materializeRevisionFromBundle formats env revisionId).run.outcome (exec formats run.source) dirs
    run.turns

def MaterializeRun.after (run : MaterializeRun) (dirs : Dirs) : Dirs :=
  (materializeRevisionFromBundle formats env revisionId).run.cut (exec formats run.source) dirs
    run.turns

def MaterializeRun.step (history : History) (run : MaterializeRun) : History where
  dirs := run.after formats env revisionId history.dirs
  promoted := history.promoted || (run.outcome formats env revisionId history.dirs).any (·.isOk)
  returned := (run.outcome formats env revisionId history.dirs).isSome

end System

end GreenticDeployer.Bundle
