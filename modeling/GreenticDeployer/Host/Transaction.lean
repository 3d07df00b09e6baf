import GreenticDeployer.Lib.Crash
import GreenticDeployer.Engine.InlineStash

/-!
# The service transaction of a single host

The files of a service are replaced under a journal that holds their previous
contents. Every access to the disk and to the service manager is a call, and a
run may be cut off between any two. An atomic write takes effect or does not;
whether it then reports success is another matter.
-/

set_option maxHeartbeats 200000

namespace GreenticDeployer.Host

open Spec Engine Lib

abbrev Bytes := List UInt8

abbrev Mode := BitVec 32

def maxConfigBytes : Nat := 65536

def journalLimit : Nat := 512 * 1024

inductive Entry where
  | file (bytes : Bytes) (mode : Mode)
  /-- A directory, a link, a device. -/
  | irregular
  deriving DecidableEq

abbrev Disk := PathBuf → Option Entry

def Disk.set (disk : Disk) (path : PathBuf) (entry : Option Entry) : Disk :=
  Function.update disk path entry

inductive IoError where
  | notFound
  | other (text : String)
  deriving DecidableEq

def IoError.toText : IoError → String
  | .notFound => "No such file or directory (os error 2)"
  | .other text => text

inductive HostCall where
  | pathExists (path : PathBuf)
  | symlinkMetadata (path : PathBuf)
  /-- No more than so many bytes. -/
  | read (path : PathBuf) (limit : Nat)
  | atomicWriteBytes (path : PathBuf) (bytes : Bytes)
  | setPermissions (path : PathBuf) (mode : Mode)
  | syncFile (path : PathBuf)
  | removeFile (path : PathBuf)
  | syncParent (path : PathBuf)
  | enabled (service : String)
  | active (service : String)
  | run (action : String) (service : Option String)
  | preLaunch
  | healthy

def HostCall.Reply : HostCall → Type
  | .pathExists _ => Bool
  | .symlinkMetadata _ => Except IoError Entry
  | .read _ _ => Except IoError Bytes
  | .atomicWriteBytes _ _ => Except IoError Unit
  | .setPermissions _ _ => Except IoError Unit
  | .syncFile _ => Except IoError Unit
  | .removeFile _ => Except IoError Unit
  | .syncParent _ => Except IoError Unit
  | .enabled _ => Except String Bool
  | .active _ => Except String Bool
  | .run _ _ => Except String Unit
  | .preLaunch => Except String Unit
  | .healthy => Except String Unit

/-- How a call goes wrong: a write before it took effect or after. -/
inductive Fault where
  | before (text : String)
  | after (text : String)

structure Turn where
  fault : Option Fault
  /-- What the service manager answers. -/
  answer : Bool

def Turn.fails (turn : Turn) : Option String :=
  match turn.fault with
  | none => none
  | some (.before text) => some text
  | some (.after text) => some text

def Turn.effective (turn : Turn) : Bool :=
  match turn.fault with
  | some (.before _) => false
  | _ => true

def Turn.reply {α : Type} (turn : Turn) (value : α) : Except IoError α :=
  match turn.fails with
  | none => .ok value
  | some text => .error (.other text)

def Turn.verdict {α : Type} (turn : Turn) (value : α) : Except String α :=
  match turn.fails with
  | none => .ok value
  | some text => .error text

/-- A temporary file renamed over the target is the user's alone. -/
def tempMode : Mode := 0o600

def access (turn : Turn) (disk : Disk) : (call : HostCall) → call.Reply × Disk
  | .pathExists path => ((disk path).isSome, disk)
  | .symlinkMetadata path =>
    (match disk path with
      | none => .error .notFound
      | some entry => turn.reply entry, disk)
  | .read path limit =>
    (match disk path with
      | none => .error .notFound
      | some .irregular => .error (.other "not a regular file")
      | some (.file bytes _) => turn.reply (bytes.take limit), disk)
  | .atomicWriteBytes path bytes =>
    (turn.reply (), if turn.effective then disk.set path (some (.file bytes tempMode)) else disk)
  | .setPermissions path mode =>
    match disk path with
    | some (.file bytes _) =>
      (turn.reply (), if turn.effective then disk.set path (some (.file bytes mode)) else disk)
    | _ => (.error .notFound, disk)
  | .syncFile path => (if (disk path).isSome then turn.reply () else .error .notFound, disk)
  | .removeFile path =>
    match disk path with
    | none => (.error .notFound, disk)
    | some _ => (turn.reply (), if turn.effective then disk.set path none else disk)
  | .syncParent _ => (turn.reply (), disk)
  | .enabled _ => (turn.verdict turn.answer, disk)
  | .active _ => (turn.verdict turn.answer, disk)
  | .run _ _ => (turn.verdict (), disk)
  | .preLaunch => (turn.verdict (), disk)
  | .healthy => (turn.verdict (), disk)

inductive DeployerError where
  | config (message : String)
  | io (error : IoError)
  | json (message : String)

def DeployerError.toText : DeployerError → String
  | .config message => "configuration error: " ++ message
  | .io error => "IO error: " ++ error.toText
  | .json message => "JSON serialization error: " ++ message

def denied (message : String) : DeployerError := .config ("host deployment: " ++ message)

inductive SingleVmPlannedFileKind where
  | systemdUnit
  | environmentFile
  deriving DecidableEq

structure SingleVmPlannedFile where
  path : PathBuf
  kind : SingleVmPlannedFileKind
  contents : String

structure ValidatedHostPlan where
  serviceUnitName : String
  files : List SingleVmPlannedFile
  imageId : String

structure HostDeploymentPolicy where
  storageContract : String

inductive HostRequirementsVersion where
  | v1
  deriving DecidableEq

structure SavedFile where
  path : PathBuf
  bytes : Option Bytes
  mode : Mode
  deriving DecidableEq

structure Journal where
  schemaVersion : HostRequirementsVersion
  service : String
  files : List SavedFile
  enabled : Bool
  active : Bool
  deriving DecidableEq

structure Installed where
  schemaVersion : HostRequirementsVersion
  storageContract : String
  imageId : String
  deriving DecidableEq

structure HostApplyReport where
  service : String
  storageContract : String
  healthy : Bool
  recoveredInterruptedApply : Bool

/-- `serde_json` on the two records. -/
structure HostJson where
  journal : JsonCodec Bytes Journal
  installed : JsonCodec Bytes Installed

def fileName (path : PathBuf) : Option (List Char) :=
  match ((path.toList.splitOn '/').filter fun part => part ≠ [] ∧ part ≠ ['.']).getLast? with
  | some ['.', '.'] => none
  | last => last

/-- The text behind the last dot, unless that dot is the first character. -/
def extension (path : PathBuf) : Option (List Char) :=
  match (fileName path).map (List.splitOn '.') with
  | none => none
  | some [] => none
  | some [_] => none
  | some [[], _] => none
  | some parts => parts.getLast?

def statePath (root : PathBuf) (name : String) : PathBuf := root ++ "/" ++ (name ++ ".installed.json")

def journalPath (root : PathBuf) (name : String) : PathBuf := root ++ "/" ++ (name ++ ".pending.json")

abbrev Hosting := Program.Fallible HostCall HostCall.Reply DeployerError

def pathExists (path : PathBuf) : Hosting Bool := Program.ask (.pathExists path) .ok

def readBounded (path : PathBuf) : Hosting Bytes := do
  let bytes ← Program.ask (.read path (maxConfigBytes + 1)) fun reply => reply.mapError .io
  if bytes.length > maxConfigBytes then
    Program.lift (.error (denied "configuration or credential file exceeds 64 KiB"))
  else return bytes

/-- `None` where there is no entry. -/
def symlinkMetadata (path : PathBuf) : Hosting (Option Entry) :=
  Program.ask (.symlinkMetadata path) fun reply =>
    match reply with
    | .ok entry => .ok (some entry)
    | .error .notFound => .ok none
    | .error e => .error (.io e)

def saveFile (path : PathBuf) : Hosting SavedFile := do
  match ← symlinkMetadata path with
  | some (.file _ mode) =>
    let bytes ← readBounded path
    return ⟨path, some bytes, mode &&& 0o777⟩
  | some .irregular =>
    Program.lift (.error (denied "service transaction refuses non-regular files"))
  | none => return ⟨path, none, 0o600⟩

def saveFiles : List PathBuf → Hosting (List SavedFile)
  | [] => return []
  | path :: rest => do
    let saved ← saveFile path
    let others ← saveFiles rest
    return saved :: others

def write (path : PathBuf) (bytes : Bytes) : Hosting PUnit :=
  Program.ask (.atomicWriteBytes path bytes) fun reply =>
    match reply with
    | .ok _ => .ok ⟨⟩
    | .error e => .error (denied ("atomic service write failed: " ++ e.toText))

def removeDurable (path : PathBuf) : Hosting PUnit := do
  let removed ← Program.ask (.removeFile path) fun reply =>
    match reply with
    | .ok _ => .ok true
    | .error .notFound => .ok false
    | .error e => .error (.io e)
  if removed then
    Program.ask (.syncParent path) fun reply => (reply.mapError .io).map fun _ => ⟨⟩
  else return ⟨⟩

def runService (action : String) (service : Option String) : Hosting PUnit :=
  Program.ask (.run action service) fun reply => (reply.mapError denied).map fun _ => ⟨⟩

def runServiceIf (needed : Bool) (action : String) (service : Option String) : Hosting PUnit :=
  if needed then runService action service else return ⟨⟩

def unitExists : List SavedFile → Hosting Bool
  | [] => return false
  | saved :: rest => do
    if extension saved.path = some "service".toList then
      if ← pathExists saved.path then return true
      else unitExists rest
    else unitExists rest

def restoreFile (saved : SavedFile) : Hosting PUnit :=
  match saved.bytes with
  | some bytes => do
    write saved.path bytes
    Program.ask (.setPermissions saved.path saved.mode) fun reply => reply.mapError .io
    Program.ask (.syncFile saved.path) fun reply => (reply.mapError .io).map fun _ => ⟨⟩
  | none => removeDurable saved.path

/-- Stop first: a service that cannot be stopped keeps its files and the
journal. -/
def restore (journal : Journal) : Hosting PUnit := do
  let unit ← unitExists journal.files
  runServiceIf (journal.active || unit) "stop" (some journal.service)
  runServiceIf (!journal.enabled && unit) "disable" (some journal.service)
  journal.files.forM restoreFile
  runService "daemon-reload" none
  runServiceIf journal.enabled "enable" (some journal.service)
  runServiceIf journal.active "restart" (some journal.service)

variable (json : HostJson)

def readJournal (path : PathBuf) : Hosting Journal := do
  let bytes ← Program.ask (.read path (journalLimit + 1)) fun reply => reply.mapError .io
  if bytes.length > journalLimit then
    Program.lift (.error (denied "service journal exceeds size bound"))
  else Program.lift ((json.journal.fromValue bytes).mapError .json)

def plannedUnitExists : List SingleVmPlannedFile → Hosting Bool
  | [] => return false
  | file :: rest => do
    if file.kind = .systemdUnit then
      if ← pathExists file.path then return true
      else plannedUnitExists rest
    else plannedUnitExists rest

def validateStorageContract (plan : ValidatedHostPlan) (policy : HostDeploymentPolicy)
    (state : PathBuf) (recoveryPending : Bool) : Hosting PUnit := do
  if ← pathExists state then
    let bytes ← readBounded state
    let installed ← Program.lift ((json.installed.fromValue bytes).mapError .json)
    if installed.storageContract ≠ policy.storageContract then
      Program.lift (.error (denied ("storage contract change requires an explicit compatible " ++
        "migration; service rollback cannot downgrade data")))
    else return ⟨⟩
  else if recoveryPending then return ⟨⟩
  else if ← plannedUnitExists plan.files then
    Program.lift (.error (denied ("existing unmanaged service has no storage compatibility " ++
      "record; explicit migration is required")))
  else return ⟨⟩

def expectedPaths (plan : ValidatedHostPlan) (root : PathBuf) : List PathBuf :=
  plan.files.map (·.path) ++ [statePath root plan.serviceUnitName]

/-- A backup that a recovery may write back. -/
def SavedFile.admissible (saved : SavedFile) : Bool :=
  saved.mode &&& ~~~0o755 = 0 ∧ ∀ bytes ∈ saved.bytes, bytes.length ≤ maxConfigBytes

/-- The recovery at the start of a run; whether there was something to recover. -/
def recoverPending (plan : ValidatedHostPlan) (root : PathBuf) : Hosting Bool := do
  let pending := journalPath root plan.serviceUnitName
  if ← pathExists pending then
    let journal ← readJournal json pending
    if journal.service ≠ plan.serviceUnitName ∨
        journal.files.map (·.path) ≠ expectedPaths plan root then
      Program.lift (.error (denied
        "service recovery journal does not match the protected transaction paths"))
    else if journal.files.any fun saved => !saved.admissible then
      Program.lift (.error (denied "invalid protected service backup"))
    else do
      restore journal
      removeDurable pending
      return true
  else return false

def installedOf (plan : ValidatedHostPlan) (policy : HostDeploymentPolicy) : Installed :=
  ⟨.v1, policy.storageContract, plan.imageId⟩

def applyPlan (plan : ValidatedHostPlan) (policy : HostDeploymentPolicy) (root : PathBuf) :
    Hosting PUnit := do
  let name := plan.serviceUnitName
  plan.files.forM fun file => write file.path file.contents.toUTF8.data.toList
  runService "daemon-reload" none
  runService "enable" (some name)
  Program.ask .preLaunch fun reply => reply.mapError denied
  runService "restart" (some name)
  Program.ask .healthy fun reply => reply.mapError denied
  let installed ← Program.lift ((json.installed.toValue (installedOf plan policy)).mapError .json)
  write (statePath root name) installed
  removeDurable (journalPath root name)

/-- A journal that the failed part had already deleted is written again before
anything is restored. -/
def retainJournal (pending : PathBuf) (bytes : Bytes) : Hosting PUnit := do
  if ← pathExists pending then return ⟨⟩
  else write pending bytes

def rollBack (pending : PathBuf) (bytes : Bytes) (journal : Journal) (e : DeployerError) :
    Hosting HostApplyReport := do
  retainJournal pending bytes
  Program.rescue (restore journal) fun rollback => Program.lift (.error (denied
    ("apply failed (" ++ e.toText ++ "); recovery incomplete (" ++ rollback.toText ++
      "); protected journal retained")))
  removeDurable pending
  Program.lift (.error (denied ("apply failed (" ++ e.toText ++
    "); previous service files/state restored; workload data retained")))

def saveJournal (plan : ValidatedHostPlan) (root : PathBuf) : Hosting Journal := do
  let saved ← saveFiles (expectedPaths plan root)
  let name := plan.serviceUnitName
  let enabled ← Program.ask (.enabled name) fun reply => reply.mapError denied
  let active ← Program.ask (.active name) fun reply => reply.mapError denied
  return ⟨.v1, name, saved, enabled, active⟩

def beginTransaction (plan : ValidatedHostPlan) (policy : HostDeploymentPolicy) (root : PathBuf)
    (recovered : Bool) : Hosting HostApplyReport := do
  let name := plan.serviceUnitName
  let pending := journalPath root name
  validateStorageContract json plan policy (statePath root name) false
  let journal ← saveJournal plan root
  let bytes ← Program.lift ((json.journal.toValue journal).mapError .json)
  if bytes.length > journalLimit then
    Program.lift (.error (denied "service backup exceeds journal limit"))
  else do
    write pending bytes
    Program.rescue
      (do
        applyPlan json plan policy root
        return ⟨name, policy.storageContract, true, recovered⟩)
      (rollBack pending bytes journal)

def executeTransaction (plan : ValidatedHostPlan) (policy : HostDeploymentPolicy)
    (root : PathBuf) : Hosting HostApplyReport := do
  let recovered ← recoverPending json plan root
  beginTransaction json plan policy root recovered

end GreenticDeployer.Host
