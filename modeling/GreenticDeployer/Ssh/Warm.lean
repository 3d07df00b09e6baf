import GreenticDeployer.Lib.Crash
import GreenticDeployer.Spec.Documents

/-!
# The warm of an SSH host

A warm brings one VM to a binary, a store and a systemd unit by small remote
commands. It re-reads the VM at every step and rolls nothing back. Each command
is a call: it takes effect and reports so, or fails with or without its effect,
and the deployer may stop before any of them.
-/

set_option maxHeartbeats 200000

namespace GreenticDeployer.Ssh

open Spec Lib

abbrev Bytes := List UInt8

inductive Node
  | directory
  | file (bytes : Bytes)
  | link (target : PathBuf)
  deriving DecidableEq

/-- The contents of a directory, by path below it. -/
abbrev Tree := PathBuf → Option Node

inductive Slot
  | a
  | b
  deriving DecidableEq

/-- `STORE_SLOTS`. -/
def Slot.name : Slot → String
  | a => "store-a"
  | b => "store-b"

/-- Where the environment lives on the VM. -/
structure Layout where
  installDir : PathBuf
  envId : String

namespace Layout

def path (layout : Layout) (name : String) : PathBuf := layout.installDir ++ ("/" ++ name)

def slotPath (layout : Layout) (slot : Slot) : PathBuf := layout.path slot.name

/-- `RUNTIME_KEY_FILE`, below a slot. -/
def keyPath (layout : Layout) : PathBuf := layout.envId ++ "/revision-signing.key"

def logsPath (layout : Layout) : PathBuf := layout.envId ++ "/logs"

end Layout

/-- `STORE_MARKER_FILE`, below a slot. -/
def markerPath : PathBuf := ".greentic-store.sha256"

structure Running where
  binary : Option Bytes
  storeMarker : Option Bytes
  unit : Option Bytes
  deriving DecidableEq

/-- `restartDue`: the installed binary, the store link or the unit changed since
the service was last started; `reloadDue`: the unit changed since systemd last
read it. -/
structure Vm where
  installed : Option Bytes
  staged : Option Bytes
  slots : Slot → Option Tree
  nextLink : Option PathBuf
  liveLink : Option PathBuf
  stagedUnit : Option Bytes
  installedUnit : Option Bytes
  loadedUnit : Option Bytes
  running : Option Running
  restartDue : Bool
  reloadDue : Bool

def withMarker (digest : Tree → Bytes) (content : Tree) : Tree :=
  Function.update content markerPath (some (.file (digest content)))

namespace Vm

/-- The slot the store link points at. -/
def activeSlot (layout : Layout) (vm : Vm) : Option Slot :=
  if vm.liveLink = some (layout.slotPath .a) then some .a
  else if vm.liveLink = some (layout.slotPath .b) then some .b
  else none

def nodeIn (vm : Vm) (slot : Slot) (path : PathBuf) : Option Node := (vm.slots slot).bind (· path)

/-- What `cat store/<marker>` prints. -/
def liveMarker (layout : Layout) (vm : Vm) : Option Bytes :=
  (vm.activeSlot layout).bind fun slot =>
    match vm.nodeIn slot markerPath with
    | some (.file bytes) => some bytes
    | _ => none

def setSlot (vm : Vm) (slot : Slot) (tree : Option Tree) : Vm :=
  { vm with slots := Function.update vm.slots slot tree }

def putNode (vm : Vm) (slot : Slot) (path : PathBuf) (node : Node) : Vm :=
  vm.setSlot slot ((vm.slots slot).map fun tree => Function.update tree path (some node))

def keyIn (layout : Layout) (vm : Vm) (slot : Slot) : Option Bytes :=
  match vm.nodeIn slot layout.keyPath with
  | some (.file bytes) => some bytes
  | _ => none

def liveKey (layout : Layout) (vm : Vm) : Option Bytes :=
  (vm.activeSlot layout).bind (vm.keyIn layout)

def loadUnits (vm : Vm) : Vm := { vm with loadedUnit := vm.installedUnit, reloadDue := false }

def launch (layout : Layout) (vm : Vm) (healthy : Bool) : Vm :=
  { vm with
    running :=
      if healthy then some ⟨vm.installed, vm.liveMarker layout, vm.loadedUnit⟩ else none
    restartDue := false }

def start (layout : Layout) (vm : Vm) (healthy : Bool) : Vm :=
  if vm.running.isSome then vm else vm.launch layout healthy

end Vm

/-- The commands of a warm, each with what it names of the layout left out. -/
inductive SshCall
  | checkAccount (account : String)
  | makeDirectories
  | ownDirectories (account : String)
  | testBinary
  | hashBinary
  | uploadBinary (bytes : Bytes)
  | makeExecutable
  | probeBinary
  | removeBinary
  | installBinary
  | readMarker
  | ownStore (account : String)
  | readLink
  | clearSlot (slot : Slot)
  | makeSlot (slot : Slot)
  | extract (slot : Slot) (archive : Tree)
  | testKey (slot : Slot)
  | copyKey (source target : Slot)
  | linkLogs (slot : Slot)
  | ownSlot (account : String) (slot : Slot)
  | linkNext (slot : Slot)
  | activate
  | uploadUnit (text : Bytes)
  | compareUnit
  | installUnit
  | reloadSystemd
  | enable
  | restart
  | enableNow
  | settle
  | isActive
  | readJournal

/-- Exit status and output, without the whitespace around it that every reader
trims. -/
structure RemoteOutput where
  success : Bool
  stdout : Bytes

/-- `none` is a failed transport. -/
@[reducible] def SshCall.Reply : SshCall → Type := fun _ => Option RemoteOutput

inductive Extent
  | nothing
  | part
  | whole

/-- How a command ends: well, with the connection lost, or with a bad exit
status; the two failures with some extent of its effect. -/
inductive Fate
  | done
  | lost (extent : Extent)
  | refused (extent : Extent)

/-- How one call turns out: its fate, what an `rm` or `tar` that got only part of
the way leaves in its slot, and whether what is executed runs well and what it
prints. -/
structure Turn where
  fate : Fate
  debris : Option Tree
  healthy : Bool
  printed : Bytes

namespace Turn

def extent (turn : Turn) : Extent :=
  match turn.fate with
  | .done => .whole
  | .lost extent => extent
  | .refused extent => extent

def report (turn : Turn) : Option RemoteOutput :=
  match turn.fate with
  | .done => some ⟨true, []⟩
  | .lost _ => none
  | .refused _ => some ⟨false, []⟩

/-- A question is answered truthfully, or the connection is lost. -/
def answer (turn : Turn) (output : RemoteOutput) : Option RemoteOutput :=
  match turn.fate with
  | .done => some output
  | .lost _ => none
  | .refused _ => some output

/-- What is left of a command that takes effect or not. -/
def leaves (turn : Turn) (vm next : Vm) : Vm :=
  match turn.extent with
  | .nothing => vm
  | .part => next
  | .whole => next

/-- What is left of an `rm` or `tar`, which may also take effect in part. -/
def rewrites (turn : Turn) (vm : Vm) (slot : Slot) (tree : Option Tree) : Vm :=
  match turn.extent with
  | .nothing => vm
  | .part => vm.setSlot slot turn.debris
  | .whole => vm.setSlot slot tree

end Turn

def pathBytes (path : PathBuf) : Bytes := path.toByteArray.data.toList

def overlay (archive tree : Tree) : Tree := fun path => (archive path).or (tree path)

def emptyTree : Tree := fun _ => none

def outputOf : Option Bytes → RemoteOutput
  | some bytes => ⟨true, bytes⟩
  | none => ⟨false, []⟩

def exitOf (success : Bool) : RemoteOutput := ⟨success, []⟩

/-- What `systemctl is-active` prints. -/
def activeText : Bytes := pathBytes "active"

def inactiveText : Bytes := pathBytes "inactive"

/-- One command on the VM. `systemctl enable` reloads the units as well, and
`enable --now` starts a service only where it does not run. -/
def access (layout : Layout) (sha256 : Bytes → Bytes) (turn : Turn) (vm : Vm) :
    SshCall → Option RemoteOutput × Vm
  | .checkAccount _ => (turn.report, vm)
  | .makeDirectories => (turn.report, vm)
  | .ownDirectories _ => (turn.report, vm)
  | .testBinary => (turn.answer (exitOf vm.installed.isSome), vm)
  | .hashBinary => (turn.answer (outputOf (vm.installed.map sha256)), vm)
  | .uploadBinary bytes => (turn.report, turn.leaves vm { vm with staged := some bytes })
  | .makeExecutable => (turn.report, vm)
  | .probeBinary => (turn.answer ⟨turn.healthy, turn.printed⟩, vm)
  | .removeBinary => (turn.report, turn.leaves vm { vm with staged := none })
  | .installBinary =>
    match vm.staged with
    | some bytes => (turn.report, turn.leaves vm
        { vm with installed := some bytes, staged := none, restartDue := true })
    | none => (turn.answer (exitOf false), vm)
  | .readMarker => (turn.answer (outputOf (vm.liveMarker layout)), vm)
  | .ownStore _ => (turn.report, vm)
  | .readLink => (turn.answer (outputOf (vm.liveLink.map pathBytes)), vm)
  | .clearSlot slot => (turn.report, turn.rewrites vm slot none)
  | .makeSlot slot =>
    (turn.report, turn.leaves vm (vm.setSlot slot (some ((vm.slots slot).getD emptyTree))))
  | .extract slot archive =>
    match vm.slots slot with
    | some tree => (turn.report, turn.rewrites vm slot (some (overlay archive tree)))
    | none => (turn.answer (exitOf false), vm)
  | .testKey slot => (turn.answer (exitOf (vm.keyIn layout slot).isSome), vm)
  | .copyKey source target =>
    match vm.keyIn layout source with
    | some key => (turn.report, turn.leaves vm (vm.putNode target layout.keyPath (.file key)))
    | none => (turn.answer (exitOf false), vm)
  | .linkLogs slot =>
    (turn.report, turn.leaves vm (vm.putNode slot layout.logsPath (.link (layout.path "logs"))))
  | .ownSlot _ _ => (turn.report, vm)
  | .linkNext slot =>
    (turn.report, turn.leaves vm { vm with nextLink := some (layout.slotPath slot) })
  | .activate =>
    match vm.nextLink with
    | some target => (turn.report, turn.leaves vm
        { vm with liveLink := some target, nextLink := none, restartDue := true })
    | none => (turn.answer (exitOf false), vm)
  | .uploadUnit text => (turn.report, turn.leaves vm { vm with stagedUnit := some text })
  | .compareUnit =>
    (turn.answer (exitOf (vm.stagedUnit.isSome && vm.stagedUnit == vm.installedUnit)), vm)
  | .installUnit =>
    match vm.stagedUnit with
    | some text => (turn.report, turn.leaves vm
        { vm with installedUnit := some text, restartDue := true, reloadDue := true })
    | none => (turn.answer (exitOf false), vm)
  | .reloadSystemd => (turn.report, turn.leaves vm vm.loadUnits)
  | .enable => (turn.report, turn.leaves vm vm.loadUnits)
  | .restart => (turn.report, turn.leaves vm (vm.launch layout turn.healthy))
  | .enableNow => (turn.report, turn.leaves vm (vm.loadUnits.start layout turn.healthy))
  | .settle => (turn.report, vm)
  | .isActive =>
    (turn.answer (if vm.running.isSome then ⟨true, activeText⟩ else ⟨false, inactiveText⟩), vm)
  | .readJournal => (turn.answer ⟨turn.healthy, turn.printed⟩, vm)

inductive Cause
  | transport
  | exited
  | unreadable
  | missing
  | rejected
  | notActive
  deriving DecidableEq

inductive SshError
  | step (step : String) (cause : Cause)
  | snapshot
  deriving DecidableEq

/-- What one warm works from: the service account where it is not the login user,
the `start_binary` answer with what reading that file gives, what `build_store_archive`
packs and the rendered unit. -/
structure WarmInput where
  foreignServiceUser : Option String
  startBinary : Option (Option Bytes)
  snapshot : Option Tree
  unit : Bytes

abbrev Warming (α : Type) := Program.Fallible SshCall SshCall.Reply SshError α

/-- `Session::run`: only a lost connection is an error. -/
def run (step : String) (call : SshCall) : Warming RemoteOutput :=
  Program.ask call fun reply =>
    match reply with
    | some output => .ok output
    | none => .error (.step step .transport)

/-- `Session::run_ok`, also `upload`. -/
def runOk (step : String) (call : SshCall) : Warming PUnit :=
  Program.ask call fun reply =>
    match reply with
    | some output => if output.success then .ok ⟨⟩ else .error (.step step .exited)
    | none => .error (.step step .transport)

def forAccount (account : Option String) (command : String → Warming PUnit) : Warming PUnit :=
  match account with
  | some account => command account
  | none => pure ⟨⟩

section Warm

variable (layout : Layout) (sha256 : Bytes → Bytes) (digest : Tree → Bytes)

def readActiveSlot (layout : Layout) : Warming (Option Slot) := do
  let active ← run "reading the active store slot" .readLink
  return if active.success then
      [Slot.a, Slot.b].find? fun slot => pathBytes (layout.slotPath slot) = active.stdout
    else none

/-- The answer to the removal is not looked at. -/
def rejectBinary : Warming Bool := do
  Program.rescue
    (runOk "removing the rejected greentic-start" .removeBinary) (fun _ => pure ⟨⟩)
  throw (.step "checking the new greentic-start" .rejected)

def replaceBinary (localBytes : Bytes) : Warming Bool := do
  runOk "copying greentic-start" (.uploadBinary localBytes)
  runOk "making greentic-start executable" .makeExecutable
  let probe ← run "checking the new greentic-start" .probeBinary
  if probe.success ∧ probe.stdout ≠ [] then
    runOk "installing greentic-start" .installBinary
    return true
  else rejectBinary

def syncBinary (input : WarmInput) : Warming Bool :=
  match input.startBinary with
  | none => do
    let probe ← run "checking for greentic-start" .testBinary
    if probe.success then return false
    else throw (.step "checking for greentic-start" .missing)
  | some none => throw (.step "reading start_binary" .unreadable)
  | some (some localBytes) => do
    let current ← run "hashing the installed greentic-start" .hashBinary
    if current.success ∧ current.stdout = sha256 localBytes then return false
    else replaceBinary localBytes

def carryKey (active : Option Slot) (next : Slot) : Warming PUnit :=
  match active with
  | none => pure ⟨⟩
  | some active => do
    let found ← run "looking for the runtime signing key" (.testKey active)
    if found.success then
      runOk "carrying over the runtime signing key" (.copyKey active next)
    else pure ⟨⟩

def nextSlot : Option Slot → Slot
  | some .a => .b
  | _ => .a

def fillSlot (slot : Slot) (archive : Tree) : Warming PUnit := do
  runOk "clearing the inactive store slot" (.clearSlot slot)
  runOk "creating the inactive store slot" (.makeSlot slot)
  runOk "extracting the store snapshot" (.extract slot archive)

/-- The tail of `sync_store`: fill the other slot, then switch. -/
def switchStore (input : WarmInput) (archive : Tree) : Warming Bool := do
  let active ← readActiveSlot layout
  let slot := nextSlot active
  fillSlot slot archive
  carryKey active slot
  runOk "linking the persistent logs directory" (.linkLogs slot)
  forAccount input.foreignServiceUser fun account =>
    runOk "giving the service account the new store" (.ownSlot account slot)
  runOk "preparing the store switch" (.linkNext slot)
  runOk "activating the new store" .activate
  return true

def syncStore (input : WarmInput) : Warming Bool :=
  match input.snapshot with
  | none => throw .snapshot
  | some snapshot => do
    let marker ← run "reading the store marker" .readMarker
    if marker.success ∧ marker.stdout = digest snapshot then
      forAccount input.foreignServiceUser fun account =>
        runOk "giving the service account the store" (.ownStore account)
      return false
    else switchStore layout input (withMarker digest snapshot)

def installUnit (input : WarmInput) : Warming Bool := do
  runOk "uploading the systemd unit" (.uploadUnit input.unit)
  let compared ← run "comparing the systemd unit" .compareUnit
  if compared.success then return false
  else
    runOk "installing the systemd unit" .installUnit
    runOk "reloading systemd" .reloadSystemd
    return true

/-- The journal only goes into the text of the error. -/
def checkService : Warming PUnit := do
  let state ← run "checking the service" .isActive
  if state.success ∧ state.stdout = activeText then pure ⟨⟩
  else
    Program.rescue (runOk "reading the service log" .readJournal) (fun _ => pure ⟨⟩)
    throw (.step "checking the service" .notActive)

def startService (changed : Bool) : Warming PUnit := do
  if changed then
    runOk "enabling the service" .enable
    runOk "restarting the service" .restart
  else
    runOk "starting the service" .enableNow
  runOk "letting the service settle" .settle
  checkService

/-- `warm`, returning whether it changed something. -/
def warm (input : WarmInput) : Warming Bool := do
  forAccount input.foreignServiceUser fun account =>
    runOk "checking the service account" (.checkAccount account)
  runOk "creating the install directories" .makeDirectories
  forAccount input.foreignServiceUser fun account =>
    runOk "giving the service account its directories" (.ownDirectories account)
  let newBinary ← syncBinary sha256 input
  let newStore ← syncStore layout digest input
  let newUnit ← installUnit input
  let changed := newBinary || newStore || newUnit
  startService changed
  return changed

end Warm

/-- A warm, cut off where its turns end, or the runtime writing the signing key it
does not find. -/
inductive Action
  | warm (input : WarmInput) (turns : List Turn)
  | keyWritten (key : Bytes)

def writeKey (layout : Layout) (vm : Vm) (key : Bytes) : Vm :=
  match vm.activeSlot layout with
  | some slot =>
    if (vm.keyIn layout slot).isSome then vm else vm.putNode slot layout.keyPath (.file key)
  | none => vm

def vmSystem (layout : Layout) (sha256 : Bytes → Bytes) (digest : Tree → Bytes) :
    System Vm (Action) where
  step := fun vm action =>
    match action with
    | .warm input turns => (warm layout sha256 digest input).run.cut (access layout sha256) vm turns
    | .keyWritten key => writeKey layout vm key
  allowed := fun _ _ => True

end GreenticDeployer.Ssh
