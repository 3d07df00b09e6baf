import GreenticDeployer.Lib.Crash
import GreenticDeployer.Local.PolicyFiles

/-!
# The operator's key files

Programs that load the operator's signing key, or generate it on first use, on one
machine and at the same time. The key is written once, atomically and without
replacing; its public sibling is written beside it and checked by every load.
-/

set_option maxHeartbeats 200000

namespace GreenticDeployer.Trust

open Spec Lib
open Local (Turn)

structure KeyPath where
  absolute : Bool
  /-- The innermost first. -/
  names : List String
  deriving DecidableEq

namespace KeyPath

def isEmpty (path : KeyPath) : Bool := !path.absolute && path.names.isEmpty

def parent : KeyPath → Option KeyPath
  | ⟨_, []⟩ => none
  | ⟨absolute, _ :: rest⟩ => some ⟨absolute, rest⟩

def display (path : KeyPath) : String :=
  (if path.absolute then "/" else "") ++ String.intercalate "/" path.names.reverse

end KeyPath

def publicSibling (path : KeyPath) : KeyPath :=
  match path.names with
  | [] => ⟨path.absolute, [".pub"]⟩
  | name :: rest => ⟨path.absolute, (name ++ ".pub") :: rest⟩

/-- What is found at a path without following a link there. A link shows what is
read through it. -/
inductive Node
  | regular (mode : Nat) (contents : String)
  | directory
  | special
  | symlink (target : Option String)
  deriving DecidableEq

abbrev KeyDisk := KeyPath → Option Node

inductive IoErrorKind
  | notFound
  | alreadyExists
  | filesystemLoop
  | other
  deriving DecidableEq, Repr

/-- An exclusive write is one call: the temporary file it goes through is not seen at
the path before it is linked there whole. -/
inductive KeyCall
  | symlinkMetadata (path : KeyPath)
  | openNoFollow (path : KeyPath)
  | readToString (path : KeyPath)
  | createDirAll (path : KeyPath)
  | writeExclusive (path : KeyPath) (contents : String) (mode : Nat)
  | removeFile (path : KeyPath)
  | setMode (path : KeyPath) (mode : Nat)

@[reducible] def KeyCall.Reply : KeyCall → Type
  | symlinkMetadata _ => Except IoErrorKind Bool
  | openNoFollow _ => Except IoErrorKind Node
  | readToString _ => Except IoErrorKind String
  | createDirAll _ => Except IoErrorKind Unit
  | writeExclusive .. => Except IoErrorKind Unit
  | removeFile _ => Except IoErrorKind Unit
  | setMode .. => Except IoErrorKind Unit

def Node.isSymlink : Node → Bool
  | .symlink _ => true
  | _ => false

def Node.opened : Node → Except IoErrorKind Node
  | .symlink _ => .error .filesystemLoop
  | node => .ok node

def Node.read : Node → Except IoErrorKind String
  | .regular _ contents => .ok contents
  | .symlink (some contents) => .ok contents
  | .symlink none => .error .notFound
  | _ => .error .other

namespace KeyDisk

variable (disk : KeyDisk)

def found {α : Type} (path : KeyPath) (use : Node → Except IoErrorKind α) :
    Except IoErrorKind α :=
  match disk path with
  | none => .error .notFound
  | some node => use node

/-- The missing directories on the way to a path are made. -/
def makeDirs (path : KeyPath) : KeyDisk := fun other =>
  match disk other with
  | some node => some node
  | none =>
    if other.absolute = path.absolute ∧ other.names ≠ [] ∧ other.names <:+ path.names then
      some .directory
    else none

/-- Whether a temporary file can be made beside a path. -/
def beside (path : KeyPath) : Except IoErrorKind Unit :=
  match path.parent with
  | none => .ok ()
  | some parent =>
    if parent.isEmpty then .ok ()
    else disk.found parent fun node =>
      match node with
      | .directory => .ok ()
      | .symlink _ => .ok ()
      | _ => .error .other

def linked (path : KeyPath) : Except IoErrorKind Unit := do
  disk.beside path
  match disk path with
  | none => .ok ()
  | some _ => .error .alreadyExists

end KeyDisk

/-- A call that fails for a reason of its own reports neither a missing nor an existing
file. -/
def gives {α : Type} (turn : Turn) (outcome : Except IoErrorKind α) : Except IoErrorKind α :=
  match turn with
  | .done => outcome
  | .failed _ => .error .other

namespace KeyDisk

variable (disk : KeyDisk)

def removable (path : KeyPath) : Except IoErrorKind Unit :=
  disk.found path fun node => if node = .directory then .error .other else .ok ()

def withMode (path : KeyPath) (mode : Nat) : KeyDisk :=
  match disk path with
  | some (.regular _ contents) => Function.update disk path (some (.regular mode contents))
  | _ => disk

end KeyDisk

def accessKey (turn : Turn) (disk : KeyDisk) : (call : KeyCall) → call.Reply × KeyDisk
  | .symlinkMetadata path => (gives turn (disk.found path fun node => .ok node.isSymlink), disk)
  | .openNoFollow path => (gives turn (disk.found path Node.opened), disk)
  | .readToString path => (gives turn (disk.found path Node.read), disk)
  | .createDirAll path => (gives turn (.ok ()), if turn.effective then disk.makeDirs path else disk)
  | .writeExclusive path contents mode =>
    (gives turn (disk.linked path), if turn.effective ∧ disk.linked path = .ok () then
      Function.update disk path (some (.regular mode contents)) else disk)
  | .removeFile path =>
    (gives turn (disk.removable path), if turn.effective ∧ disk.removable path = .ok () then
      Function.update disk path none else disk)
  | .setMode path mode => (gives turn (disk.found path fun _ => .ok ()),
      if turn.effective then disk.withMode path mode else disk)

inductive OperatorKeyError
  | io (kind : IoErrorKind)
  | keyDecode (detail : String)
  | signing (error : SigningError)
  | stalePublicKey (pubPath : KeyPath) (pubId privId : String)
  | entropy (detail : String)
  | insecurePermissions (path : KeyPath) (mode : Nat)
  | notRegularFile (path : KeyPath)
  | symlinkInAncestor (path ancestor : KeyPath)
  deriving DecidableEq

/-- Ed25519 keys and their PEM forms. What it writes of a private key it reads back. -/
structure KeyLibrary (K : Type) where
  fromBytes : BitVec 256 → K
  toPkcs8Pem : K → Except String String
  fromPkcs8Pem : String → Except String K
  toPublicKeyPem : K → Except String String
  keyIdForPublicKeyPem : String → Except SigningError String
  fromPkcs8Pem_toPkcs8Pem : ∀ key pem, toPkcs8Pem key = .ok pem → fromPkcs8Pem pem = .ok key

variable {K : Type} (lib : KeyLibrary K)

def derivePublicPemAndKeyId (privatePem : String) : Except OperatorKeyError (String × String) := do
  let sk ← (lib.fromPkcs8Pem privatePem).mapError fun e =>
    .keyDecode ("PKCS#8 private PEM: " ++ e)
  let publicPem ← (lib.toPublicKeyPem sk).mapError fun e => .keyDecode ("derive SPKI PEM: " ++ e)
  let keyId ← (lib.keyIdForPublicKeyPem publicPem).mapError .signing
  return (publicPem, keyId)

abbrev Keying (α : Type) := Program.Fallible KeyCall KeyCall.Reply OperatorKeyError α

def reply (call : KeyCall) : Keying call.Reply := Program.ask call .ok

def sortAncestor (path ancestor : KeyPath) : Except IoErrorKind Bool → Except OperatorKeyError PUnit
  | .ok true => .error (.symlinkInAncestor path ancestor)
  | .ok false => .ok ⟨⟩
  | .error .notFound => .ok ⟨⟩
  | .error kind => .error (.io kind)

def checkAncestor (path ancestor : KeyPath) : Keying PUnit :=
  Program.ask (.symlinkMetadata ancestor) (sortAncestor path ancestor)

/-- The walk from an ancestor outwards; a relative path ends at the empty one. -/
def refuseSymlinkFrom (path : KeyPath) : List String → Keying PUnit
  | [] => if path.absolute then checkAncestor path ⟨true, []⟩ else return ⟨⟩
  | name :: rest => do
    checkAncestor path ⟨path.absolute, name :: rest⟩
    refuseSymlinkFrom path rest

def refuseSymlinkInAncestors (path : KeyPath) : Keying PUnit :=
  match path.parent with
  | none => return ⟨⟩
  | some parent => refuseSymlinkFrom path parent.names

/-- What an opened key is worth: a regular file that its owner alone may read. -/
def sortOpened (path : KeyPath) : Except IoErrorKind Node → Except OperatorKeyError String
  | .ok (.regular mode contents) =>
    if (mode &&& 0o777) &&& 0o077 ≠ 0 then .error (.insecurePermissions path (mode &&& 0o777))
    else .ok contents
  | .ok _ => .error (.notRegularFile path)
  | .error .filesystemLoop => .error (.notRegularFile path)
  | .error kind => .error (.io kind)

def readExistingSecurely (path : KeyPath) : Keying String :=
  Program.ask (.openNoFollow path) (sortOpened path)

/-- A sibling that somebody else just wrote is left alone. -/
def writePublicSibling (path : KeyPath) (contents : String) : Keying PUnit :=
  Program.ask (.writeExclusive path contents 0o644) fun
    | .ok _ => .ok ⟨⟩
    | .error .alreadyExists => .ok ⟨⟩
    | .error kind => .error (.io kind)

def checkSibling (path : KeyPath) (keyId existingPub : String) : Except OperatorKeyError PUnit := do
  let existingId ← (lib.keyIdForPublicKeyPem existingPub).mapError fun e =>
    .keyDecode ("`.pub` sibling at " ++ (publicSibling path).display ++ ": " ++ e.detail)
  if eqIgnoreAsciiCase existingId keyId then .ok ⟨⟩
  else .error (.stalePublicKey (publicSibling path) existingId keyId)

def settleSibling (path : KeyPath) (publicPem keyId : String) :
    Except IoErrorKind String → Keying PUnit
  | .ok existingPub => Program.lift (checkSibling lib path keyId existingPub)
  | .error .notFound => writePublicSibling (publicSibling path) publicPem
  | .error kind => Program.lift (.error (.io kind))

def loadExisting (path : KeyPath) (privatePem : String) : Keying OperatorKey := do
  let (publicPem, keyId) ← Program.lift (derivePublicPemAndKeyId lib privatePem)
  let sibling ← reply (.readToString (publicSibling path))
  settleSibling lib path publicPem keyId sibling
  return ⟨keyId, privatePem, publicPem⟩

/-- A fresh pair from 32 random bytes. -/
def generatePair (seed : Except String (BitVec 256)) : Except OperatorKeyError OperatorKey := do
  let seed ← seed.mapError .entropy
  let sk := lib.fromBytes seed
  let privatePem ← (lib.toPkcs8Pem sk).mapError fun e => .keyDecode ("encode PKCS#8 PEM: " ++ e)
  let publicPem ← (lib.toPublicKeyPem sk).mapError fun e => .keyDecode ("encode SPKI PEM: " ++ e)
  let keyId ← (lib.keyIdForPublicKeyPem publicPem).mapError .signing
  return ⟨keyId, privatePem, publicPem⟩

def sortIo {α : Type} : Except IoErrorKind α → Except OperatorKeyError α
  | .ok value => .ok value
  | .error kind => .error (.io kind)

def createParent (path : KeyPath) : Keying Unit :=
  match path.parent with
  | none => return ()
  | some parent =>
    if parent.isEmpty then return () else Program.ask (.createDirAll parent) sortIo

/-- Whoever loses the race for the file adopts the winner's key, through the checks of
any other load. The winner's sibling is best effort. -/
def adoptOrKeep (path : KeyPath) (fresh : OperatorKey) :
    Except IoErrorKind Unit → Keying OperatorKey
  | .ok _ => do
    let _ ← reply (.writeExclusive (publicSibling path) fresh.publicPem 0o644)
    return fresh
  | .error .alreadyExists => do
    let existing ← readExistingSecurely path
    loadExisting lib path existing
  | .error kind => Program.lift (.error (.io kind))

def generateAt (path : KeyPath) (seed : Except String (BitVec 256)) : Keying OperatorKey := do
  let fresh ← Program.lift (generatePair lib seed)
  createParent path
  let written ← reply (.writeExclusive path fresh.privatePem 0o600)
  adoptOrKeep lib path fresh written

def loadOrGenerateOpened (path : KeyPath) (seed : Except String (BitVec 256)) :
    Except OperatorKeyError String → Keying OperatorKey
  | .ok privatePem => loadExisting lib path privatePem
  | .error (.io .notFound) => generateAt lib path seed
  | .error other => Program.lift (.error other)

def loadOrGenerateAt (path : KeyPath) (seed : Except String (BitVec 256)) : Keying OperatorKey := do
  refuseSymlinkInAncestors path
  let opened ← reply (.openNoFollow path)
  loadOrGenerateOpened lib path seed (sortOpened path opened)

def loadExistingAt (path : KeyPath) : Keying OperatorKey := do
  refuseSymlinkInAncestors path
  let privatePem ← readExistingSecurely path
  loadExisting lib path privatePem

def readSigningKeyAt (path : KeyPath) : Keying (String × String) := do
  refuseSymlinkInAncestors path
  let privatePem ← readExistingSecurely path
  let (_, keyId) ← Program.lift (derivePublicPemAndKeyId lib privatePem)
  return (privatePem, keyId)

/-- What runs on the machine: the three ways to the key, and the operator's hand on the
two files. -/
inductive KeyJob
  | loadOrGenerate (seed : Except String (BitVec 256))
  | loadExistingOnly
  | readSigningKey
  | removePublic
  | chmodKey (mode : Nat)

/-- What a job returns: private PEM and key id, if it is a key. -/
abbrev KeyIdentity := Option (String × String)

def OperatorKey.identity (key : OperatorKey) : KeyIdentity := some (key.privatePem, key.keyId)

def KeyJob.body (path : KeyPath) : KeyJob → Keying KeyIdentity
  | .loadOrGenerate seed => do return (← loadOrGenerateAt lib path seed).identity
  | .loadExistingOnly => do return (← loadExistingAt lib path).identity
  | .readSigningKey => do return some (← readSigningKeyAt lib path)
  | .removePublic => do
    let _ ← reply (.removeFile (publicSibling path))
    return none
  | .chmodKey mode => do
    let _ ← reply (.setMode path mode)
    return none

/-- What a job has read or written: the private key at the path, and the public one
beside it. -/
structure KeyKnown where
  pem : Option String
  sibling : Option String

def learnKey (path : KeyPath) (k : KeyKnown) : (call : KeyCall) → call.Reply → KeyKnown
  | .openNoFollow other, .ok (.regular _ pem) =>
    if other = path then { k with pem := some pem } else k
  | .readToString other, .ok contents =>
    if other = publicSibling path then { k with sibling := some contents } else k
  | .writeExclusive other contents _, .ok _ =>
    if other = path then { k with pem := some contents } else k
  | _, _ => k

/-- A machine on which jobs come, take turns and are cut off. -/
def keyHost (path : KeyPath) : Interleaving KeyDisk KeyJob KeyCall KeyCall.Reply KeyKnown
    (Except OperatorKeyError KeyIdentity) Turn PUnit where
  exec := accessKey
  reset := fun disk _ => disk
  start := fun _ => ⟨none, none⟩
  body := fun job => (job.body lib path).run
  learn := learnKey path

abbrev KeyPool := Pool KeyDisk KeyJob KeyCall KeyCall.Reply KeyKnown
  (Except OperatorKeyError KeyIdentity)

abbrev KeyAction := PoolAction KeyJob Turn PUnit

def keyRuns (path : KeyPath) : System KeyPool KeyAction := (keyHost lib path).system fun _ _ => True

end GreenticDeployer.Trust
