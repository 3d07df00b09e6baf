import GreenticDeployer.Lib.Located
import GreenticDeployer.Updates.Serving

/-!
# Envelope imports and the blobs they leave

An environment's update root with its content-addressed blobs and its import
receipt, and the verbs `import` and `cas-gc` as programs of calls on it. Plans may
change state between any two of these calls.
-/

set_option maxHeartbeats 200000

namespace GreenticDeployer.Updates

open Lib

structure KeptPlan where
  verified : VerifiedUpdatePlan
  planBytes : Bytes
  sigBytes : Bytes
  stage : UpdateStage
  artifactBlobs : List (String × Bytes)
  binaryBlobs : List (String × Bytes)
  deriving DecidableEq, Repr

def KeptPlan.planId (kept : KeptPlan) : PlanId := kept.verified.plan.planId

def KeptPlan.record (kept : KeptPlan) : StateRecord := ⟨kept.verified.plan, kept.stage⟩

structure ImportReceipt where
  envId : String
  heldDigests : List String
  deriving DecidableEq, Repr

structure UpdatesRoot where
  kept : List KeptPlan
  cas : List (String × Bytes)
  receipt : Option ImportReceipt
  deriving DecidableEq, Repr

namespace UpdatesRoot

def fresh : UpdatesRoot := ⟨[], [], none⟩

def casDigests (root : UpdatesRoot) : List String := root.cas.map Prod.fst

def find (root : UpdatesRoot) (planId : PlanId) : Option KeptPlan :=
  root.kept.find? fun kept => kept.planId = planId

def revise (root : UpdatesRoot) (planId : PlanId) (f : KeptPlan → KeptPlan) : UpdatesRoot :=
  match locate (fun kept => decide (kept.planId = planId)) root.kept with
  | none => root
  | some found => { root with kept := found.replace (f found.hit) }

def setStage (root : UpdatesRoot) (planId : PlanId) (stage : UpdateStage) : UpdatesRoot :=
  root.revise planId fun kept => { kept with stage := stage }

def putCas (root : UpdatesRoot) (digest : String) (bytes : Bytes) : UpdatesRoot :=
  { root with cas := (digest, bytes) :: root.cas.filter fun entry => entry.1 ≠ digest }

def removeCas (root : UpdatesRoot) (digest : String) : UpdatesRoot :=
  { root with cas := root.cas.filter fun entry => entry.1 ≠ digest }

end UpdatesRoot

/-- What the verbs `apply` and `recover` do to the kept plans: legal transitions, and
the retention of terminal ones. -/
inductive PlanChange where
  | transition (planId : PlanId) (target : UpdateStage)
  | evict (planId : PlanId)
  deriving DecidableEq, Repr

inductive RootCall where
  | preflightDigests (required carried : List String)
  | casGet (digest : String)
  | casPut (digest : String) (bytes : Bytes)
  | casList
  | casRemove (digest : String)
  | load (planId : PlanId)
  | stage (planId : PlanId)
  | list
  | beginChecked (verified : VerifiedUpdatePlan) (planBytes sigBytes : Bytes)
  | transition (planId : PlanId) (target : UpdateStage)
  | binaryStaged (planId : PlanId) (binary : PlanBinary)
  | putBinaryBlob (planId : PlanId) (binary : PlanBinary) (bytes : Bytes)
  | putArtifact (planId : PlanId) (artifact : PlanArtifact) (bytes : Bytes)
  | writeImportReceipt (receipt : ImportReceipt)

@[reducible] def RootCall.Reply : RootCall → Type
  | casGet _ => Option Bytes
  | casList => Option (List String)
  | load _ => Option (Option KeptPlan)
  | stage _ => Option UpdateStage
  | list => Option (List KeptPlan)
  | beginChecked _ _ _ => Except UpdateError KeptPlan
  | transition _ _ => Option UpdateStage
  | binaryStaged _ _ => Option Bool
  | preflightDigests _ _ | casPut _ _ | casRemove _ | putBinaryBlob _ _ _ | putArtifact _ _ _
  | writeImportReceipt _ => Option Unit

/-- What happens to the plans before a call, and how the call turns out. -/
structure RootInput where
  changes : List PlanChange
  turn : Turn

section Root

variable (crate : UpdateCrate) (sha256 : Bytes → String)

def UpdatesRoot.change (root : UpdatesRoot) : PlanChange → UpdatesRoot
  | .transition planId target =>
    match root.find planId with
    | none => root
    | some kept => if crate.legal kept.stage target then root.setStage planId target else root
  | .evict planId =>
    match locate (fun kept => decide (kept.planId = planId)) root.kept with
    | none => root
    | some found => if found.hit.stage.isTerminal then { root with kept := found.remove } else root

def UpdatesRoot.changed (root : UpdatesRoot) (changes : List PlanChange) : UpdatesRoot :=
  changes.foldl (UpdatesRoot.change crate) root

def UpdatesRoot.wrote (root : UpdatesRoot) (turn : Turn) (next : UpdatesRoot) :
    Option Unit × UpdatesRoot :=
  (turn.reply (), if turn.effective then next else root)

/-- A blob is returned where it still has its digest. -/
def UpdatesRoot.casGet (root : UpdatesRoot) (digest : String) : Option Bytes :=
  ((root.cas.find? fun entry => entry.1 = digest).map Prod.snd).filter
    fun bytes => sha256 bytes = digest

def UpdatesRoot.beginChecked (root : UpdatesRoot) (turn : Turn) (verified : VerifiedUpdatePlan)
    (planBytes sigBytes : Bytes) : Except UpdateError KeptPlan × UpdatesRoot :=
  match root.find verified.plan.planId with
  | some _ => (.error (.planExists verified.plan.planId), root)
  | none =>
    match admitPlan crate verified.plan
        (admissionFacts (root.kept.map KeptPlan.record) verified.plan.envId) with
    | .error e => (.error e, root)
    | .ok () =>
      let kept : KeptPlan := ⟨verified, planBytes, sigBytes, .downloading, [], []⟩
      (match turn with
        | .done => .ok kept
        | .failed _ => .error .staging,
       if turn.effective then { root with kept := kept :: root.kept } else root)

def UpdatesRoot.putBlob (root : UpdatesRoot) (turn : Turn) (planId : PlanId) (digest : String)
    (bytes : Bytes) (put : KeptPlan → KeptPlan) : Option Unit × UpdatesRoot :=
  match root.find planId with
  | none => (none, root)
  | some kept =>
    if kept.stage = .downloading ∧ sha256 bytes = digest then
      root.wrote turn (root.revise planId put)
    else (none, root)

def UpdatesRoot.call (turn : Turn) (root : UpdatesRoot) : (call : RootCall) →
    call.Reply × UpdatesRoot
  | .preflightDigests required carried =>
    (if required.all fun digest => digest ∈ carried ∨ digest ∈ root.casDigests
      then turn.reply () else none, root)
  | .casGet digest => ((root.casGet sha256 digest).bind fun bytes => turn.reply bytes, root)
  | .casPut digest bytes =>
    if sha256 bytes = digest then root.wrote turn (root.putCas digest bytes) else (none, root)
  | .casList => (turn.reply root.casDigests, root)
  | .casRemove digest => root.wrote turn (root.removeCas digest)
  | .load planId => (turn.reply (root.find planId), root)
  | .stage planId => ((root.find planId).bind fun kept => turn.reply kept.stage, root)
  | .list => (turn.reply root.kept, root)
  | .beginChecked verified planBytes sigBytes =>
    root.beginChecked crate turn verified planBytes sigBytes
  | .transition planId target =>
    match root.find planId with
    | none => (none, root)
    | some kept =>
      if crate.legal kept.stage target then
        (turn.reply target, if turn.effective then root.setStage planId target else root)
      else (none, root)
  | .binaryStaged planId binary =>
    ((root.find planId).bind fun kept =>
      turn.reply (decide (binary.digest ∈ kept.binaryBlobs.map Prod.fst)), root)
  | .putBinaryBlob planId binary bytes =>
    root.putBlob sha256 turn planId binary.digest bytes fun kept =>
      { kept with binaryBlobs := (binary.digest, bytes) :: kept.binaryBlobs }
  | .putArtifact planId artifact bytes =>
    root.putBlob sha256 turn planId artifact.digest bytes fun kept =>
      { kept with artifactBlobs := (artifact.digest, bytes) :: kept.artifactBlobs }
  | .writeImportReceipt receipt => root.wrote turn { root with receipt := some receipt }

def UpdatesRoot.exec (input : RootInput) (root : UpdatesRoot) (call : RootCall) :
    call.Reply × UpdatesRoot :=
  (root.changed crate input.changes).call crate sha256 input.turn call

end Root

inductive ImportError where
  | scan
  | unverified
  | notAddressed (planEnv envId : String)
  | manifestNames (manifestEnv envId : String)
  | preflight
  | corrupted (digests : List String)
  | casPut (digest : String)
  | casGet (name : String)
  | load
  | stage
  | list
  | differentPlan (planId : PlanId)
  | notResuming (planId : PlanId) (stage : UpdateStage)
  | admission (error : UpdateError)
  | putBlob (name : String)
  | advance
  | casList
  | casRemove (digest : String)
  | receipt
  deriving DecidableEq, Repr

abbrev Importing (α : Type) := Program.Fallible RootCall RootCall.Reply ImportError α

def orElse {α : Type} (e : ImportError) : Option α → Except ImportError α
  | some value => .ok value
  | none => .error e

/-- A scanned envelope: the plan, its signature, and the blobs it carries. -/
structure ScannedEnvelope where
  planBytes : Bytes
  sigBytes : Bytes
  blobs : List (String × Bytes)
  deriving DecidableEq, Repr

/-- Plan and manifest must name this very environment. -/
def checkImportAddress (envId : String) (verified : VerifiedUpdatePlan) :
    Except ImportError Unit :=
  if verified.plan.envId ≠ envId then .error (.notAddressed verified.plan.envId envId)
  else if verified.plan.manifestEnv ≠ envId then
    .error (.manifestNames verified.plan.manifestEnv envId)
  else .ok ()

/-- The digests outside the envelope whose blobs cannot be read back. -/
def corrupted (carried : List String) : List String → Importing (List String)
  | [] => return []
  | digest :: rest =>
    if digest ∈ carried then corrupted carried rest
    else do
      let held ← Program.ask (.casGet digest) .ok
      let others ← corrupted carried rest
      return if held.isNone then digest :: others else others

def importBlob (blob : String × Bytes) : Importing Unit :=
  Program.ask (.casPut blob.1 blob.2) (orElse (.casPut blob.1))

def admitted (outcome : Except UpdateError KeptPlan) : Except ImportError PlanId :=
  match outcome with
  | .ok kept => .ok kept.planId
  | .error e => .error (.admission e)

def checkAdmission (crate : UpdateCrate) (verified : VerifiedUpdatePlan) (records : List KeptPlan) :
    Except ImportError Unit :=
  match admitPlan crate verified.plan
      (admissionFacts (records.map KeptPlan.record) verified.plan.envId) with
  | .ok () => .ok ()
  | .error e => .error (.admission e)

def importAdmission (crate : UpdateCrate) (verified : VerifiedUpdatePlan)
    (planBytes sigBytes : Bytes) :
    Admission RootCall RootCall.Reply ImportError KeptPlan PlanId where
  load := Program.ask (.load verified.plan.planId) (orElse .load)
  beginChecked := Program.ask (.beginChecked verified planBytes sigBytes) admitted
  planSha256 := (·.verified.plan.planSha256)
  stage existing := Program.ask (.stage existing.planId) (orElse .stage)
  regate := do
    let records ← Program.ask .list (orElse .list)
    Program.lift (checkAdmission crate verified records)
  staged := KeptPlan.planId
  differentPlan := .differentPlan verified.plan.planId
  notResuming := .notResuming verified.plan.planId

def admitOrResumeImport (crate : UpdateCrate) (verified : VerifiedUpdatePlan)
    (planBytes sigBytes : Bytes) : Importing PlanId :=
  (importAdmission crate verified planBytes sigBytes).admitOrResume verified.plan.planSha256

/-- From the CAS, unless it is staged already. -/
def stageBinary (planId : PlanId) (binary : PlanBinary) : Importing Unit := do
  let staged ← Program.ask (.binaryStaged planId binary) fun reply => .ok (reply.getD false)
  if staged then return ()
  else
    let bytes ← Program.ask (.casGet binary.digest) (orElse (.casGet binary.name))
    Program.ask (.putBinaryBlob planId binary bytes) (orElse (.putBlob binary.name))

def stageArtifact (planId : PlanId) (artifact : PlanArtifact) : Importing Unit := do
  let bytes ← Program.ask (.casGet artifact.digest) (orElse (.casGet artifact.name))
  Program.ask (.putArtifact planId artifact bytes) (orElse (.putBlob artifact.name))

def stageBinaries (planId : PlanId) (binaries : List PlanBinary) : Importing Unit := do
  let stage ← Program.ask (.stage planId) (orElse .stage)
  if stage = .downloading then binaries.forM (stageBinary planId) else return ()

def advance (planId : PlanId) (target : UpdateStage) : Importing UpdateStage :=
  Program.ask (.transition planId target) (orElse .advance)

def stageArtifacts (planId : PlanId) (artifacts : List PlanArtifact) (promote : Bool) :
    Importing UpdateStage := do
  let stage ← Program.ask (.stage planId) (orElse .stage)
  if stage = .downloading then do
    artifacts.forM (stageArtifact planId)
    let reached ← advance planId .inbox
    if promote then advance planId .staged else return reached
  else if stage = .inbox ∧ promote then advance planId .staged
  else return stage

/-- The receipt names what the CAS holds now. -/
def signAndWriteReceipt (envId : String) : Importing Unit := do
  let inventory ← Program.ask .casList (orElse .casList)
  Program.ask (.writeImportReceipt ⟨envId, inventory⟩) (orElse .receipt)

/-- The preflight and the reading back, before anything is written. -/
def checkBlobs (verified : VerifiedUpdatePlan) (carried : List String) : Importing Unit := do
  Program.ask (.preflightDigests verified.digests carried) (orElse .preflight)
  let unreadable ← corrupted carried verified.digests
  if unreadable = [] then return () else throw (.corrupted unreadable)

def importImpl (verify : Verify) (crate : UpdateCrate) (envId : String) (scanned : ScannedEnvelope)
    (promote : Bool) : Importing UpdateStage := do
  let verified ← Program.lift (orElse .unverified (verify scanned.planBytes scanned.sigBytes))
  Program.lift (checkImportAddress envId verified)
  checkBlobs verified (scanned.blobs.map Prod.fst)
  scanned.blobs.forM importBlob
  let planId ← admitOrResumeImport crate verified scanned.planBytes scanned.sigBytes
  stageBinaries planId verified.binaries
  let stage ← stageArtifacts planId verified.plan.artifacts promote
  signAndWriteReceipt envId
  return stage

def importFile {Envelope : Type} (scan : Envelope → Option ScannedEnvelope) (verify : Verify)
    (crate : UpdateCrate) (envId : String) (envelope : Envelope) (promote : Bool) :
    Importing UpdateStage := do
  let scanned ← Program.lift (orElse .scan (scan envelope))
  importImpl verify crate envId scanned promote

def referencedDigests : List KeptPlan → Importing (List String)
  | [] => return []
  | state :: rest =>
    if state.stage.isTerminal then referencedDigests rest
    else do
      let loaded ← Program.ask (.load state.planId) (orElse .load)
      let others ← referencedDigests rest
      return (loaded.map (·.verified.digests)).getD [] ++ others

/-- Before anything is evicted, a receipt that claims nothing. -/
def disclaim (envId : String) (toEvict : List String) : Importing Unit :=
  if toEvict = [] then return ()
  else Program.ask (.writeImportReceipt ⟨envId, []⟩) (orElse .receipt)

def evictBlob (digest : String) : Importing Unit :=
  Program.ask (.casRemove digest) (orElse (.casRemove digest))

/-- `op updates cas-gc`. -/
def casGcImpl (envId : String) : Importing Unit := do
  let plans ← Program.ask .list (orElse .list)
  let referenced ← referencedDigests plans
  let blobs ← Program.ask .casList (orElse .casList)
  let toEvict := blobs.filter fun digest => digest ∉ referenced
  disclaim envId toEvict
  toEvict.forM evictBlob
  signAndWriteReceipt envId

end GreenticDeployer.Updates
