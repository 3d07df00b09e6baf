import GreenticDeployer.Lib.Programs

/-!
# Update plans and their staging

An environment's staged update plans, and the verbs `get`, `apply` and `recover`
as programs of store calls. Plans of the environment's own channel and of the
broadcast channel share one staging tree. What has been applied on a channel is
read off the plans still kept.
-/

set_option maxHeartbeats 200000

namespace GreenticDeployer.Updates

open Lib

inductive UpdateStage where
  | downloading
  | inbox
  | staged
  | applying
  | applied
  | failed
  | rejected
  deriving DecidableEq, Repr

def UpdateStage.isTerminal : UpdateStage → Bool
  | applied | failed | rejected => true
  | downloading | inbox | staged | applying => false

abbrev PlanId := String

structure PlanArtifact where
  name : String
  digest : String
  deriving DecidableEq, Repr

/-- A signed plan. Its `envId` is the channel it came on, `_` being the broadcast;
`manifestEnv` is the environment its target manifest names. -/
structure UpdatePlan where
  planId : PlanId
  envId : String
  sequence : Nat
  planSha256 : String
  manifestEnv : String
  requires : List PlanId
  artifacts : List PlanArtifact
  deriving DecidableEq, Repr

structure StateRecord where
  plan : UpdatePlan
  stage : UpdateStage
  deriving DecidableEq, Repr

/-- The kept plans, the one changed last first. `reached` is no data of the store:
the plans that have become `applied`, in that order. -/
structure Staging where
  kept : List StateRecord
  reached : List UpdatePlan
  deriving DecidableEq, Repr

def Staging.fresh : Staging := ⟨[], []⟩

def Staging.find (staging : Staging) (planId : PlanId) : Option StateRecord :=
  staging.kept.find? fun record => record.plan.planId = planId

structure AdmissionFacts where
  latestAppliedSequence : Option Nat
  appliedPlanIds : List PlanId
  deriving DecidableEq

def highest : List Nat → Option Nat
  | [] => none
  | n :: rest => some ((highest rest).elim n (max n))

def appliedOn (channel : String) (records : List StateRecord) : List StateRecord :=
  records.filter fun record => record.stage = .applied ∧ record.plan.envId = channel

/-- The watermark is the channel's own; `requires` looks at all channels. -/
def admissionFacts (records : List StateRecord) (channel : String) : AdmissionFacts where
  latestAppliedSequence := highest ((appliedOn channel records).map (·.plan.sequence))
  appliedPlanIds := (records.filter fun record => record.stage = .applied).map (·.plan.planId)

structure UpdateCrate where
  ensureNotDowngrade : UpdatePlan → Option Nat → Bool
  checkCompat : UpdatePlan → List PlanId → Bool
  legal : UpdateStage → UpdateStage → Bool

/-- What their documentation says of them: a plan must be newer than the
watermark, only an applying plan becomes applied, a terminal one stays as it is. -/
structure UpdateCrate.Documented (crate : UpdateCrate) : Prop where
  newer : ∀ plan high, crate.ensureNotDowngrade plan (some high) = true → high < plan.sequence
  applies : ∀ stage, crate.legal stage .applied = true → stage = .applying
  terminal : ∀ stage target, stage.isTerminal = true → crate.legal stage target = false

inductive UpdateError where
  /-- A call of the store failed. -/
  | staging
  | fetch
  | notAddressed (planEnv envId : String)
  | manifestNames (manifestEnv planEnv : String)
  | downgrade
  | incompatible
  | planExists (planId : PlanId)
  | differentPlan (planId : PlanId)
  | notResuming (planId : PlanId) (stage : UpdateStage)
  | notFound (planId : PlanId)
  | settling (planId : PlanId)
  | notStaged (planId : PlanId) (stage : UpdateStage)
  | tampered (planId : PlanId)
  | integrity (artifact : String)
  | alreadyApplying (applying : PlanId)
  | admission
  | snapshot
  | applyFailed (planId : PlanId) (restored : Bool)
  | markerStuck (planId : PlanId) (stage : Option UpdateStage)
  | notRecoverable (planId : PlanId) (stage : UpdateStage)
  | forceRequired (planId : PlanId)
  deriving DecidableEq, Repr

def admitPlan (crate : UpdateCrate) (verified : UpdatePlan) (facts : AdmissionFacts) :
    Except UpdateError Unit :=
  if crate.ensureNotDowngrade verified facts.latestAppliedSequence then
    if crate.checkCompat verified facts.appliedPlanIds then .ok () else .error .incompatible
  else .error .downgrade

/-- What `load` hands out: a plan's directory and the digest it was staged with. -/
structure StagedPlan where
  planId : PlanId
  planSha256 : String
  deriving DecidableEq, Repr

inductive BeginApplyError where
  | rejected (error : UpdateError)
  | alreadyApplying (applying : PlanId)
  | staging
  deriving DecidableEq, Repr

/-- One call each, the last three on the environment. -/
inductive UpdateCall where
  | load (planId : PlanId)
  | stage (planId : PlanId)
  | list
  | beginChecked (verified : UpdatePlan)
  | transition (planId : PlanId) (target : UpdateStage)
  | beginApplyChecked (verified : UpdatePlan)
  | applyRetention (keepTerminal : Nat)
  | fetch (artifact : PlanArtifact)
  | putArtifact (planId : PlanId) (artifact : PlanArtifact)
  | verifyArtifact (planId : PlanId) (artifact : PlanArtifact)
  | planBytes (planId : PlanId)
  | checkApplyable (plan : UpdatePlan)
  | snapshotEnvironment
  | runManifestApply (plan : UpdatePlan)
  | restoreEnvironment

@[reducible] def UpdateCall.Reply : UpdateCall → Type
  | load _ => Option (Option StagedPlan)
  | stage _ => Option UpdateStage
  | list => Option (List StateRecord)
  | beginChecked _ => Except UpdateError StagedPlan
  | transition _ _ => Option UpdateStage
  | beginApplyChecked _ => Except BeginApplyError Unit
  | applyRetention _ => Option Unit
  | fetch _ => Option Unit
  | putArtifact _ _ => Option Unit
  | verifyArtifact _ _ => Option Unit
  | planBytes _ => Option UpdatePlan
  | checkApplyable _ => Option Unit
  | snapshotEnvironment => Option Unit
  | runManifestApply _ => Option Unit
  | restoreEnvironment => Option Unit

/-- How a call turns out: it is done, or it fails, and a failed write may have
taken effect, as when only its audit line is missing. -/
inductive Turn where
  | done
  | failed (effective : Bool)
  deriving DecidableEq

def Turn.reply {α : Type} (turn : Turn) (value : α) : Option α :=
  match turn with
  | done => some value
  | failed _ => none

def Turn.effective : Turn → Bool
  | done => true
  | failed effective => effective

def Staging.renew (staging : Staging) (record : StateRecord) : Staging where
  kept := record :: staging.kept.filter fun other => other.plan.planId ≠ record.plan.planId
  reached := if record.stage = .applied then staging.reached ++ [record.plan] else staging.reached

/-- Everything in flight, and this many of the terminal plans. -/
def retained : Nat → List StateRecord → List StateRecord
  | _, [] => []
  | n, record :: rest =>
    if record.stage.isTerminal then
      match n with
      | 0 => retained 0 rest
      | n + 1 => record :: retained n rest
    else record :: retained n rest

/-- A call that writes, if it takes effect. -/
def commits {α ε : Type} (turn : Turn) (value : α) (failure : ε) (staging changed : Staging) :
    Except ε α × Staging :=
  (match turn with
    | .done => .ok value
    | .failed _ => .error failure,
   if turn.effective then changed else staging)

def beginChecked (crate : UpdateCrate) (turn : Turn) (staging : Staging) (verified : UpdatePlan) :
    Except UpdateError StagedPlan × Staging :=
  match staging.find verified.planId with
  | some _ => (.error (.planExists verified.planId), staging)
  | none =>
    match admitPlan crate verified (admissionFacts staging.kept verified.envId) with
    | .error e => (.error e, staging)
    | .ok () => commits turn ⟨verified.planId, verified.planSha256⟩ .staging staging
        (staging.renew ⟨verified, .downloading⟩)

def transition (crate : UpdateCrate) (turn : Turn) (staging : Staging) (planId : PlanId)
    (target : UpdateStage) : Option UpdateStage × Staging :=
  match staging.find planId with
  | none => (none, staging)
  | some record =>
    if crate.legal record.stage target then
      (turn.reply target,
        if turn.effective then staging.renew ⟨record.plan, target⟩ else staging)
    else (none, staging)

/-- At most one plan of an environment is applying. The facts are those of the
channel of the record found. -/
def beginApplyChecked (crate : UpdateCrate) (turn : Turn) (staging : Staging)
    (verified : UpdatePlan) : Except BeginApplyError Unit × Staging :=
  match staging.find verified.planId with
  | none => (.error .staging, staging)
  | some record =>
    if record.stage = .staged then
      match staging.kept.find? fun other => other.stage = .applying with
      | some other => (.error (.alreadyApplying other.plan.planId), staging)
      | none =>
        match admitPlan crate verified (admissionFacts staging.kept record.plan.envId) with
        | .error e => (.error (.rejected e), staging)
        | .ok () => commits turn () .staging staging (staging.renew ⟨record.plan, .applying⟩)
    else (.error .staging, staging)

def exec (crate : UpdateCrate) (turn : Turn) (staging : Staging) :
    (call : UpdateCall) → call.Reply × Staging
  | .load planId =>
    (turn.reply ((staging.find planId).map fun record => ⟨planId, record.plan.planSha256⟩), staging)
  | .stage planId =>
    ((staging.find planId).bind fun record => turn.reply record.stage, staging)
  | .list => (turn.reply staging.kept, staging)
  | .beginChecked verified => beginChecked crate turn staging verified
  | .transition planId target => transition crate turn staging planId target
  | .beginApplyChecked verified => beginApplyChecked crate turn staging verified
  | .applyRetention keepTerminal =>
    (turn.reply (), if turn.effective then
      { staging with kept := retained keepTerminal staging.kept } else staging)
  | .planBytes planId =>
    ((staging.find planId).bind fun record => turn.reply record.plan, staging)
  | .fetch _ => (turn.reply (), staging)
  | .putArtifact _ _ => (turn.reply (), staging)
  | .verifyArtifact _ _ => (turn.reply (), staging)
  | .checkApplyable _ => (turn.reply (), staging)
  | .snapshotEnvironment => (turn.reply (), staging)
  | .runManifestApply _ => (turn.reply (), staging)
  | .restoreEnvironment => (turn.reply (), staging)

abbrev Updating (α : Type) := Program.Fallible UpdateCall UpdateCall.Reply UpdateError α

def attempt (call : UpdateCall) (failure : UpdateError) {α : Type}
    (outcome : call.Reply → Option α) : Updating α :=
  Program.ask call fun reply =>
    match outcome reply with
    | some value => .ok value
    | none => .error failure

/-- `let _ = staged.transition(..)`. -/
def settle (planId : PlanId) (target : UpdateStage) : Updating Unit :=
  Program.ask (.transition planId target) fun _ => .ok ()

def checkPlanAddressesEnv (planEnv envId : String) : Except UpdateError Unit :=
  if planEnv = envId ∨ planEnv = "_" then .ok () else .error (.notAddressed planEnv envId)

def checkManifestMatchesPlanEnv (plan : UpdatePlan) : Except UpdateError Unit :=
  if plan.manifestEnv = plan.envId then .ok ()
  else .error (.manifestNames plan.manifestEnv plan.envId)

def currentAdmissionFacts (channel : String) : Updating AdmissionFacts := do
  let records ← attempt .list .staging id
  return admissionFacts records channel

/-- What `admit_or_resume` asks of a staging that finds a `P` under the plan's id and hands
out a `Q`. -/
structure Admission (C : Type) (R : C → Type) (ε P Q : Type) where
  load : Program.Fallible C R ε (Option P)
  beginChecked : Program.Fallible C R ε Q
  planSha256 : P → String
  stage : P → Program.Fallible C R ε UpdateStage
  regate : Program.Fallible C R ε Unit
  staged : P → Q
  differentPlan : ε
  notResuming : UpdateStage → ε

section Admission

variable {C : Type} {R : C → Type} {ε P Q : Type}

def Admission.resume (self : Admission C R ε P Q) (planSha256 : String) (existing : P) :
    Program.Fallible C R ε Q :=
  if self.planSha256 existing ≠ planSha256 then throw self.differentPlan
  else do
    let stage ← self.stage existing
    match stage with
    | .failed | .rejected => throw (self.notResuming stage)
    | .downloading | .inbox => do
      self.regate
      return self.staged existing
    | .staged | .applying | .applied => return self.staged existing

/-- A fresh plan is admitted with its begin; a stranded one is admitted anew
before it goes on, against the plans listed then. -/
def Admission.admitOrResume (self : Admission C R ε P Q) (planSha256 : String) :
    Program.Fallible C R ε Q := do
  let found ← self.load
  match found with
  | none => self.beginChecked
  | some existing => self.resume planSha256 existing

end Admission

def admission (crate : UpdateCrate) (verified : UpdatePlan) :
    Admission UpdateCall UpdateCall.Reply UpdateError StagedPlan StagedPlan where
  load := attempt (.load verified.planId) .staging id
  beginChecked := Program.ask (.beginChecked verified) id
  planSha256 := (·.planSha256)
  stage existing := attempt (.stage existing.planId) .staging id
  regate := do
    let facts ← currentAdmissionFacts verified.envId
    Program.lift (admitPlan crate verified facts)
  staged := id
  differentPlan := .differentPlan verified.planId
  notResuming := .notResuming verified.planId

def admitOrResume (crate : UpdateCrate) (verified : UpdatePlan) : Updating StagedPlan :=
  (admission crate verified).admitOrResume verified.planSha256

/-- A stage left, or the stage found where there is nothing to leave. -/
def promote (staged : StagedPlan) (source target stage : UpdateStage) : Updating UpdateStage :=
  if stage = source then attempt (.transition staged.planId target) .staging id
  else pure stage

def advanceToStaged (staged : StagedPlan) : Updating UpdateStage := do
  let stage ← attempt (.stage staged.planId) .staging id
  let stage ← promote staged .downloading .inbox stage
  promote staged .inbox .staged stage

def fetchAndPut (staged : StagedPlan) (artifact : PlanArtifact) : Updating Unit := do
  attempt (.fetch artifact) .fetch id
  attempt (.putArtifact staged.planId artifact) .staging id

def downloadAndStage (staged : StagedPlan) (artifacts : List PlanArtifact) :
    Updating UpdateStage := do
  let stage ← attempt (.stage staged.planId) .staging id
  if stage ≠ .downloading then return stage
  else
    artifacts.forM (fetchAndPut staged)
    advanceToStaged staged

/-- `op updates get` of a plan whose signature was verified. -/
def getUpdates (crate : UpdateCrate) (envId : String) (verified : UpdatePlan) :
    Updating UpdateStage := do
  Program.lift (checkPlanAddressesEnv verified.envId envId)
  Program.lift (checkManifestMatchesPlanEnv verified)
  let staged ← admitOrResume crate verified
  if verified.artifacts.isEmpty then advanceToStaged staged
  else downloadAndStage staged verified.artifacts

/-- The plan read back from the staging tree, with the checks of `get` again. -/
def reverifyStaged (staged : StagedPlan) (envId : String) : Updating UpdatePlan := do
  let verified ← attempt (.planBytes staged.planId) .staging id
  if verified.planSha256 ≠ staged.planSha256 then throw (.tampered verified.planId)
  else
    Program.lift (checkPlanAddressesEnv verified.envId envId)
    Program.lift (checkManifestMatchesPlanEnv verified)
    attempt (.checkApplyable verified) .staging id
    return verified

def orReject {α : Type} (staged : StagedPlan) (program : Updating α) : Updating α :=
  Program.rescue program fun e => do
    settle staged.planId .rejected
    throw e

/-- `begin_apply_checked`, and what follows from its errors. -/
def admitApply (staged : StagedPlan) (verified : UpdatePlan) : Updating Unit := do
  let admitted ← Program.ask (.beginApplyChecked verified) .ok
  match admitted with
  | .ok () => return ()
  | .error (.rejected e) => do
    settle staged.planId .rejected
    throw e
  | .error (.alreadyApplying applying) => throw (.alreadyApplying applying)
  | .error .staging => throw .admission

def keepTerminal : Nat := 5

def applyRetention : Updating Unit :=
  Program.ask (.applyRetention keepTerminal) fun _ => .ok ()

/-- Two attempts at `applied`; after that the stage read back decides. -/
def markApplied (staged : StagedPlan) : Nat → Updating Unit
  | attempts + 1 => do
    let reply ← Program.ask (.transition staged.planId .applied) .ok
    match reply with
    | some _ => applyRetention
    | none => markApplied staged attempts
  | 0 => do
    let stage ← Program.ask (.stage staged.planId) .ok
    if stage = some .applied then applyRetention
    else throw (.markerStuck staged.planId stage)

/-- The manifest is applied, or the snapshot is put back. -/
def applyManifest (staged : StagedPlan) (verified : UpdatePlan) : Updating Unit := do
  let applied ← Program.ask (.runManifestApply verified) .ok
  match applied with
  | some () => markApplied staged 2
  | none => do
    let restored ← Program.ask .restoreEnvironment .ok
    settle staged.planId .failed
    throw (.applyFailed verified.planId restored.isSome)

def takeSnapshot (staged : StagedPlan) : Updating Unit :=
  Program.rescue (attempt .snapshotEnvironment .snapshot id) fun e => do
    settle staged.planId .failed
    throw e

def applicable (planId : PlanId) (stage : UpdateStage) : Except UpdateError Unit :=
  match stage with
  | .staged => .ok ()
  | .applying => .error (.settling planId)
  | other => .error (.notStaged planId other)

/-- The staged plan of an id, as `apply` and `recover` find it. -/
def loadStaged (planId : PlanId) : Updating StagedPlan := do
  let found ← attempt (.load planId) .staging id
  match found with
  | none => throw (.notFound planId)
  | some staged => return staged

/-- `op updates apply`. -/
def applyUpdates (envId : String) (planId : PlanId) : Updating Unit := do
  let staged ← loadStaged planId
  let stage ← attempt (.stage staged.planId) .staging id
  Program.lift (applicable planId stage)
  let verified ← orReject staged (reverifyStaged staged envId)
  verified.artifacts.forM fun artifact =>
    orReject staged (attempt (.verifyArtifact staged.planId artifact) (.integrity artifact.name) id)
  admitApply staged verified
  takeSnapshot staged
  applyManifest staged verified

/-- `op updates recover`. -/
def recoverUpdates (planId : PlanId) (force : Bool) : Updating Unit := do
  let staged ← loadStaged planId
  let stage ← attempt (.stage staged.planId) .staging id
  if stage ≠ .applying then throw (.notRecoverable planId stage)
  else if force then
    let _ ← attempt (.transition staged.planId .failed) .staging id
    return ()
  else throw (.forceRequired planId)

inductive UpdateRequest where
  | get (envId : String) (verified : UpdatePlan)
  | apply (envId : String) (planId : PlanId)
  | recover (planId : PlanId) (force : Bool)

def UpdateRequest.body (crate : UpdateCrate) :
    UpdateRequest → Program UpdateCall UpdateCall.Reply (Except UpdateError Unit)
  | get envId verified => do
    let outcome ← (getUpdates crate envId verified).run
    return outcome.map fun _ => ()
  | apply envId planId => (applyUpdates envId planId).run
  | recover planId force => (recoverUpdates planId force).run

/-- Any number of verbs on one environment's staging tree. The processes may stop
at any call; the tree stays. -/
def updating (crate : UpdateCrate) : Interleaving Staging UpdateRequest UpdateCall UpdateCall.Reply
    Unit (Except UpdateError Unit) Turn Unit where
  exec := exec crate
  reset := fun staging _ => staging
  start := fun _ => ()
  body := UpdateRequest.body crate
  learn := fun _ _ _ => ()

end GreenticDeployer.Updates
