import GreenticDeployer.Lib.Programs
import GreenticDeployer.Apply.Ownership

/-!
# Applying manifests to one environment

An apply executes its steps, verifies, records what its manifest owns and, asked
to, retires what the manifest owns and no longer declares. Any number of applies
run at once; the environment document and the ledger are all they share.
-/

set_option maxHeartbeats 200000

namespace GreenticDeployer.Apply

open Spec Lib Engine

inductive Refusal where
  | store
  | engine
  | provider
  | ledger (error : LedgerError)
  | removal (error : RemovalError)
  | unverified
  deriving DecidableEq

/-- The store transactions of a retire, in the order they come. -/
inductive RetireStep where
  | begin
  | drain (revisionId : RevisionId)
  | archive (revisionId : RevisionId)
  | remove
  deriving DecidableEq

def RetireStep.verb (deploymentId : DeploymentId) : RetireStep → Verb
  | .begin => .beginRetire deploymentId
  | .drain revisionId => .drainRevision revisionId
  | .archive revisionId => .archiveRevision revisionId
  | .remove => .removeBundle deploymentId

/-- One atomic call: a read of either document, a call out to the provider, one
step of the execute half, the ledger write, or one transaction of a retire. -/
inductive ApplyCall where
  | loadEnv
  | loadLedger
  | hook
  | engine (verb : Verb)
  | record (env : Environment) (owner : Owner) (declared : List DeploymentId) (prune : Bool)
  | retire (deploymentId : DeploymentId) (step : RetireStep)

@[reducible] def ApplyReply : ApplyCall → Type
  | .loadEnv => Except Refusal Environment
  | .loadLedger => Except Refusal OwnershipLedger
  | _ => Except Refusal Unit

abbrev ApplyProgram := Program.Fallible ApplyCall ApplyReply Refusal

/-- A mutating apply: its manifest, and its diff and verification as functions of
the environment they read. -/
structure ApplyRun where
  owner : Owner
  bundles : List Declaration
  prune : Bool
  steps : Environment → List Verb
  verifies : Environment → Bool

def load : ApplyProgram Environment := Program.ask .loadEnv fun reply => reply

def hook : ApplyProgram Unit := Program.ask .hook fun reply => reply

def record (apply : ApplyRun) (env : Environment) : ApplyProgram Unit :=
  Program.ask (.record env apply.owner (declaredIds env apply.bundles) apply.prune)
    fun reply => reply

def retireStep (deploymentId : DeploymentId) (step : RetireStep) : ApplyProgram Unit :=
  Program.ask (.retire deploymentId step) fun reply => reply

def teardown (deploymentId : DeploymentId) (archive : List RevisionId) (revisionId : RevisionId) :
    ApplyProgram Unit := do
  hook
  if revisionId ∈ archive then retireStep deploymentId (.archive revisionId) else pure ()

def retireDeployment (deploymentId : DeploymentId) : ApplyProgram Unit := do
  let _ ← load
  hook
  retireStep deploymentId .begin
  let env ← load
  let steps ← Program.lift ((retireSteps env deploymentId).mapError .removal)
  steps.drainStamp.forM fun revisionId => retireStep deploymentId (.drain revisionId)
  steps.drainHook.forM fun _ => hook
  steps.teardown.forM (teardown deploymentId steps.archive)
  retireStep deploymentId .remove

def planOf (apply : ApplyRun) (env : Environment) (ledger : OwnershipLedger) :
    List DeploymentId :=
  prunePlan env (ledger.prunableBy apply.owner env) (declaredIds env apply.bundles)

def planFor (apply : ApplyRun) (env : Environment) : ApplyProgram (List DeploymentId) := do
  let ledger ← Program.ask .loadLedger fun reply => reply
  pure (planOf apply env ledger)

/-- The refusals of a prune: the provider's, and an endpoint left stranded. -/
def checkPlan (env : Environment) (plan : List DeploymentId) : ApplyProgram Unit :=
  if plan = [] then pure ()
  else do
    hook
    let retiring := (plan.insertionSort fun a b => a.ulid ≤ b.ulid).dedup
    Program.lift ((checkRetireSetLinks env retiring).mapError .removal)

def preview (apply : ApplyRun) (env : Environment) : ApplyProgram Unit := do
  let plan ← planFor apply env
  checkPlan env plan

/-- The prune, planned anew on the environment the apply has left. -/
def executePrune (apply : ApplyRun) : ApplyProgram Unit := do
  let env ← load
  let plan ← planFor apply env
  checkPlan env plan
  plan.forM retireDeployment
  let after ← load
  record apply after

def executeStep (verb : Verb) : ApplyProgram Unit := Program.ask (.engine verb) fun reply => reply

def verify (apply : ApplyRun) : ApplyProgram Unit := do
  let env ← load
  if apply.verifies env then pure () else Program.lift (.error .unverified)

def ifPruning (apply : ApplyRun) (program : ApplyProgram Unit) : ApplyProgram Unit :=
  if apply.prune then program else pure ()

def applyManifest (apply : ApplyRun) : ApplyProgram Unit := do
  let env ← load
  ifPruning apply (preview apply env)
  (apply.steps env).forM executeStep
  verify apply
  let applied ← load
  record apply applied
  ifPruning apply (executePrune apply)

/-- An apply that executed and verified: its manifest's key and what it declared. -/
structure Applied where
  key : String
  declared : List OwnedDeployment
  deriving DecidableEq

/-- The two documents, and beside them what no document holds: the applies that
succeeded, oldest first, and every deployment an id was ever minted for. -/
structure ApplyState where
  env : Environment
  ledger : Option OwnershipLedger
  history : List Applied
  minted : List OwnedDeployment

/-- How a call fares: it goes through, what it calls refuses, or the store cannot
be read or written. -/
inductive Turn where
  | goes
  | refuses
  | breaks
  deriving DecidableEq

def ApplyState.put (state : ApplyState) (env : Environment) (verb : Verb) : ApplyState :=
  { state with env := env, minted := state.minted ++ (deploys verb).toList }

def ApplyState.succeed (state : ApplyState) (owner : Owner) (env : Environment)
    (declared : List DeploymentId) : ApplyState :=
  { state with
    history := state.history ++
      [⟨owner.key, (census env).filter fun owned => owned.deploymentId ∈ declared⟩] }

def readLedger (turn : Turn) (state : ApplyState) : Except LedgerError OwnershipLedger :=
  if turn = .breaks then .error .unreadable else loadLedger state.ledger

def writeLedger (state : ApplyState) (before next : OwnershipLedger) : Option OwnershipLedger :=
  if next = before then state.ledger else some next

variable (serde : SerdeJson) (ext : Externals)

/-- One call. A ledger that cannot be written fails an apply that prunes; another
apply only warns. -/
def execCall (turn : Turn) (state : ApplyState) : (c : ApplyCall) → ApplyReply c × ApplyState
  | .loadEnv => (if turn = .breaks then .error .store else .ok state.env, state)
  | .loadLedger => ((readLedger turn state).mapError .ledger, state)
  | .hook => (if turn = .goes then .ok () else .error .provider, state)
  | .engine verb =>
    if turn = .breaks then (.error .store, state)
    else (if turn = .goes then .ok () else .error .engine,
      state.put (persist serde ext state.env verb) verb)
  | .record env owner declared prune =>
    match readLedger turn state with
    | .error e =>
      if prune then (.error (.ledger e), state) else (.ok (), state.succeed owner env declared)
    | .ok before =>
      (.ok (), { state.succeed owner env declared with
        ledger := writeLedger state before (recordOwnership env owner declared before) })
  | .retire deploymentId step =>
    if turn = .breaks then (.error .store, state)
    else if (step.verb deploymentId).applies state.env then
      (.ok (), state.put (persist serde ext state.env (step.verb deploymentId))
        (step.verb deploymentId))
    else (.error .engine, state)

/-- Who works on the environment: an apply, or an operator with a verb. -/
inductive Job where
  | apply (run : ApplyRun)
  | operate (verb : Verb)

def Job.program : Job → Program ApplyCall ApplyReply (Except Refusal Unit)
  | .apply run => (applyManifest run).run
  | .operate verb => (executeStep verb).run

/-- What an apply has read: the latest environment, whether it has recorded, and
the two documents its prune was planned on. -/
structure Standing where
  latest : Option Environment
  recorded : Bool
  view : Option (Environment × OwnershipLedger)

def Standing.learn (known : Standing) : (c : ApplyCall) → ApplyReply c → Standing
  | .loadEnv, .ok env => { known with latest := some env }
  | .loadLedger, .ok ledger =>
    -- The plan of a preview is shown and forgotten.
    if known.recorded then { known with view := known.latest.map fun env => (env, ledger) }
    else known
  | .record .., .ok _ => { known with recorded := true, view := none }
  | _, _ => known

/-- What the job is set on retiring. -/
def Job.planned (known : Standing) : Job → List DeploymentId
  | .apply run =>
    match known.view with
    | none => []
    | some view => planOf run view.1 view.2
  | .operate _ => []

def applies : Interleaving ApplyState Job ApplyCall ApplyReply Standing (Except Refusal Unit)
    Turn Unit where
  exec := execCall serde ext
  reset := fun state _ => state
  start := fun _ => ⟨none, false, none⟩
  body := Job.program
  learn := Standing.learn

abbrev ApplyPool := Pool ApplyState Job ApplyCall ApplyReply Standing (Except Refusal Unit)

end GreenticDeployer.Apply
