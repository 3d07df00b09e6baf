import Mathlib.Data.List.AList
import GreenticDeployer.Local.PolicyFiles
import GreenticDeployer.Local.RuntimeConfig

/-!
# The local store and its projections

A typed verb loads the environment, applies the engine, saves, and refreshes the
projection its group owns: the runtime config, or the messaging directory. Each
file is written whole or not at all, and any call may fail.
-/

set_option maxHeartbeats 200000

namespace GreenticDeployer.Local.Projections

open Spec Engine Lib

structure MessagingEndpointIndexEntry where
  endpointId : MessagingEndpointId
  providerType : String
  providerId : String
  displayName : String
  deriving DecidableEq

def materializeMessagingIndex (env : Environment) : List MessagingEndpointIndexEntry :=
  env.messagingEndpoints.map fun e => ⟨e.endpointId, e.providerType, e.providerId, e.displayName⟩

/-- `environment.json`, `runtime-config.json`, and the messaging directory: the
files named by an endpoint id, and `index.json`. -/
structure Disk where
  env : Environment
  runtimeConfig : Option RuntimeConfig
  endpoints : AList fun _ : MessagingEndpointId => MessagingEndpoint
  index : Option (List MessagingEndpointIndexEntry)

inductive StoreFile
  | environment
  | billingPolicy
  | runtimeConfig
  | messagingDir
  | endpoint (id : MessagingEndpointId)
  | messagingIndex
  deriving DecidableEq

inductive StoreCall
  | load
  | backup (file : StoreFile)
  | writeEnvironment (env : Environment)
  | writePolicy
  | configExists
  | readConfig
  | writeConfig (cfg : RuntimeConfig)
  | removeConfig
  | listEndpoints
  | readEndpoint (id : MessagingEndpointId)
  | writeEndpoint (endpoint : MessagingEndpoint)
  | removeEndpoint (id : MessagingEndpointId)
  | indexExists
  | readIndex
  | writeIndex (index : List MessagingEndpointIndexEntry)
  | removeIndex

@[reducible] def StoreCall.Reply : StoreCall → Type
  | load => Option Environment
  | configExists | indexExists => Bool
  | readConfig => Option RuntimeConfig
  | listEndpoints => Option (List MessagingEndpointId)
  | readEndpoint _ => Option MessagingEndpoint
  | readIndex => Option (List MessagingEndpointIndexEntry)
  | _ => Option Unit

def change (turn : Turn) (disk changed : Disk) : Option Unit × Disk :=
  (turn.reply, if turn.effective then changed else disk)

def access (turn : Turn) (disk : Disk) : (call : StoreCall) → call.Reply × Disk
  | .load => (turn.reply.map fun _ => disk.env, disk)
  | .backup _ => (turn.reply, disk)
  | .writeEnvironment env => change turn disk { disk with env := env }
  | .writePolicy => (turn.reply, disk)
  | .configExists => (disk.runtimeConfig.isSome, disk)
  | .readConfig => (turn.reply.bind fun _ => disk.runtimeConfig, disk)
  | .writeConfig cfg => change turn disk { disk with runtimeConfig := some cfg }
  | .removeConfig => change turn disk { disk with runtimeConfig := none }
  | .listEndpoints => (turn.reply.map fun _ => disk.endpoints.keys, disk)
  | .readEndpoint id => (turn.reply.bind fun _ => disk.endpoints.lookup id, disk)
  | .writeEndpoint endpoint =>
    change turn disk { disk with endpoints := disk.endpoints.insert endpoint.endpointId endpoint }
  | .removeEndpoint id => change turn disk { disk with endpoints := disk.endpoints.erase id }
  | .indexExists => (disk.index.isSome, disk)
  | .readIndex => (turn.reply.bind fun _ => disk.index, disk)
  | .writeIndex index => change turn disk { disk with index := some index }
  | .removeIndex => change turn disk { disk with index := none }

inductive StoreError
  | io (file : StoreFile)
  | spec (error : SpecError)
  | revision (error : RevisionLifecycleError)
  | bundle (error : BundleError)
  | binding (error : BindingError)
  | traffic (error : TrafficSplitError)
  | removal (error : RemovalError)
  | messaging (error : MessagingError)
  | notCustodial
  | committedAfterSave (error : StoreError)
  deriving DecidableEq

abbrev Storing (α : Type) := Program.Fallible StoreCall StoreCall.Reply StoreError α

def attempt (file : StoreFile) (call : StoreCall) {α : Type} (outcome : call.Reply → Option α) :
    Storing α :=
  Program.ask call fun reply =>
    match outcome reply with
    | some value => .ok value
    | none => .error (.io file)

/-- One call whose reply is taken as it is: a failed read finds nothing. -/
def observe (call : StoreCall) : Storing call.Reply := Program.ask call .ok

def load : Storing Environment := attempt .environment .load id

/-- Whatever fails from here on comes after the save. -/
def committed (program : Storing PUnit) : Storing PUnit :=
  Program.rescue program fun e => throw (.committedAfterSave e)

/-- Back a file up, then change it. -/
def replacing (file : StoreFile) (call : StoreCall) (outcome : call.Reply → Option Unit) :
    Storing PUnit := do
  attempt file (.backup file) fun reply => reply
  attempt file call outcome

/-- `save_runtime_config_locked`: an unchanged file is left alone. -/
def saveRuntimeConfig (cfg : RuntimeConfig) : Storing PUnit := do
  let existing ← observe .readConfig
  if existing = some cfg then return ⟨⟩
  else replacing .runtimeConfig (.writeConfig cfg) id

def deleteRuntimeConfig : Storing PUnit := do
  let present ← observe .configExists
  if present then replacing .runtimeConfig .removeConfig id
  else return ⟨⟩

def refreshRuntimeConfig (env : Environment) : Storing PUnit :=
  let cfg := materializeRuntimeConfig env
  if cfg.revisions = [] then deleteRuntimeConfig else saveRuntimeConfig cfg

def refreshEndpointFile (endpoint : MessagingEndpoint) : Storing PUnit := do
  let existing ← observe (.readEndpoint endpoint.endpointId)
  if existing = some endpoint then return ⟨⟩
  else replacing (.endpoint endpoint.endpointId) (.writeEndpoint endpoint) id

def pruneEndpointFile (env : Environment) (id : MessagingEndpointId) : Storing PUnit :=
  if id ∈ env.messagingEndpoints.map (·.endpointId) then return ⟨⟩
  else replacing (.endpoint id) (.removeEndpoint id) fun reply => reply

def refreshMessagingIndex (index : List MessagingEndpointIndexEntry) : Storing PUnit := do
  if index = [] then
    let present ← observe .indexExists
    if present then replacing .messagingIndex .removeIndex id
    else return ⟨⟩
  else
    let existing ← observe .readIndex
    if existing = some index then return ⟨⟩
    else replacing .messagingIndex (.writeIndex index) id

/-- `refresh_messaging_locked`: the files found before any is written are the
ones that may be pruned. -/
def refreshMessagingProjection (env : Environment) : Storing PUnit := do
  let existingFiles ← attempt .messagingDir .listEndpoints id
  env.messagingEndpoints.forM refreshEndpointFile
  existingFiles.forM (pruneEndpointFile env)
  refreshMessagingIndex (materializeMessagingIndex env)

variable (serde : SerdeJson) (ext : Externals)

def save (env : Environment) : Storing PUnit :=
  match env.validate ext with
  | .error e => throw (.spec e)
  | .ok () => replacing .environment (.writeEnvironment env) id

def saveIf (mutated : Bool) (env : Environment) : Storing PUnit :=
  if mutated then save ext env else return ⟨⟩

/-- The verbs that save and leave the projections alone. -/
def saveOk {ε τ : Type} (wrap : ε → StoreError) (apply : Environment → Outcome ε τ) :
    Storing PUnit := do
  let env ← load
  match apply env with
  | (.error e, _) => throw (wrap e)
  | (.ok _, after) => save ext after

/-- `run_revision_transition`: a red gate is saved and surfaced, and refreshes
nothing. -/
def runRevisionTransition
    (apply : Environment → Outcome RevisionLifecycleError RevisionTransition) :
    Storing PUnit := do
  let env ← load
  match apply env with
  | (.ok _, after) =>
    save ext after
    committed (refreshRuntimeConfig after)
  | (.error e, after) =>
    if e.envMutated then
      save ext after
      throw (.revision e)
    else throw (.revision e)

def persistIf (env : Environment) (mutated : Bool) : Storing PUnit := do
  if mutated then
    save ext env
    committed (refreshRuntimeConfig env)
  else refreshRuntimeConfig env

/-- The verbs that move splits: a replay saves nothing and still refreshes. -/
def reroute {ε τ : Type} (wrap : ε → StoreError) (mutated : τ → Bool)
    (apply : Environment → Outcome ε τ) : Storing PUnit := do
  let env ← load
  match apply env with
  | (.error e, _) => throw (wrap e)
  | (.ok result, after) => persistIf ext after (mutated result)

/-- `finish_messaging_mutation`: any failed refresh counts as committed. -/
def finishMessagingMutation (env : Environment) (mutated : Bool) : Storing PUnit := do
  saveIf ext mutated env
  committed (refreshMessagingProjection env)

def relink (apply : Environment → Outcome MessagingError MessagingApplied) : Storing PUnit := do
  let env ← load
  match apply env with
  | (.error e, _) => throw (.messaging e)
  | (.ok applied, after) => finishMessagingMutation ext after applied.mutated

def devStoreSecretsPath : String := "greentic.secrets.dev-store"

def secretsBackendIsDevStore (env : Environment) : Bool :=
  match env.packs.find? fun b => b.slot = .secrets with
  | none => true
  | some binding => binding.kind.path = devStoreSecretsPath

/-- The method of the local store behind each verb. Rotating never threads a
caller's reference here. -/
def body : Verb → Storing PUnit
  | .updateEnvironment patch => do
    let env ← load
    save ext (applyEnvironmentUpdate env patch)
  | .mergeBindings packs extensions => do
    let env ← load
    save ext (mergeBindings env packs extensions).2
  | .stageRevision payload now => saveOk ext .revision (stageRevision · payload now)
  | .warmRevision payload now => runRevisionTransition ext (warmRevision · payload now)
  | .drainRevision id => runRevisionTransition ext (drainRevision · id)
  | .archiveRevision id => runRevisionTransition ext (archiveRevision · id)
  | .setTrafficSplit payload key now =>
    reroute ext .traffic (·.mutated) (setTrafficSplit serde · payload key now)
  | .rollbackTrafficSplit id now =>
    reroute ext .traffic (fun _ => true) (rollbackTrafficSplit serde · id now)
  | .clearTrafficSplit id => reroute ext .removal (·.mutated) (clearTrafficSplit · id)
  | .addBundle payload id now policyRef => do
    let env ← load
    match addBundle env payload id now with
    | (.error e, _) => throw (.bundle e)
    | (.ok index, after) =>
      attempt .billingPolicy .writePolicy fun reply => reply
      save ext (pinRevenuePolicyRef after index policyRef)
  | .updateBundle payload policyRef => do
    let env ← load
    match updateBundle env payload with
    | (.error e, _) => throw (.bundle e)
    | (.ok applied, after) =>
      if applied.revenueShareChanged then
        attempt .billingPolicy .writePolicy fun reply => reply
        save ext (pinRevenuePolicyRef after applied.index policyRef)
      else save ext after
  | .removeBundle id => saveOk ext .bundle (removeBundle · id)
  | .beginRetire id => reroute ext .removal (·.mutated) (beginRetire · id)
  | .addMessagingEndpoint payload id key now provision =>
    relink ext (addMessagingEndpoint ext · payload id key now provision)
  | .linkMessagingBundle id bundleId updatedBy key now =>
    relink ext (linkMessagingBundle · id bundleId updatedBy key now)
  | .unlinkMessagingBundle id bundleId updatedBy key now =>
    relink ext (unlinkMessagingBundle · id bundleId updatedBy key now)
  | .setMessagingWelcomeFlow payload key now =>
    relink ext (setMessagingWelcomeFlow · payload key now)
  | .removeMessagingEndpoint id => do
    let env ← load
    let outcome := removeMessagingEndpoint env id
    finishMessagingMutation ext outcome.2 outcome.1
  | .rotateMessagingWebhookSecret id updatedBy key now _ provision => do
    let env ← load
    if secretsBackendIsDevStore env then
      match rotateMessagingWebhookSecret ext env id updatedBy key now none provision with
      | (.error e, _) => throw (.messaging e)
      | (.ok applied, after) => finishMessagingMutation ext after applied.mutated
    else throw .notCustodial
  | .addPackBinding binding => saveOk ext .binding (addPackBinding · binding)
  | .updatePackBinding slot binding => saveOk ext .binding (updatePackBinding serde · slot binding)
  | .removePackBinding slot => saveOk ext .binding (removePackBinding · slot)
  | .rollbackPackBinding slot => saveOk ext .binding (rollbackPackBinding serde · slot)
  | .addExtensionBinding binding => saveOk ext .binding (addExtensionBinding · binding)
  | .updateExtensionBinding key binding =>
    saveOk ext .binding (updateExtensionBinding serde · key binding)
  | .removeExtensionBinding key => saveOk ext .binding (removeExtensionBinding · key)
  | .rollbackExtensionBinding key => saveOk ext .binding (rollbackExtensionBinding serde · key)

structure VerbCall where
  verb : Verb
  turns : Nat → Turn

def outcome (disk : Disk) (call : VerbCall) : Except StoreError PUnit × Disk :=
  (body serde ext call.verb).run.finish access disk call.turns

def localStore : System Disk VerbCall where
  step := fun disk call => (outcome serde ext disk call).2
  allowed := fun disk call => call.verb.mintsFresh disk.env = true

end GreenticDeployer.Local.Projections
