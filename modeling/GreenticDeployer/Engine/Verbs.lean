import GreenticDeployer.Lib.Runs
import GreenticDeployer.Engine.Environments
import GreenticDeployer.Engine.Messaging
import GreenticDeployer.Engine.Bindings

/-!
# The engine as a system

One action type for every verb of the engine: a step applies the verb and keeps
what its group's persist rule keeps.
-/

set_option maxHeartbeats 200000

namespace GreenticDeployer.Engine

open Spec Lib

/-- A verb with everything its backend supplies: minted ids, the clock, the
webhook-secret sink, and the policy reference pinned before the write. -/
inductive Verb where
  | updateEnvironment (patch : UpdateEnvironmentPayload)
  | mergeBindings (packs : List EnvPackBinding) (extensions : List ExtensionBinding)
  | stageRevision (payload : StageRevisionPayload) (now : DateTime)
  | warmRevision (payload : WarmRevisionPayload) (now : DateTime)
  | drainRevision (revisionId : RevisionId)
  | archiveRevision (revisionId : RevisionId)
  | setTrafficSplit (payload : SetTrafficSplitPayload) (key : IdempotencyKey) (now : DateTime)
  | rollbackTrafficSplit (deploymentId : DeploymentId) (now : DateTime)
  | clearTrafficSplit (deploymentId : DeploymentId)
  | addBundle (payload : AddBundlePayload) (deploymentId : DeploymentId) (now : DateTime)
      (policyRef : PathBuf)
  | updateBundle (payload : UpdateBundlePayload) (policyRef : PathBuf)
  | removeBundle (deploymentId : DeploymentId)
  | beginRetire (deploymentId : DeploymentId)
  | addMessagingEndpoint (payload : AddMessagingEndpointPayload)
      (endpointId : MessagingEndpointId) (key : IdempotencyKey) (now : DateTime)
      (provision : Provision)
  | linkMessagingBundle (endpointId : MessagingEndpointId) (bundleId : BundleId)
      (updatedBy : String) (key : IdempotencyKey) (now : DateTime)
  | unlinkMessagingBundle (endpointId : MessagingEndpointId) (bundleId : BundleId)
      (updatedBy : String) (key : IdempotencyKey) (now : DateTime)
  | setMessagingWelcomeFlow (payload : SetMessagingWelcomeFlowPayload) (key : IdempotencyKey)
      (now : DateTime)
  | removeMessagingEndpoint (endpointId : MessagingEndpointId)
  | rotateMessagingWebhookSecret (endpointId : MessagingEndpointId) (updatedBy : String)
      (key : IdempotencyKey) (now : DateTime) (newRef : Option String) (provision : Provision)
  | addPackBinding (binding : EnvPackBinding)
  | updatePackBinding (slot : CapabilitySlot) (binding : EnvPackBinding)
  | removePackBinding (slot : CapabilitySlot)
  | rollbackPackBinding (slot : CapabilitySlot)
  | addExtensionBinding (binding : ExtensionBinding)
  | updateExtensionBinding (key : ExtensionKey) (binding : ExtensionBinding)
  | removeExtensionBinding (key : ExtensionKey)
  | rollbackExtensionBinding (key : ExtensionKey)

variable (serde : SerdeJson) (ext : Externals)

/-- The state stored after a verb: what its group's persist rule keeps. The two
bundle verbs finish with the backend's policy step where it is due. -/
def persist (env : Environment) : Verb → Environment
  | .updateEnvironment patch => applyEnvironmentUpdate env patch
  | .mergeBindings packs extensions => (mergeBindings env packs extensions).2
  | .stageRevision payload now => persistRevision env (stageRevision env payload now)
  | .warmRevision payload now => persistRevision env (warmRevision env payload now)
  | .drainRevision id => persistRevision env (drainRevision env id)
  | .archiveRevision id => persistRevision env (archiveRevision env id)
  | .setTrafficSplit payload key now =>
    persistMutated (·.mutated) env (setTrafficSplit serde env payload key now)
  | .rollbackTrafficSplit id now => persistOk env (rollbackTrafficSplit serde env id now)
  | .clearTrafficSplit id => persistMutated (·.mutated) env (clearTrafficSplit env id)
  | .addBundle payload id now policyRef =>
    match addBundle env payload id now with
    | (.ok index, after) => pinRevenuePolicyRef after index policyRef
    | (.error _, _) => env
  | .updateBundle payload policyRef =>
    match updateBundle env payload with
    | (.ok applied, after) =>
      if applied.revenueShareChanged then pinRevenuePolicyRef after applied.index policyRef
      else after
    | (.error _, _) => env
  | .removeBundle id => persistOk env (removeBundle env id)
  | .beginRetire id => persistMutated (·.mutated) env (beginRetire env id)
  | .addMessagingEndpoint payload id key now provision =>
    persistMutated (·.mutated) env (addMessagingEndpoint ext env payload id key now provision)
  | .linkMessagingBundle id bundleId updatedBy key now =>
    persistMutated (·.mutated) env (linkMessagingBundle env id bundleId updatedBy key now)
  | .unlinkMessagingBundle id bundleId updatedBy key now =>
    persistMutated (·.mutated) env (unlinkMessagingBundle env id bundleId updatedBy key now)
  | .setMessagingWelcomeFlow payload key now =>
    persistMutated (·.mutated) env (setMessagingWelcomeFlow env payload key now)
  | .removeMessagingEndpoint id => (removeMessagingEndpoint env id).2
  | .rotateMessagingWebhookSecret id updatedBy key now newRef provision =>
    persistMutated (·.mutated) env
      (rotateMessagingWebhookSecret ext env id updatedBy key now newRef provision)
  | .addPackBinding binding => persistOk env (addPackBinding env binding)
  | .updatePackBinding slot binding => persistOk env (updatePackBinding serde env slot binding)
  | .removePackBinding slot => persistOk env (removePackBinding env slot)
  | .rollbackPackBinding slot => persistOk env (rollbackPackBinding serde env slot)
  | .addExtensionBinding binding => persistOk env (addExtensionBinding env binding)
  | .updateExtensionBinding key binding =>
    persistOk env (updateExtensionBinding serde env key binding)
  | .removeExtensionBinding key => persistOk env (removeExtensionBinding env key)
  | .rollbackExtensionBinding key => persistOk env (rollbackExtensionBinding serde env key)

/-- The ids a backend mints are not in use. -/
def Verb.mintsFresh (env : Environment) : Verb → Bool
  | .addBundle _ id _ _ => env.bundles.all fun bundle => bundle.deploymentId ≠ id
  | .addMessagingEndpoint _ id _ _ _ =>
    env.messagingEndpoints.all fun endpoint => endpoint.endpointId ≠ id
  | _ => true

/-- Runs of the engine: any verbs in any order, minted ids fresh. -/
def engine : System Environment Verb where
  step := persist serde ext
  allowed := fun env verb => verb.mintsFresh env = true

instance (env : Environment) (verb : Verb) : Decidable ((engine serde ext).allowed env verb) :=
  inferInstanceAs (Decidable (verb.mintsFresh env = true))

end GreenticDeployer.Engine
