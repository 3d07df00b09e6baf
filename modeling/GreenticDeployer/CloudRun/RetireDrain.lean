import GreenticDeployer.CloudRun.Archive
import GreenticDeployer.Engine.Retirement

/-!
# The drain of a retire on Cloud Run

A retire asks the engine whether an endpoint would be stranded, and then the provider's
drain asks again. The engine looks at the other deployments of the bundle, the provider at
the bundle alone.
-/

set_option maxHeartbeats 200000

namespace GreenticDeployer.CloudRun

open Spec Engine Lib

/-- The enforced drain, `later` being the outside once the window has passed. -/
def drainEnforced (env : Environment) (outside later : ArchiveOutside) (revisionId : RevisionId) :
    Except ArchiveError DrainEvidence := do
  let service ← drainServiceRef env outside revisionId
  if wholeBundleRetiring env revisionId then do
    requireNoEndpointRoute env revisionId
    .ok (.serviceRetiring service.deploymentId)
  else do
    let _ ← probeTraffic env outside service revisionId
    probeTraffic env later service revisionId

section Retire

variable {env after : Environment} {deploymentId : DeploymentId} {result : BeginRetireOutcome}

structure Begun (env after : Environment) (deploymentId : DeploymentId) : Prop where
  revisions : after.revisions = env.revisions
  endpoints : after.messagingEndpoints = env.messagingEndpoints
  marked : after.bundles.any fun b => b.deploymentId = deploymentId ∧ b.status = .archived
  links : checkRetireLinks env deploymentId = .ok ()

theorem Begun.revisionOf (begun : Begun env after deploymentId) (id : RevisionId) :
    revisionOf after id = revisionOf env id := by
  unfold Engine.revisionOf
  rw [begun.revisions]

end Retire

end GreenticDeployer.CloudRun
