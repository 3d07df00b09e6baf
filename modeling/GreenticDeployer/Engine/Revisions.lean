import GreenticDeployer.Lib.Located
import GreenticDeployer.Spec.Documents

/-!
# Revision-lifecycle verbs

A verb mutates a borrowed environment and returns a result, so its model gives
both: on an error the environment is the one the source leaves behind, which
the persist rule then keeps or discards.
-/

set_option maxHeartbeats 200000

namespace GreenticDeployer.Engine

open Spec Lib

/-- The result of a verb beside the environment it leaves. -/
abbrev Outcome (ε τ : Type) := Except ε τ × Environment

inductive HealthCheckId where
  | routeTable
  | runtimeConfig
  | signatureStatus
  | providerHealth
  deriving DecidableEq, Repr

structure HealthGateFailure where
  failedChecks : List HealthCheckId
  message : String
  deriving DecidableEq, Repr

/-- A traffic split that still routes to a revision. -/
structure ActiveSplitRef where
  deploymentId : DeploymentId
  bundleId : BundleId
  weightBps : UInt32
  deriving DecidableEq, Repr

inductive RevisionLifecycleError where
  | notFound (envId : EnvId) (revisionId : RevisionId)
  | invalidTransition (source target : RevisionLifecycle)
  | conflict (revisionId : RevisionId) (actual : RevisionLifecycle)
      (expectedStarts : List RevisionLifecycle)
  | emptyChain
  | activeTrafficReference (revisionId : RevisionId) (splits : List ActiveSplitRef)
  | healthGateFailed (revisionId : RevisionId) (failedChecks : List HealthCheckId)
      (message : String)
  | duplicateRevision (envId : EnvId) (revisionId : RevisionId)
  | deploymentNotFound (envId : EnvId) (deploymentId : DeploymentId)
  deriving DecidableEq, Repr

/-- Whether the environment must be persisted although the verb failed. -/
def RevisionLifecycleError.envMutated : RevisionLifecycleError → Bool
  | .healthGateFailed .. => true
  | _ => false

structure StageRevisionPayload where
  revisionId : RevisionId
  deploymentId : DeploymentId
  bundleDigest : String
  bundleSourceUri : Option String
  packList : List PackListEntry
  packListLockRef : PathBuf
  packConfigRefs : List PathBuf
  configDigest : String
  signatureSidecarRef : PathBuf
  drainSeconds : UInt32
  runtimeImageDigest : Option String

structure WarmRevisionPayload where
  revisionId : RevisionId
  healthGate : Except HealthGateFailure Unit
  expectedLifecycle : RevisionLifecycle

structure RevisionTransition where
  revision : Revision
  startingLifecycle : RevisionLifecycle
  deriving DecidableEq

abbrev Edge := RevisionLifecycle × RevisionLifecycle

/-- The loop over the accepted edges: the edge the matrix refused, if any, the
lifecycle reached, and whether an edge applied. -/
def walkEdges : List Edge → RevisionLifecycle → Bool →
    Option Edge × RevisionLifecycle × Bool
  | [], current, advanced => (none, current, advanced)
  | (source, target) :: rest, current, advanced =>
    if current = source then
      if isValidTransition source target then walkEdges rest target true
      else (some (source, target), current, advanced)
    else walkEdges rest current advanced

def activeRefs (env : Environment) (revisionId : RevisionId) : List ActiveSplitRef :=
  env.trafficSplits.flatMap fun split =>
    (split.entries.filter fun entry => entry.revisionId = revisionId).map fun entry =>
      ⟨split.deploymentId, split.bundleId, entry.weightBps⟩

def untrack (deploymentId : DeploymentId) (revisionId : RevisionId)
    (bundles : List BundleDeployment) : List BundleDeployment :=
  bundles.map fun bundle =>
    if bundle.deploymentId = deploymentId then
      { bundle with currentRevisions := bundle.currentRevisions.filter (· ≠ revisionId) }
    else bundle

/-- Whether a required starting lifecycle is missed. It is not asked of a
revision already at the end of the chain. -/
def missesStart (expectedStart : Option RevisionLifecycle)
    (starting finalState : RevisionLifecycle) : Option RevisionLifecycle :=
  match expectedStart with
  | some expected => if starting ≠ finalState ∧ starting ≠ expected then some expected else none
  | none => none

def walkRevisionChain (env : Environment) (revisionId : RevisionId)
    (acceptedChain : List Edge) (expectedStart : Option RevisionLifecycle)
    (onFinal : Revision → Revision) (pruneFromSplits : Bool)
    (healthGate : Environment → Revision → Except HealthGateFailure Unit) :
    Outcome RevisionLifecycleError RevisionTransition :=
  match acceptedChain.getLast? with
  | none => (.error .emptyChain, env)
  | some (_, finalState) =>
    match locate (fun r => r.revisionId = revisionId) env.revisions with
    | none => (.error (.notFound env.environmentId revisionId), env)
    | some found =>
      let starting := found.hit.lifecycle
      match missesStart expectedStart starting finalState with
      | some expected => (.error (.conflict revisionId starting [expected]), env)
      | none =>
        let (refused, reached, advanced) := walkEdges acceptedChain starting false
        let walked := { found.hit with lifecycle := reached }
        let walkedEnv := { env with revisions := found.replace walked }
        match refused with
        | some (source, target) => (.error (.invalidTransition source target), walkedEnv)
        | none =>
          if reached ≠ finalState then
            (.error (.conflict revisionId reached (acceptedChain.map Prod.fst)), walkedEnv)
          else if pruneFromSplits ∧ activeRefs env revisionId ≠ [] then
            (.error (.activeTrafficReference revisionId (activeRefs env revisionId)), walkedEnv)
          else
            -- The gate fires only when the chain advanced.
            match if advanced then healthGate walkedEnv walked else .ok () with
            | .error failure =>
              if isValidTransition reached .failed then
                (.error (.healthGateFailed revisionId failure.failedChecks failure.message),
                  { env with revisions := found.replace { walked with lifecycle := .failed } })
              else (.error (.invalidTransition reached .failed), walkedEnv)
            | .ok () =>
              let revision := onFinal walked
              (.ok ⟨revision, starting⟩,
                { env with
                  revisions := found.replace revision
                  bundles := if pruneFromSplits then
                      untrack revision.deploymentId revisionId env.bundles
                    else env.bundles })

def stageRevision (env : Environment) (payload : StageRevisionPayload) (now : DateTime) :
    Outcome RevisionLifecycleError Revision :=
  if env.revisions.any fun r => r.revisionId = payload.revisionId then
    (.error (.duplicateRevision env.environmentId payload.revisionId), env)
  else
    match env.bundles.find? fun b => b.deploymentId = payload.deploymentId with
    | none => (.error (.deploymentNotFound env.environmentId payload.deploymentId), env)
    | some deployment =>
      let sequences := (env.revisions.filter fun r =>
        r.deploymentId = payload.deploymentId).map (·.sequence)
      let revision : Revision := {
        schema := ⟨SchemaVersion.revisionV1⟩
        revisionId := payload.revisionId
        envId := env.environmentId
        bundleId := deployment.bundleId
        deploymentId := payload.deploymentId
        sequence := sequences.foldl max 0 + 1
        createdAt := now
        bundleDigest := payload.bundleDigest
        bundleSourceUri := payload.bundleSourceUri
        packList := payload.packList
        packListLockRef := payload.packListLockRef
        packConfigRefs := payload.packConfigRefs
        configDigest := payload.configDigest
        signatureSidecarRef := payload.signatureSidecarRef
        lifecycle := .staged
        stagedAt := some now
        warmedAt := none
        drainSeconds := payload.drainSeconds
        runtimeImageDigest := payload.runtimeImageDigest
        abortMetrics := [] }
      (.ok revision, { env with revisions := env.revisions ++ [revision] })

def warmChain : List Edge := [(.staged, .warming), (.warming, .ready)]

def warmRevision (env : Environment) (payload : WarmRevisionPayload) (now : DateTime) :
    Outcome RevisionLifecycleError RevisionTransition :=
  walkRevisionChain env payload.revisionId warmChain (some payload.expectedLifecycle)
    (fun r => { r with warmedAt := some now }) false (fun _ _ => payload.healthGate)

def drainChain : List Edge := [(.ready, .draining)]

def drainRevision (env : Environment) (revisionId : RevisionId) :
    Outcome RevisionLifecycleError RevisionTransition :=
  walkRevisionChain env revisionId drainChain none id false (fun _ _ => .ok ())

def archiveChain : List Edge :=
  [(.staged, .archived), (.warming, .archived), (.ready, .archived), (.failed, .archived),
    (.draining, .inactive), (.inactive, .archived)]

def archiveRevision (env : Environment) (revisionId : RevisionId) :
    Outcome RevisionLifecycleError RevisionTransition :=
  walkRevisionChain env revisionId archiveChain none id true (fun _ _ => .ok ())

/-- The persist rule of this group: a success, or an error that reports the
environment mutated. -/
def persistRevision {τ : Type} (env : Environment)
    (outcome : Outcome RevisionLifecycleError τ) : Environment :=
  match outcome with
  | (.ok _, after) => after
  | (.error e, after) => if e.envMutated then after else env

end GreenticDeployer.Engine
