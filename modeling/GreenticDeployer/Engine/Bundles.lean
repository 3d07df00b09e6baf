import GreenticDeployer.Engine.Traffic

/-!
# Bundle-deployment verbs

Adding, patching and removing a deployment, and the explicit removal sequence
that retires one.
-/

set_option maxHeartbeats 200000

namespace GreenticDeployer.Engine

open Spec Lib

inductive BundleError where
  | alreadyDeployed (bundleId : BundleId) (customerId : CustomerId) (envId : EnvId)
  | deploymentNotFound (deploymentId : DeploymentId) (envId : EnvId)
  | stillLive (deploymentId : DeploymentId) (activeSplits activeRevisions : Nat)
  deriving DecidableEq, Repr

structure AddBundlePayload where
  bundleId : BundleId
  packName : Option String
  customerId : CustomerId
  revenueShare : List RevenueShareEntry
  routeBinding : Option RouteBinding
  authorizationRef : Option String
  configOverrides : ConfigOverrides

structure UpdateBundlePayload where
  deploymentId : DeploymentId
  packName : Option String
  status : Option BundleDeploymentStatus
  routeBinding : Option RouteBinding
  revenueShare : Option (List RevenueShareEntry)
  configOverrides : Option ConfigOverrides

structure RemoveBundleOutcome where
  deployment : BundleDeployment
  prunedRevisionIds : List RevisionId

structure BundleUpdateApplied where
  index : Nat
  revenueShareChanged : Bool

def defaultRouteBinding : RouteBinding := ⟨[], [], ⟨"default", "default"⟩⟩

def addBundle (env : Environment) (payload : AddBundlePayload) (deploymentId : DeploymentId)
    (now : DateTime) : Outcome BundleError Nat :=
  if env.bundles.any fun b =>
      b.bundleId = payload.bundleId ∧ b.customerId = payload.customerId then
    (.error (.alreadyDeployed payload.bundleId payload.customerId env.environmentId), env)
  else
    let deployment : BundleDeployment := {
      schema := ⟨SchemaVersion.bundleDeploymentV1⟩
      deploymentId := deploymentId
      envId := env.environmentId
      bundleId := payload.bundleId
      packName := payload.packName
      customerId := payload.customerId
      status := .active
      currentRevisions := []
      routeBinding := payload.routeBinding.getD defaultRouteBinding
      revenueShare := payload.revenueShare
      revenuePolicyRef := ""
      usage := none
      createdAt := now
      authorizationRef := payload.authorizationRef.getD "auth.json"
      configOverrides := payload.configOverrides }
    (.ok env.bundles.length, { env with bundles := env.bundles ++ [deployment] })

def patchBundle (payload : UpdateBundlePayload) (bundle : BundleDeployment) : BundleDeployment :=
  { bundle with
    status := payload.status.getD bundle.status
    routeBinding := payload.routeBinding.getD bundle.routeBinding
    packName := payload.packName.or bundle.packName
    configOverrides := payload.configOverrides.getD bundle.configOverrides
    revenueShare := payload.revenueShare.getD bundle.revenueShare }

def updateBundle (env : Environment) (payload : UpdateBundlePayload) :
    Outcome BundleError BundleUpdateApplied :=
  match locate (fun b => b.deploymentId = payload.deploymentId) env.bundles with
  | none => (.error (.deploymentNotFound payload.deploymentId env.environmentId), env)
  | some found =>
    (.ok ⟨found.index, payload.revenueShare.isSome⟩,
      { env with bundles := found.replace (patchBundle payload found.hit) })

/-- The backend's step between the transform and the write: the deployment at
an index gets the reference of its freshly written policy artifact. -/
def pinRevenuePolicyRef (env : Environment) (index : Nat) (policyRef : PathBuf) : Environment :=
  { env with
    bundles := env.bundles.modify index fun b => { b with revenuePolicyRef := policyRef } }

def removeBundle (env : Environment) (deploymentId : DeploymentId) :
    Outcome BundleError RemoveBundleOutcome :=
  match locate (fun b => b.deploymentId = deploymentId) env.bundles with
  | none => (.error (.deploymentNotFound deploymentId env.environmentId), env)
  | some found =>
    let activeSplits := env.trafficSplits.countP fun s => s.deploymentId = deploymentId
    let owned := env.revisions.filter fun r => r.deploymentId = deploymentId
    let pruned := (owned.filter fun r => r.lifecycle = .archived).map (·.revisionId)
    let activeRevisions := owned.countP fun r => r.lifecycle ≠ .archived
    if activeSplits > 0 ∨ activeRevisions > 0 then
      (.error (.stillLive deploymentId activeSplits activeRevisions), env)
    else
      (.ok ⟨found.hit, pruned⟩,
        { env with
          bundles := found.remove
          revisions := env.revisions.filter fun r => r.deploymentId ≠ deploymentId })

inductive RemovalError where
  | deploymentNotFound (deploymentId : DeploymentId) (envId : EnvId)
  | notRetiring (deploymentId : DeploymentId) (status : BundleDeploymentStatus)
  | linkedFromEndpoint (bundleId : BundleId) (endpoints : List String)
  deriving DecidableEq, Repr

structure ClearTrafficOutcome where
  deploymentId : DeploymentId
  cleared : Option TrafficSplit

def ClearTrafficOutcome.mutated (outcome : ClearTrafficOutcome) : Bool := outcome.cleared.isSome

structure BeginRetireOutcome where
  deploymentId : DeploymentId
  markedRetiring : Bool
  cleared : Option TrafficSplit

def BeginRetireOutcome.mutated (outcome : BeginRetireOutcome) : Bool :=
  outcome.markedRetiring || outcome.cleared.isSome

structure RetireSteps where
  drainStamp : List RevisionId
  drainHook : List RevisionId
  archive : List RevisionId
  teardown : List RevisionId
  deriving DecidableEq

def deploymentIndex (env : Environment) (deploymentId : DeploymentId) :
    Except RemovalError (Located BundleDeployment) :=
  match locate (fun b => b.deploymentId = deploymentId) env.bundles with
  | none => .error (.deploymentNotFound deploymentId env.environmentId)
  | some found => .ok found

def takeSplit (env : Environment) (deploymentId : DeploymentId) :
    Option TrafficSplit × Environment :=
  match locate (fun s => s.deploymentId = deploymentId) env.trafficSplits with
  | none => (none, env)
  | some found => (some found.hit, { env with trafficSplits := found.remove })

def clearTrafficSplit (env : Environment) (deploymentId : DeploymentId) :
    Outcome RemovalError ClearTrafficOutcome :=
  match deploymentIndex env deploymentId with
  | .error e => (.error e, env)
  | .ok found =>
    if found.hit.status ≠ .archived then
      (.error (.notRetiring deploymentId found.hit.status), env)
    else
      let (cleared, after) := takeSplit env deploymentId
      (.ok ⟨deploymentId, cleared⟩, after)

/-- The bundle ids of a retire set, each once, in the order of the set. -/
def retiringBundles (env : Environment) :
    List DeploymentId → List BundleId → Except RemovalError (List BundleId)
  | [], bundles => .ok bundles
  | deployment :: rest, bundles =>
    match deploymentIndex env deployment with
    | .error e => .error e
    | .ok found =>
      retiringBundles env rest
        (if found.hit.bundleId ∈ bundles then bundles else bundles ++ [found.hit.bundleId])

def linksBundle (bundleId : BundleId) (endpoint : MessagingEndpoint) : Bool :=
  bundleId ∈ endpoint.linkedBundles ∨ endpoint.welcomeFlow.any (·.bundleId = bundleId)

/-- Refuse each bundle that an endpoint links while no deployment outside the
set, itself not retiring, survives. -/
def checkBundleLinks (env : Environment) (retiring : List DeploymentId) :
    List BundleId → Except RemovalError Unit
  | [] => .ok ()
  | bundleId :: rest =>
    if env.bundles.any fun b =>
        b.bundleId = bundleId ∧ b.deploymentId ∉ retiring ∧ b.status ≠ .archived then
      checkBundleLinks env retiring rest
    else
      let endpoints := (env.messagingEndpoints.filter (linksBundle bundleId)).map (·.displayName)
      if endpoints ≠ [] then .error (.linkedFromEndpoint bundleId endpoints)
      else checkBundleLinks env retiring rest

/-- `retiring` is a `BTreeSet`: ascending and without repeats. -/
def checkRetireSetLinks (env : Environment) (retiring : List DeploymentId) :
    Except RemovalError Unit :=
  match retiringBundles env retiring [] with
  | .error e => .error e
  | .ok bundles => checkBundleLinks env retiring bundles

def checkRetireLinks (env : Environment) (deploymentId : DeploymentId) :
    Except RemovalError Unit :=
  checkRetireSetLinks env [deploymentId]

def beginRetire (env : Environment) (deploymentId : DeploymentId) :
    Outcome RemovalError BeginRetireOutcome :=
  match checkRetireLinks env deploymentId with
  | .error e => (.error e, env)
  | .ok () =>
    match deploymentIndex env deploymentId with
    | .error e => (.error e, env)
    | .ok found =>
      let marked := { env with bundles := found.replace { found.hit with status := .archived } }
      let (cleared, after) := takeSplit marked deploymentId
      (.ok ⟨deploymentId, found.hit.status ≠ .archived, cleared⟩, after)

def retireSteps (env : Environment) (deploymentId : DeploymentId) :
    Except RemovalError RetireSteps :=
  match deploymentIndex env deploymentId with
  | .error e => .error e
  | .ok _ =>
    let owned := env.revisions.filter fun r => r.deploymentId = deploymentId
    .ok {
      drainStamp := (owned.filter fun r => r.lifecycle = .ready).map (·.revisionId)
      drainHook := (owned.filter fun r =>
        r.lifecycle = .ready ∨ r.lifecycle = .draining).map (·.revisionId)
      archive := (owned.filter fun r => r.lifecycle ≠ .archived).map (·.revisionId)
      teardown := owned.map (·.revisionId) }

end GreenticDeployer.Engine
