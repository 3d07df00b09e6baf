import GreenticDeployer.Spec.Validate
import GreenticDeployer.Engine.InlineStash
import GreenticDeployer.Engine.Revisions

/-!
# Traffic-split verbs

Setting, rolling back and clearing the split of one deployment.
-/

set_option maxHeartbeats 200000

namespace GreenticDeployer.Engine

open Spec Lib

inductive TrafficSplitError where
  | deploymentNotFound (envId : EnvId) (deploymentId : DeploymentId)
  | revisionNotFound (envId : EnvId) (revisionId : RevisionId)
  | wrongDeployment (revisionId : RevisionId) (actual expected : DeploymentId)
  | idempotencyKeyReused (key : String) (deploymentId : DeploymentId)
  | admissionRevisionMissing (envId : EnvId) (revisionId : RevisionId)
  | notReady (revisionId : RevisionId) (lifecycle : RevisionLifecycle)
  | snapshotEncode (detail : String)
  | noSplit (envId : EnvId) (deploymentId : DeploymentId)
  | noPreviousSnapshot (deploymentId : DeploymentId)
  | snapshotMissing (prevRef : PathBuf)
  | snapshotDecode (detail : String)
  | invalid (error : SpecError)
  deriving DecidableEq, Repr

structure SetTrafficSplitPayload where
  deploymentId : DeploymentId
  entries : List TrafficSplitEntry
  updatedBy : String
  authorizationRef : Option String

structure TrafficSplitTransition where
  split : TrafficSplit
  previousGeneration : Option UInt64
  newGeneration : Option UInt64

/-- `false` marks the idempotent replay, which touches nothing. -/
def TrafficSplitTransition.mutated (transition : TrafficSplitTransition) : Bool :=
  transition.newGeneration.isSome

structure TrafficRollbackTransition where
  restored : TrafficSplit
  previousGeneration : UInt64
  newGeneration : UInt64

def checkEntriesOwned (env : Environment) (deploymentId : DeploymentId) :
    List TrafficSplitEntry → Except TrafficSplitError Unit
  | [] => .ok ()
  | entry :: rest =>
    match env.revisions.find? fun r => r.revisionId = entry.revisionId with
    | none => .error (.revisionNotFound env.environmentId entry.revisionId)
    | some revision =>
      if revision.deploymentId ≠ deploymentId then
        .error (.wrongDeployment entry.revisionId revision.deploymentId deploymentId)
      else checkEntriesOwned env deploymentId rest

/-- Admission: every entry routes to a revision that exists and is ready. -/
def assertEntriesAllReady (env : Environment) :
    List TrafficSplitEntry → Except TrafficSplitError Unit
  | [] => .ok ()
  | entry :: rest =>
    match env.revisions.find? fun r => r.revisionId = entry.revisionId with
    | none => .error (.admissionRevisionMissing env.environmentId entry.revisionId)
    | some revision =>
      if revision.lifecycle ≠ .ready then
        .error (.notReady entry.revisionId revision.lifecycle)
      else assertEntriesAllReady env rest

/-- Equality up to the stable sort by printed revision id. -/
def entriesMatch (a b : List TrafficSplitEntry) : Bool :=
  let byId := fun (x y : RevisionId × UInt32) => x.1.toString ≤ y.1.toString
  a.length = b.length ∧
    (a.map fun e => (e.revisionId, e.weightBps)).insertionSort byId =
      (b.map fun e => (e.revisionId, e.weightBps)).insertionSort byId

variable (serde : SerdeJson)

/-- Generation, stash and previous generation of the split about to be written. -/
def nextSplitState (previous : Option TrafficSplit) :
    Except TrafficSplitError (UInt64 × Option PathBuf × Option UInt64) :=
  match previous with
  | none => .ok (0, none, none)
  | some split =>
    -- The stash is one step deep: the nested reference is cleared first.
    match serde.split.toValue { split with previousSplitRef := none } with
    | .error detail => .error (.snapshotEncode detail)
    | .ok snapshot =>
      .ok (split.generation + 1, some (stashInline serde snapshot), some split.generation)

/-- The apply path: admission, stash, validation, and the one write at the end. -/
def applyTrafficSplit (env : Environment) (payload : SetTrafficSplitPayload)
    (idempotencyKey : IdempotencyKey) (now : DateTime) (bundleId : BundleId)
    (found : Option (Located TrafficSplit)) :
    Outcome TrafficSplitError TrafficSplitTransition :=
  match assertEntriesAllReady env payload.entries with
  | .error e => (.error e, env)
  | .ok () =>
    match nextSplitState serde (found.map (·.hit)) with
    | .error e => (.error e, env)
    | .ok (generation, previousSplitRef, previousGeneration) =>
      let split : TrafficSplit := {
        schema := ⟨SchemaVersion.trafficSplitV1⟩
        envId := env.environmentId
        deploymentId := payload.deploymentId
        bundleId := bundleId
        generation := generation
        entries := payload.entries
        updatedAt := now
        updatedBy := payload.updatedBy
        idempotencyKey := idempotencyKey.asStr
        authorizationRef := payload.authorizationRef.getD "auth.json"
        previousSplitRef := previousSplitRef }
      match split.validate with
      | .error e => (.error (.invalid e), env)
      | .ok () =>
        (.ok ⟨split, previousGeneration, some generation⟩,
          { env with
            trafficSplits := match found with
              | some found => found.replace split
              | none => env.trafficSplits ++ [split] })

def setTrafficSplit (env : Environment) (payload : SetTrafficSplitPayload)
    (idempotencyKey : IdempotencyKey) (now : DateTime) :
    Outcome TrafficSplitError TrafficSplitTransition :=
  match env.bundles.find? fun b => b.deploymentId = payload.deploymentId with
  | none => (.error (.deploymentNotFound env.environmentId payload.deploymentId), env)
  | some deployment =>
    match checkEntriesOwned env payload.deploymentId payload.entries with
    | .error e => (.error e, env)
    | .ok () =>
      match locate (fun s => s.deploymentId = payload.deploymentId) env.trafficSplits with
      | none => applyTrafficSplit serde env payload idempotencyKey now deployment.bundleId none
      | some found =>
        if found.hit.idempotencyKey = idempotencyKey.asStr then
          if entriesMatch found.hit.entries payload.entries then
            (.ok ⟨found.hit, none, none⟩, env)
          else
            (.error (.idempotencyKeyReused idempotencyKey.asStr payload.deploymentId), env)
        else
          applyTrafficSplit serde env payload idempotencyKey now deployment.bundleId (some found)

def rollbackTrafficSplit (env : Environment) (deploymentId : DeploymentId) (now : DateTime) :
    Outcome TrafficSplitError TrafficRollbackTransition :=
  match locate (fun s => s.deploymentId = deploymentId) env.trafficSplits with
  | none => (.error (.noSplit env.environmentId deploymentId), env)
  | some found =>
    match found.hit.previousSplitRef with
    | none => (.error (.noPreviousSnapshot deploymentId), env)
    | some prevRef =>
      match loadInline serde prevRef with
      | none => (.error (.snapshotMissing prevRef), env)
      | some value =>
        match serde.split.fromValue value with
        | .error detail => (.error (.snapshotDecode detail), env)
        | .ok snapshot =>
          let restored := { snapshot with
            generation := found.hit.generation + 1
            previousSplitRef := none
            updatedAt := now
            idempotencyKey := "rollback-" ++ found.hit.idempotencyKey }
          match restored.validate with
          | .error e => (.error (.invalid e), env)
          | .ok () =>
            match assertEntriesAllReady env restored.entries with
            | .error e => (.error e, env)
            | .ok () =>
              (.ok ⟨restored, found.hit.generation, restored.generation⟩,
                { env with trafficSplits := found.replace restored })

/-- The persist rule of the verbs whose success says whether it mutated: a
replay or no-op is not persisted. -/
def persistMutated {ε τ : Type} (mutated : τ → Bool) (env : Environment)
    (outcome : Outcome ε τ) : Environment :=
  match outcome with
  | (.ok result, after) => if mutated result then after else env
  | (.error _, _) => env

/-- The persist rule of the verbs that mutate on every success. -/
def persistOk {ε τ : Type} (env : Environment) (outcome : Outcome ε τ) : Environment :=
  match outcome with
  | (.ok _, after) => after
  | (.error _, _) => env

end GreenticDeployer.Engine
