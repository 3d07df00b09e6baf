import GreenticDeployer.Spec.Documents

/-!
# Environment-lifecycle verbs

Creating, patching and seeding the environment document itself.
-/

set_option maxHeartbeats 200000

namespace GreenticDeployer.Engine

open Spec

inductive FieldUpdate (α : Type) where
  | keep
  | set (value : α)
  | clear

def FieldUpdate.applyTo {α : Type} (update : FieldUpdate α) (target : Option α) : Option α :=
  match update with
  | .keep => target
  | .set value => some value
  | .clear => none

structure UpdateEnvironmentPayload where
  name : Option String
  region : FieldUpdate String
  tenantOrgId : FieldUpdate String
  listenAddr : FieldUpdate String
  publicBaseUrl : FieldUpdate String
  guiEnabled : FieldUpdate Bool
  defaultBundle : FieldUpdate BundleId

structure MigrateSeedPayload where
  hostConfig : EnvironmentHostConfig
  revocation : RevocationConfig
  retention : RetentionPolicy
  health : HealthStatus

inductive EngineError where
  | notFound (envId : EnvId)
  deriving DecidableEq, Repr

def freshEnvironment (envId : EnvId) (name : String) (hostConfig : EnvironmentHostConfig)
    (revocation : RevocationConfig) (retention : RetentionPolicy) (health : HealthStatus) :
    Environment where
  schema := ⟨SchemaVersion.environmentV1⟩
  environmentId := envId
  name := name
  hostConfig := { hostConfig with envId := envId }
  packs := []
  credentialsRef := none
  bundles := []
  revisions := []
  trafficSplits := []
  messagingEndpoints := []
  extensions := []
  revocation := revocation
  retention := retention
  health := health

def applyEnvironmentUpdate (env : Environment) (patch : UpdateEnvironmentPayload) : Environment :=
  { env with
    name := patch.name.getD env.name
    hostConfig := { env.hostConfig with
      region := patch.region.applyTo env.hostConfig.region
      tenantOrgId := patch.tenantOrgId.applyTo env.hostConfig.tenantOrgId
      listenAddr := patch.listenAddr.applyTo env.hostConfig.listenAddr
      publicBaseUrl := patch.publicBaseUrl.applyTo env.hostConfig.publicBaseUrl
      guiEnabled := patch.guiEnabled.applyTo env.hostConfig.guiEnabled
      defaultBundle := patch.defaultBundle.applyTo env.hostConfig.defaultBundle } }

def seedOrExisting (existing : Option Environment) (envId : EnvId)
    (seed : Option MigrateSeedPayload) : Except EngineError Environment :=
  match existing, seed with
  | some env, _ => .ok env
  | none, some seed =>
    .ok (freshEnvironment envId envId.asStr seed.hostConfig seed.revocation seed.retention
      seed.health)
  | none, none => .error (.notFound envId)

end GreenticDeployer.Engine
