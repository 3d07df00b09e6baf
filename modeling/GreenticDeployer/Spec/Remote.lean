import GreenticDeployer.Spec.Validate

/-!
# The remote-store contract

The wire shapes a store and its clients share: concurrency preconditions, audit
records, backups, and the trust-root and revenue-policy documents.
-/

set_option maxHeartbeats 200000

namespace GreenticDeployer.Spec

structure StateEtag where
  value : String
  deriving DecidableEq, Repr

structure Precondition where
  ifMatch : Option StateEtag
  expectedGeneration : Option Nat
  deriving DecidableEq, Repr

structure ConcurrencyConflict where
  expectedEtag : Option String
  actualEtag : String
  expectedGeneration : Option Nat
  actualGeneration : Nat
  deriving DecidableEq, Repr

inductive PreconditionError where
  | required
  | conflict (conflict : ConcurrencyConflict)
  deriving DecidableEq, Repr

namespace Precondition

def pinning (etag : StateEtag) (generation : Nat) : Precondition := ⟨some etag, some generation⟩

def isConditional (precondition : Precondition) : Bool :=
  precondition.ifMatch.isSome || precondition.expectedGeneration.isSome

def check (precondition : Precondition) (currentEtag : StateEtag) (currentGeneration : Nat) :
    Except PreconditionError Unit :=
  if ¬ precondition.isConditional then .error .required
  else if precondition.ifMatch.all (· = currentEtag) ∧
      precondition.expectedGeneration.all (· = currentGeneration) then .ok ()
  else .error (.conflict {
    expectedEtag := precondition.ifMatch.map (·.value)
    actualEtag := currentEtag.value
    expectedGeneration := precondition.expectedGeneration
    actualGeneration := currentGeneration })

theorem check_ok {precondition : Precondition} {etag : StateEtag} {generation : Nat}
    (passed : precondition.check etag generation = .ok ()) :
    precondition.isConditional = true ∧ (∀ pin ∈ precondition.ifMatch, pin = etag) ∧
      ∀ pin ∈ precondition.expectedGeneration, pin = generation := by
  unfold check at passed
  split at passed
  · cases passed
  · split at passed
    · rename_i conditional met
      simp only [Option.all_eq_true, decide_eq_true_eq] at met
      exact ⟨by simpa using conditional, met⟩
    · cases passed

end Precondition

structure Actor where
  kind : String
  user : Option String
  uid : Option UInt32
  deriving DecidableEq, Repr

inductive AuditDecision where
  | allow (policy reason : String)
  | deny (policy reason : String)
  deriving DecidableEq, Repr

inductive AuditResult where
  | ok
  | error (kind message : String)
  deriving DecidableEq, Repr

structure AuditEvent where
  schema : SchemaVersion
  eventId : String
  ts : DateTime
  actor : Actor
  envId : String
  noun : String
  verb : String
  previousGeneration : Option Nat
  newGeneration : Option Nat
  idempotencyKey : Option String
  authorization : AuditDecision
  result : AuditResult
  deriving DecidableEq, Repr

structure StateIntegrity where
  algorithm : String
  digest : String
  deriving DecidableEq, Repr

def StateEtag.fromIntegrity (integrity : StateIntegrity) : StateEtag := ⟨integrity.digest⟩

def integrityAlgorithmSha256 : String := "sha-256"

structure BackupManifest where
  schema : SchemaVersion
  backupId : String
  envId : EnvId
  createdAt : DateTime
  generation : Nat
  integrity : StateIntegrity
  sizeBytes : Nat
  deriving DecidableEq, Repr

structure EnvironmentRuntime where
  schema : SchemaVersion
  environmentId : EnvId
  discovered : BTreeMap Json
  generatedAt : DateTime
  generatedBy : PackDescriptor
  generation : UInt64
  deriving DecidableEq

structure TrustedKey where
  keyId : String
  publicKeyPem : String
  deriving DecidableEq, Repr

structure TrustRootDocument where
  schema : String
  keys : List TrustedKey
  deriving DecidableEq, Repr

structure RevenuePolicyDocument where
  schema : SchemaVersion
  version : Nat
  deploymentId : DeploymentId
  envId : EnvId
  bundleId : BundleId
  customerId : CustomerId
  revenueShare : List RevenueShareEntry
  createdAt : DateTime
  previousVersionRef : Option PathBuf
  deriving DecidableEq, Repr

namespace SchemaVersion

def environmentRuntimeV1 : String := "greentic.environment-runtime.v1"
def revenuePolicyV1 : String := "greentic.revenue-policy.v1"
def auditEventV1 : String := "greentic.audit.event.v1"
def backupManifestV1 : String := "greentic.backup-manifest.v1"
def trustRootV1 : String := "greentic.trust-root.v1"

end SchemaVersion

def RevenuePolicyDocument.validate (doc : RevenuePolicyDocument) : Except SpecError Unit := do
  checkSchema SchemaVersion.revenuePolicyV1 doc.schema
  if doc.version = 0 then .error .revenuePolicyVersionZero
  else checkBasisPoints (doc.revenueShare.map (·.basisPoints)) 0

end GreenticDeployer.Spec
