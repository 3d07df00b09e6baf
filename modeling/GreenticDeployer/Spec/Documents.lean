import Mathlib.Algebra.Ring.Int.Defs
import Mathlib.Algebra.Ring.Nat
import Mathlib.Data.String.Basic
import Mathlib.Data.List.Sort

/-!
# The deployment documents

The records of `greentic-deploy-spec`, field for field. A path is its text, an
instant its distance from the epoch, a JSON value its canonical text; unsigned
machine integers keep their width.
-/

set_option maxHeartbeats 200000

namespace GreenticDeployer.Spec

abbrev Ulid := BitVec 128

structure RevisionId where
  ulid : Ulid
  deriving DecidableEq, Repr

structure DeploymentId where
  ulid : Ulid
  deriving DecidableEq, Repr

structure MessagingEndpointId where
  ulid : Ulid
  deriving DecidableEq, Repr

structure EnvId where
  asStr : String
  deriving DecidableEq, Repr

structure BundleId where
  asStr : String
  deriving DecidableEq, Repr

structure CustomerId where
  asStr : String
  deriving DecidableEq, Repr

structure PackId where
  asStr : String
  deriving DecidableEq, Repr

structure PartyId where
  asStr : String
  deriving DecidableEq, Repr

abbrev DateTime := Int

abbrev PathBuf := String

structure Json where
  text : String
  deriving DecidableEq, Repr

/-- The digits of Crockford's base 32, in value order. -/
def crockford : List Char := "0123456789ABCDEFGHJKMNPQRSTVWXYZ".toList

/-- The 26 characters a ULID prints as, five bits each, most significant first. -/
def Ulid.toChars (ulid : Ulid) : List Char :=
  (List.range 26).map fun place =>
    crockford.getD (ulid.toNat / 32 ^ (25 - place) % 32) '0'

def RevisionId.toString (id : RevisionId) : String := String.ofList id.ulid.toChars

/-- Unicode `White_Space`, the class `char::is_whitespace` tests. -/
def isWhitespace (c : Char) : Bool :=
  let code := c.toNat
  (9 ≤ code && code ≤ 13) || code == 0x20 || code == 0x85 || code == 0xA0 ||
    code == 0x1680 || (0x2000 ≤ code && code ≤ 0x200A) || code == 0x2028 ||
    code == 0x2029 || code == 0x202F || code == 0x205F || code == 0x3000

def trim (text : String) : List Char :=
  ((text.toList.dropWhile isWhitespace).reverse.dropWhile isWhitespace).reverse

/-- The key of a mutating request. Construction refuses a blank one. -/
structure IdempotencyKey where
  asStr : String
  nonblank : trim asStr ≠ []
  deriving DecidableEq

/-- A `BTreeMap`: its entries in strictly ascending key order. -/
structure BTreeMap (ν : Type) where
  entries : List (String × ν)
  ascending : (entries.map Prod.fst).Pairwise (· < ·)
  deriving DecidableEq

def BTreeMap.empty {ν : Type} : BTreeMap ν := ⟨[], List.Pairwise.nil⟩

def BTreeMap.keys {ν : Type} (map : BTreeMap ν) : List String := map.entries.map Prod.fst

abbrev ConfigOverrides := BTreeMap (BTreeMap Json)

structure SchemaVersion where
  asStr : String
  deriving DecidableEq, Repr

namespace SchemaVersion

def environmentV1 : String := "greentic.environment.v1"
def revisionV1 : String := "greentic.revision.v1"
def trafficSplitV1 : String := "greentic.traffic-split.v1"
def bundleDeploymentV1 : String := "greentic.bundle-deployment.v1"
def messagingEndpointV1 : String := "greentic.messaging-endpoint.v1"

end SchemaVersion

inductive RevisionLifecycle where
  | inactive
  | staged
  | warming
  | ready
  | draining
  | failed
  | archived
  deriving DecidableEq, Repr

def isValidTransition : RevisionLifecycle → RevisionLifecycle → Bool
  | .inactive, .staged => true
  | .inactive, .failed => true
  | .inactive, .archived => true
  | .staged, .warming => true
  | .staged, .failed => true
  | .staged, .archived => true
  | .warming, .ready => true
  | .warming, .failed => true
  | .warming, .archived => true
  | .ready, .draining => true
  | .ready, .failed => true
  | .ready, .archived => true
  | .draining, .inactive => true
  | .failed, .staged => true
  | .failed, .archived => true
  | _, _ => false

structure PackListEntry where
  packId : PackId
  version : String
  digest : String
  sourceUri : Option String
  deriving DecidableEq, Repr

structure Revision where
  schema : SchemaVersion
  revisionId : RevisionId
  envId : EnvId
  bundleId : BundleId
  deploymentId : DeploymentId
  sequence : UInt64
  createdAt : DateTime
  bundleDigest : String
  bundleSourceUri : Option String
  packList : List PackListEntry
  packListLockRef : PathBuf
  packConfigRefs : List PathBuf
  configDigest : String
  signatureSidecarRef : PathBuf
  lifecycle : RevisionLifecycle
  stagedAt : Option DateTime
  warmedAt : Option DateTime
  drainSeconds : UInt32
  runtimeImageDigest : Option String
  abortMetrics : List String
  deriving DecidableEq, Repr

structure TrafficSplitEntry where
  revisionId : RevisionId
  weightBps : UInt32
  deriving DecidableEq, Repr

structure TrafficSplit where
  schema : SchemaVersion
  envId : EnvId
  deploymentId : DeploymentId
  bundleId : BundleId
  generation : UInt64
  entries : List TrafficSplitEntry
  updatedAt : DateTime
  updatedBy : String
  idempotencyKey : String
  authorizationRef : PathBuf
  previousSplitRef : Option PathBuf
  deriving DecidableEq, Repr

inductive BundleDeploymentStatus where
  | active
  | paused
  | archived
  deriving DecidableEq, Repr

structure TenantSelector where
  tenant : String
  team : String
  deriving DecidableEq, Repr

structure RouteBinding where
  hosts : List String
  pathPrefixes : List String
  tenantSelector : TenantSelector
  deriving DecidableEq, Repr

structure RevenueShareEntry where
  partyId : PartyId
  basisPoints : UInt32
  deriving DecidableEq, Repr

structure UsageMeter where
  meterEndpoint : String
  lastSeenAt : Option DateTime
  deriving DecidableEq, Repr

structure BundleDeployment where
  schema : SchemaVersion
  deploymentId : DeploymentId
  envId : EnvId
  bundleId : BundleId
  packName : Option String
  customerId : CustomerId
  status : BundleDeploymentStatus
  currentRevisions : List RevisionId
  routeBinding : RouteBinding
  revenueShare : List RevenueShareEntry
  revenuePolicyRef : PathBuf
  usage : Option UsageMeter
  createdAt : DateTime
  authorizationRef : PathBuf
  configOverrides : ConfigOverrides
  deriving DecidableEq

inductive CapabilitySlot where
  | deployer
  | secrets
  | telemetry
  | sessions
  | state
  | revocation
  | messaging
  | extension
  deriving DecidableEq, Repr

namespace CapabilitySlot

def asStr : CapabilitySlot → String
  | .deployer => "deployer"
  | .secrets => "secrets"
  | .telemetry => "telemetry"
  | .sessions => "sessions"
  | .state => "state"
  | .revocation => "revocation"
  | .messaging => "messaging"
  | .extension => "extension"

/-- Whether a slot binds in `packs` under the one-per-slot rule. The two
families that may bind many times per environment do not. -/
def bindsInPacks : CapabilitySlot → Bool
  | .messaging | .extension => false
  | _ => true

end CapabilitySlot

/-- A parsed `<path>@<version>` descriptor. -/
structure PackDescriptor where
  path : String
  version : String
  deriving DecidableEq, Repr

structure EnvPackBinding where
  slot : CapabilitySlot
  kind : PackDescriptor
  packRef : PackId
  answersRef : Option PathBuf
  generation : UInt64
  previousBindingRef : Option PathBuf
  deriving DecidableEq, Repr

structure ExtensionBinding where
  kind : PackDescriptor
  packRef : PackId
  instanceId : Option String
  answersRef : Option PathBuf
  generation : UInt64
  previousBindingRef : Option PathBuf
  deriving DecidableEq, Repr

structure SecretRef where
  asStr : String
  deriving DecidableEq, Repr

structure WelcomeFlowRef where
  bundleId : BundleId
  packId : PackId
  flowId : String
  deriving DecidableEq, Repr

structure MessagingEndpoint where
  schema : SchemaVersion
  envId : EnvId
  endpointId : MessagingEndpointId
  providerId : String
  providerType : String
  displayName : String
  secretRefs : List SecretRef
  webhookSecretRef : Option SecretRef
  linkedBundles : List BundleId
  welcomeFlow : Option WelcomeFlowRef
  generation : UInt64
  createdAt : DateTime
  updatedAt : DateTime
  updatedBy : String
  deriving DecidableEq, Repr

structure RevocationConfig where
  required : Bool
  listRef : Option String
  deriving DecidableEq, Repr

structure RetentionPolicy where
  keepRevisions : Option UInt32
  auditRetentionDays : Option UInt32
  deriving DecidableEq, Repr

inductive HealthState where
  | unknown
  | green
  | yellow
  | red
  deriving DecidableEq, Repr

structure HealthStatus where
  state : HealthState
  message : Option String
  lastCheckedAt : Option DateTime
  deriving DecidableEq, Repr

structure EnvironmentHostConfig where
  envId : EnvId
  region : Option String
  tenantOrgId : Option String
  listenAddr : Option String
  publicBaseUrl : Option String
  guiEnabled : Option Bool
  defaultBundle : Option BundleId
  deriving DecidableEq, Repr

structure Environment where
  schema : SchemaVersion
  environmentId : EnvId
  name : String
  hostConfig : EnvironmentHostConfig
  packs : List EnvPackBinding
  credentialsRef : Option SecretRef
  bundles : List BundleDeployment
  revisions : List Revision
  trafficSplits : List TrafficSplit
  messagingEndpoints : List MessagingEndpoint
  extensions : List ExtensionBinding
  revocation : RevocationConfig
  retention : RetentionPolicy
  health : HealthStatus
  deriving DecidableEq

namespace Environment

def packForSlot (env : Environment) (slot : CapabilitySlot) : Option EnvPackBinding :=
  env.packs.find? fun binding => binding.slot = slot

end Environment

end GreenticDeployer.Spec
