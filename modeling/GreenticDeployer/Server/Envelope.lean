import GreenticDeployer.Engine.Verbs
import GreenticDeployer.Server.Rbac
import GreenticDeployer.Store.Calls
import GreenticDeployer.Trust.RevenuePolicy

/-!
# Errors, responses and headers

The wire vocabulary of the store server: its typed errors with their statuses,
the mutation envelope, and what a handler reads from the request's headers.
-/

set_option maxHeartbeats 200000

namespace GreenticDeployer.Server

open Spec Engine Store Trust

/-- The text of an error body: a literal one, or the rendering of an error. -/
inductive Detail where
  | text (detail : String)
  | engine (error : EngineError)
  | revision (error : RevisionLifecycleError)
  | traffic (error : TrafficSplitError)
  | binding (error : BindingError)
  | bundle (error : BundleError)
  | messaging (error : MessagingError)
  | trustRoot (error : TrustRootDocError)
  | policy (error : RevenuePolicyError)
  | storage (error : StorageError)
  | spec (error : SpecError)
  deriving DecidableEq

instance : Coe String Detail := ⟨.text⟩

inductive RemoteStoreError where
  | preconditionFailed (conflict : ConcurrencyConflict)
  | preconditionRequired (detail : Detail)
  | idempotencyConflict (reason : Detail)
  | unauthorized (policy reason : String)
  | notFound
  | alreadyExists (detail : Detail)
  | invalidRequest (detail : Detail)
  | conflict (detail : Detail)
  | dependentNotFound (detail : Detail)
  | healthGateFailed (revisionId : RevisionId) (failedChecks : List HealthCheckId)
      (message : String)
  | integrityMismatch (expected actual : String)
  | notYetImplemented (detail : Detail)
  | internal (message : Detail)
  deriving DecidableEq

namespace RemoteStoreError

def httpStatus : RemoteStoreError → Nat
  | preconditionFailed _ => 412
  | preconditionRequired _ => 428
  | idempotencyConflict _ => 409
  | unauthorized .. => 403
  | notFound => 404
  | alreadyExists _ => 409
  | invalidRequest _ => 400
  | conflict _ => 409
  | dependentNotFound _ => 404
  | healthGateFailed .. => 422
  | integrityMismatch .. => 422
  | notYetImplemented _ => 501
  | internal _ => 500

def ofPrecondition : PreconditionError → RemoteStoreError
  | .required =>
    .preconditionRequired "a conditional write must pin If-Match and/or expected generation"
  | .conflict stale => .preconditionFailed stale

def ofEngine : EngineError → RemoteStoreError
  | .notFound _ => .notFound

def ofRevision (e : RevisionLifecycleError) : RemoteStoreError :=
  match e with
  | .notFound .. | .deploymentNotFound .. => .dependentNotFound (.revision e)
  | .conflict .. | .activeTrafficReference .. => .conflict (.revision e)
  | .healthGateFailed id checks message => .healthGateFailed id checks message
  | .duplicateRevision .. => .alreadyExists (.revision e)
  | .invalidTransition .. | .emptyChain => .internal "revision lifecycle chain misconfigured"

def ofTraffic (e : TrafficSplitError) : RemoteStoreError :=
  match e with
  | .deploymentNotFound .. | .revisionNotFound .. | .noSplit .. | .snapshotMissing _ =>
    .dependentNotFound (.traffic e)
  | .idempotencyKeyReused .. => .idempotencyConflict (.traffic e)
  | .wrongDeployment .. | .admissionRevisionMissing .. | .notReady .. | .snapshotEncode _
  | .noPreviousSnapshot _ | .snapshotDecode _ => .conflict (.traffic e)
  | .invalid spec => .invalidRequest (.spec spec)

def ofBinding (e : BindingError) : RemoteStoreError :=
  match e with
  | .slotNotBound .. | .extensionNotBound .. | .slotSnapshotMissing ..
  | .extensionSnapshotMissing .. => .dependentNotFound (.binding e)
  | .slotAlreadyBound .. | .extensionAlreadyBound .. => .alreadyExists (.binding e)
  | .notPackSlot _ => .invalidRequest (.binding e)
  | .slotMismatch .. | .extensionKeyMismatch .. | .slotNoPrevious .. | .extensionNoPrevious ..
  | .slotGenerationOverflow .. | .extensionGenerationOverflow .. | .snapshotEncode _
  | .snapshotDecode _ => .conflict (.binding e)

def ofBundle (e : BundleError) : RemoteStoreError :=
  match e with
  | .alreadyDeployed .. => .alreadyExists (.bundle e)
  | .deploymentNotFound .. => .dependentNotFound (.bundle e)
  | .stillLive .. => .conflict (.bundle e)

def ofMessaging (e : MessagingError) : RemoteStoreError :=
  match e with
  | .idempotencyKeyReuse .. => .idempotencyConflict (.messaging e)
  | .endpointAlreadyExists .. => .alreadyExists (.messaging e)
  | .endpointNotFound .. | .bundleNotDeployed .. => .dependentNotFound (.messaging e)
  | .welcomeFlowOwned .. => .conflict (.messaging e)
  | .bundleNotLinked .. | .welcomePackUnknown .. | .invalidSecretRef .. =>
    .invalidRequest (.messaging e)
  | .secretProvision detail => .notYetImplemented detail

def ofTrustRoot (e : TrustRootDocError) : RemoteStoreError :=
  match e with
  | .key _ | .keyIdMismatch .. | .emptyKeyId _ => .invalidRequest (.trustRoot e)
  | .badSchema _ => .internal "trust-root document schema misconfigured"

def ofRevenuePolicy (envId : EnvId) (e : RevenuePolicyError) : RemoteStoreError :=
  match e with
  | .operatorKeyNotTrusted keyId =>
    .conflict (.text ("operator key `" ++ keyId ++ "` is not trusted in env `" ++ envId.asStr ++
      "`; run the trust-root bootstrap verb first (`POST /environments/" ++ envId.asStr ++
      "/trust-root/bootstrap`)"))
  | .unsafeSegment _ | .spec _ => .invalidRequest (.policy e)
  | .versionOverflow => .conflict (.policy e)
  | .sign _ => .internal (.policy e)

end RemoteStoreError

def mapStorageError (e : StorageError) : RemoteStoreError :=
  match e with
  | .notFound _ => .notFound
  | .alreadyExists envId _ =>
    .alreadyExists (.text ("environment `" ++ envId.asStr ++ "` already exists"))
  | .preconditionRequired =>
    .preconditionRequired "a conditional write must pin If-Match and/or expected generation"
  | .preconditionFailed _ conflict => .preconditionFailed conflict
  | .integrityMismatch _ stored recomputed => .integrityMismatch stored recomputed
  | .spec error => .invalidRequest (.spec error)
  | .envIdMismatch keyed payload =>
    .invalidRequest (.text ("environment_id mismatch: keyed `" ++ keyed.asStr ++ "`, payload `" ++
      payload.asStr ++ "`"))
  | .trustRootChanged _ => .conflict (.storage e)
  | .idempotencyKeyCommitted .. => .idempotencyConflict (.storage e)
  | .backupLimitReached .. => .conflict (.storage e)
  | .json _ | .backend _ => .internal "internal store error"

/-- On a load, a document that fails its checks is corruption, not a bad request. -/
def loadStorageError (e : StorageError) : RemoteStoreError :=
  match e with
  | .spec _ | .envIdMismatch .. | .json _ =>
    .internal "stored environment state failed validation"
  | other => mapStorageError other

structure RevisionTransitionOutcome where
  revision : Revision
  environment : Environment
  startingLifecycle : RevisionLifecycle

structure ApplyTrafficSplitOutcome where
  split : TrafficSplit
  previousGeneration : Option UInt64
  newGeneration : Option UInt64
  environment : Environment

structure RollbackTrafficSplitOutcome where
  restored : TrafficSplit
  previousGeneration : UInt64
  newGeneration : UInt64
  environment : Environment

structure TrustRootSeed where
  keyId : String
  publicKeyPem : String
  trustedKeyCount : Nat

/-- The `result` of a mutation envelope. -/
inductive MutationResult where
  | environment (env : Environment)
  | recorded
  | merged (report : MergeReport)
  | revision (revision : Revision)
  | transition (outcome : RevisionTransitionOutcome)
  | trafficSet (outcome : ApplyTrafficSplitOutcome)
  | trafficRolledBack (outcome : RollbackTrafficSplitOutcome)
  | packBinding (binding : EnvPackBinding)
  | packBindingGeneration (binding : EnvPackBinding) (generation : UInt64)
  | extensionBinding (binding : ExtensionBinding)
  | extensionBindingGeneration (binding : ExtensionBinding) (generation : UInt64)
  | deployment (deployment : BundleDeployment)
  | bundleRemoved (outcome : RemoveBundleOutcome)
  | endpoint (endpoint : Option MessagingEndpoint)
  | endpointRemoved (endpointId : MessagingEndpointId)
  | seed (seed : Option TrustRootSeed)
  | keyAdded (addedKeyId : String) (trustedKeyCount : Nat)
  | keyRemoved (removedKeyId : String) (removedPublicKeyPem : Option String)
      (trustedKeyCount : Nat)
  | backup (manifest : BackupManifest)
  | backupDeleted (backupId : String)
  | imported (generation : Nat) (integrity : StateIntegrity)
  | restored (generation : Nat) (integrity : StateIntegrity)

inductive IdempotencyOutcome where
  | applied
  | replayed
  deriving DecidableEq, Repr

structure MutationEnvelope where
  result : MutationResult
  etag : StateEtag
  generation : Nat
  idempotency : IdempotencyOutcome
  audit : AuditEvent

structure BackupArtifact (V : Type) where
  schema : SchemaVersion
  manifest : BackupManifest
  snapshot : V
  snapshotDigest : String

/-- A response body. Only a success envelope carries the replay marker. -/
inductive ResponseBody (V : Type) where
  | envelope (envelope : MutationEnvelope)
  | error (error : RemoteStoreError)
  | artifact (artifact : BackupArtifact V)

structure Response (V : Type) where
  status : Nat
  body : ResponseBody V

variable {V : Type}

def ResponseBody.flipMarker : ResponseBody V → ResponseBody V
  | .envelope success => .envelope { success with idempotency := .replayed }
  | body => body

abbrev Record (V : Type) := StoredIdempotencyRecord (ResponseBody V)
abbrev Journal (V : Type) := MutationJournal V (ResponseBody V)

def replay (record : Record V) : Response V := ⟨record.responseStatus, record.responseBody.flipMarker⟩

def reusedKey (envId : EnvId) (idemKey : String) (record : Record V) : RemoteStoreError :=
  .idempotencyConflict (.text ("idempotency key `" ++ idemKey ++ "` was already used by a different `" ++
    record.operation ++ "` request on env `" ++ envId.asStr ++ "`; pass a fresh key"))

/-- A header value; only visible ASCII reads as text. -/
inductive HeaderValue where
  | ascii (text : String)
  | binary
  deriving DecidableEq, Repr

def HeaderValue.toStr : HeaderValue → Option String
  | .ascii text => some text
  | .binary => none

structure HeaderMap where
  authorization : Option HeaderValue
  idempotencyKey : Option HeaderValue
  ifMatch : Option HeaderValue
  deriving DecidableEq, Repr

def stripPrefix (start text : List Char) : Option (List Char) :=
  if start <+: text then some (text.drop start.length) else none

def bearerToken (headers : HeaderMap) : Option String :=
  match (headers.authorization.bind HeaderValue.toStr).bind fun value =>
      stripPrefix "Bearer ".toList value.toList with
  | none => none
  | some rest =>
    let token := trim (String.ofList rest)
    if token = [] then none else some (String.ofList token)

/-- Whatever key the request carries, blank ones aside. -/
def carriedKey (headers : HeaderMap) : Option String :=
  (headers.idempotencyKey.bind HeaderValue.toStr).filter fun key => trim key ≠ []

def requireIdempotencyKey (headers : HeaderMap) : Except RemoteStoreError IdempotencyKey :=
  match headers.idempotencyKey.bind HeaderValue.toStr with
  | none => .error (.invalidRequest missing)
  | some key =>
    if nonblank : trim key ≠ [] then
      if key.utf8ByteSize > 255 then
        .error (.invalidRequest "Idempotency-Key exceeds 255 bytes (A8 §2 recommends a ULID)")
      else .ok ⟨key, nonblank⟩
    else .error (.invalidRequest missing)
where
  missing : Detail := .text
    "missing or empty Idempotency-Key header (A8 §2: every mutating request must carry one)"

/-- The text between surrounding double quotes, or the text itself. -/
def unquote (text : List Char) : List Char :=
  match stripPrefix ['"'] text with
  | none => text
  | some rest => (stripSuffix ['"'] rest).getD text

def parseIfMatch (headers : HeaderMap) : Except RemoteStoreError (Option StateEtag) :=
  match headers.ifMatch with
  | none => .ok none
  | some .binary => .error (.invalidRequest "If-Match header is not valid ASCII")
  | some (.ascii text) =>
    let value := trim text
    if "W/".toList <+: value ∨ "w/".toList <+: value then
      .error (.invalidRequest
        "strong ETag required (weak validators `W/` are not accepted)")
    else if value = ['*'] then
      .error (.invalidRequest "strong ETag required (`*` wildcard is not accepted)")
    else .ok (some ⟨String.ofList (unquote value)⟩)

end GreenticDeployer.Server
