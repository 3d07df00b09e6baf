import GreenticDeployer.Engine.Bundles

/-!
# Messaging-endpoint verbs

The idempotency key of a mutation is stamped into `updated_by`, where a retry
finds it. Minting a webhook secret is the backend's `provision` argument.
-/

set_option maxHeartbeats 200000

namespace GreenticDeployer.Engine

open Spec Lib

inductive MessagingError where
  | idempotencyKeyReuse (key providerType providerId : String) (envId : EnvId)
  | endpointAlreadyExists (providerType providerId : String) (envId : EnvId)
  | endpointNotFound (endpointId : MessagingEndpointId) (envId : EnvId)
  | bundleNotDeployed (bundleId : BundleId) (envId : EnvId)
  | welcomeFlowOwned (bundleId : BundleId) (endpointId : MessagingEndpointId)
  | bundleNotLinked (bundleId : BundleId) (endpointId : MessagingEndpointId)
  | welcomePackUnknown (packId : String) (bundleId : BundleId) (known : List String)
  | invalidSecretRef (raw message : String)
  | secretProvision (message : String)
  deriving DecidableEq, Repr

structure AddMessagingEndpointPayload where
  providerId : String
  providerType : String
  displayName : String
  secretRefs : List String
  webhookSecretRef : Option String
  updatedBy : String

structure SetMessagingWelcomeFlowPayload where
  endpointId : MessagingEndpointId
  bundleId : BundleId
  packId : PackId
  flowId : String
  updatedBy : String

structure MessagingApplied where
  index : Nat
  mutated : Bool
  deriving DecidableEq

abbrev Provision := Option SecretRef → Except MessagingError SecretRef

def opAdd : String := "add"
def opLinkBundle : String := "link-bundle"
def opUnlinkBundle : String := "unlink-bundle"
def opSetWelcomeFlow : String := "set-welcome-flow"
def opRotateWebhookSecret : String := "rotate-webhook-secret"

def isTelegramClass (providerType : String) : Bool :=
  let chars := providerType.toList
  let rest := (chars.dropPrefix? "messaging.".toList).getD chars
  rest = "telegram".toList ∨ "telegram.".toList.isPrefixOf rest

def idemSuffix (op idempotencyKey : String) : String := "#idem=" ++ op ++ ":" ++ idempotencyKey

def formatIdemWriter (updatedBy op idempotencyKey : String) : String :=
  updatedBy ++ "#idem=" ++ op ++ ":" ++ idempotencyKey

def carriesIdemKey (endpoint : MessagingEndpoint) (suffix : String) : Bool :=
  suffix.toList.isSuffixOf endpoint.updatedBy.toList

def saturatingSucc (n : UInt64) : UInt64 := if n = 0xFFFFFFFFFFFFFFFF then n else n + 1

def stampMutation (endpoint : MessagingEndpoint) (updatedBy op idempotencyKey : String)
    (now : DateTime) : MessagingEndpoint :=
  { endpoint with
    generation := saturatingSucc endpoint.generation
    updatedAt := now
    updatedBy := formatIdemWriter updatedBy op idempotencyKey }

def findEndpointIdx (env : Environment) (endpointId : MessagingEndpointId) :
    Except MessagingError (Located MessagingEndpoint) :=
  match locate (fun e => e.endpointId = endpointId) env.messagingEndpoints with
  | none => .error (.endpointNotFound endpointId env.environmentId)
  | some found => .ok found

def listedPacks (env : Environment) (bundleId : BundleId) : List String :=
  (env.bundles.filter fun b => b.bundleId = bundleId).flatMap fun b =>
    b.currentRevisions.flatMap fun id =>
      match env.revisions.find? fun r => r.revisionId = id with
      | none => []
      | some revision => revision.packList.map (·.packId.asStr)

/-- A welcome pack must be listed, unless nothing is listed yet. -/
def validateWelcomePackId (env : Environment) (bundleId : BundleId) (packId : String) :
    Except MessagingError Unit :=
  let listed := listedPacks env bundleId
  if packId ∈ listed ∨ listed = [] then .ok ()
  else .error (.welcomePackUnknown packId bundleId (listed.insertionSort (· ≤ ·)).dedup)

variable (ext : Externals)

def parseSecretRef (raw : String) : Except MessagingError SecretRef :=
  match ext.secretRefTryNew raw with
  | .ok secret => .ok secret
  | .error message => .error (.invalidSecretRef raw message)

def validateCallerWebhookRef (isTelegram : Bool) (raw : String) :
    Except MessagingError SecretRef :=
  if isTelegram then parseSecretRef ext raw
  else .error (.invalidSecretRef raw
    "webhook_secret_ref is only valid for telegram-class providers")

/-- The webhook reference of a new endpoint: the caller's when given, minted by
the backend for a telegram-class provider, absent otherwise. -/
def webhookSecretFor (payload : AddMessagingEndpointPayload) (provision : Provision) :
    Except MessagingError (Option SecretRef) :=
  match isTelegramClass payload.providerType, payload.webhookSecretRef with
  | isTelegram, some raw => (validateCallerWebhookRef ext isTelegram raw).map some
  | true, none => (provision none).map some
  | false, none => .ok none

def addMessagingEndpoint (env : Environment) (payload : AddMessagingEndpointPayload)
    (endpointId : MessagingEndpointId) (idempotencyKey : IdempotencyKey) (now : DateTime)
    (provision : Provision) : Outcome MessagingError MessagingApplied :=
  let suffix := idemSuffix opAdd idempotencyKey.asStr
  match locate (fun e => carriesIdemKey e suffix) env.messagingEndpoints with
  | some found =>
    if found.hit.providerType = payload.providerType ∧
        found.hit.providerId = payload.providerId then
      (.ok ⟨found.index, false⟩, env)
    else
      (.error (.idempotencyKeyReuse idempotencyKey.asStr found.hit.providerType
        found.hit.providerId env.environmentId), env)
  | none =>
    if env.messagingEndpoints.any fun e =>
        e.providerType = payload.providerType ∧ e.providerId = payload.providerId then
      (.error (.endpointAlreadyExists payload.providerType payload.providerId
        env.environmentId), env)
    else
      -- References parse before anything is provisioned.
      match payload.secretRefs.mapM (parseSecretRef ext) with
      | .error e => (.error e, env)
      | .ok secretRefs =>
        match webhookSecretFor ext payload provision with
        | .error e => (.error e, env)
        | .ok webhookSecretRef =>
          let endpoint : MessagingEndpoint := {
            schema := ⟨SchemaVersion.messagingEndpointV1⟩
            envId := env.environmentId
            endpointId := endpointId
            providerId := payload.providerId
            providerType := payload.providerType
            displayName := payload.displayName
            secretRefs := secretRefs
            webhookSecretRef := webhookSecretRef
            linkedBundles := []
            welcomeFlow := none
            generation := 0
            createdAt := now
            updatedAt := now
            updatedBy := formatIdemWriter payload.updatedBy opAdd idempotencyKey.asStr }
          (.ok ⟨env.messagingEndpoints.length, true⟩,
            { env with messagingEndpoints := env.messagingEndpoints ++ [endpoint] })

def linkMessagingBundle (env : Environment) (endpointId : MessagingEndpointId)
    (bundleId : BundleId) (updatedBy : String) (idempotencyKey : IdempotencyKey)
    (now : DateTime) : Outcome MessagingError MessagingApplied :=
  match findEndpointIdx env endpointId with
  | .error e => (.error e, env)
  | .ok found =>
    if ¬ env.bundles.any fun b => b.bundleId = bundleId then
      (.error (.bundleNotDeployed bundleId env.environmentId), env)
    else if bundleId ∈ found.hit.linkedBundles then (.ok ⟨found.index, false⟩, env)
    else
      let linked := { found.hit with linkedBundles := found.hit.linkedBundles ++ [bundleId] }
      (.ok ⟨found.index, true⟩,
        { env with
          messagingEndpoints := found.replace
            (stampMutation linked updatedBy opLinkBundle idempotencyKey.asStr now) })

def unlinkMessagingBundle (env : Environment) (endpointId : MessagingEndpointId)
    (bundleId : BundleId) (updatedBy : String) (idempotencyKey : IdempotencyKey)
    (now : DateTime) : Outcome MessagingError MessagingApplied :=
  match findEndpointIdx env endpointId with
  | .error e => (.error e, env)
  | .ok found =>
    match locate (· = bundleId) found.hit.linkedBundles with
    | none => (.ok ⟨found.index, false⟩, env)
    | some link =>
      if found.hit.welcomeFlow.any (·.bundleId = bundleId) then
        (.error (.welcomeFlowOwned bundleId endpointId), env)
      else
        let unlinked := { found.hit with linkedBundles := link.remove }
        (.ok ⟨found.index, true⟩,
          { env with
            messagingEndpoints := found.replace
              (stampMutation unlinked updatedBy opUnlinkBundle idempotencyKey.asStr now) })

def setMessagingWelcomeFlow (env : Environment) (payload : SetMessagingWelcomeFlowPayload)
    (idempotencyKey : IdempotencyKey) (now : DateTime) :
    Outcome MessagingError MessagingApplied :=
  match findEndpointIdx env payload.endpointId with
  | .error e => (.error e, env)
  | .ok found =>
    if payload.bundleId ∉ found.hit.linkedBundles then
      (.error (.bundleNotLinked payload.bundleId payload.endpointId), env)
    else
      match validateWelcomePackId env payload.bundleId payload.packId.asStr with
      | .error e => (.error e, env)
      | .ok () =>
        let welcome : WelcomeFlowRef := ⟨payload.bundleId, payload.packId, payload.flowId⟩
        if found.hit.welcomeFlow = some welcome then (.ok ⟨found.index, false⟩, env)
        else
          let greeted := { found.hit with welcomeFlow := some welcome }
          (.ok ⟨found.index, true⟩,
            { env with
              messagingEndpoints := found.replace (stampMutation greeted payload.updatedBy
                opSetWelcomeFlow idempotencyKey.asStr now) })

/-- Whether the environment was mutated; the one verb that cannot fail. -/
def removeMessagingEndpoint (env : Environment) (endpointId : MessagingEndpointId) :
    Bool × Environment :=
  match locate (fun e => e.endpointId = endpointId) env.messagingEndpoints with
  | some found => (true, { env with messagingEndpoints := found.remove })
  | none => (false, env)

def rotateMessagingWebhookSecret (env : Environment) (endpointId : MessagingEndpointId)
    (updatedBy : String) (idempotencyKey : IdempotencyKey) (now : DateTime)
    (newRef : Option String) (provision : Provision) :
    Outcome MessagingError MessagingApplied :=
  match findEndpointIdx env endpointId with
  | .error e => (.error e, env)
  | .ok found =>
    if carriesIdemKey found.hit (idemSuffix opRotateWebhookSecret idempotencyKey.asStr) then
      (.ok ⟨found.index, false⟩, env)
    else
      let minted := match newRef with
        | some raw =>
          validateCallerWebhookRef ext (isTelegramClass found.hit.providerType) raw
        | none => provision found.hit.webhookSecretRef
      match minted with
      | .error e => (.error e, env)
      | .ok secret =>
        let rotated := { found.hit with webhookSecretRef := some secret }
        (.ok ⟨found.index, true⟩,
          { env with
            messagingEndpoints := found.replace (stampMutation rotated updatedBy
              opRotateWebhookSecret idempotencyKey.asStr now) })

end GreenticDeployer.Engine
