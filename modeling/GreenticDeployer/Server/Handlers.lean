import GreenticDeployer.Server.Gate

/-!
# Handlers that write the environment document

Each loads the document, applies one engine verb to the loaded copy, and commits
the result under the revision it loaded. A path segment arrives as its parser
left it: a value, or the text of the refusal.
-/

set_option maxHeartbeats 200000

namespace GreenticDeployer.Server

open Spec Engine Store Trust Lib

variable {V : Type} (cfg : Config V) (head : Head)

abbrev Segment (α : Type) := Except String α

def parseSegment {α : Type} (segment : Segment α) : Except RemoteStoreError α :=
  segment.mapError fun detail => .invalidRequest (.text detail)

def parseCapabilitySlot (raw : String) : Except RemoteStoreError CapabilitySlot :=
  match [.deployer, .secrets, .telemetry, .sessions, .state, .revocation, .messaging,
      .extension].find? fun slot : CapabilitySlot => slot.asStr = raw with
  | some slot => .ok slot
  | none => .error (.invalidRequest (.text ("invalid capability slot `" ++ raw ++ "`")))

def loadEnvironment (ctx : Context) : Handling V (Loaded Environment) :=
  ask (.loadEnv ctx.envId) loadStorageError

def commitUpdate (clientEtag : Option StateEtag) (loaded : EnvRevision) (env : Environment)
    (prepared : PreparedMutation V) : Handling V (Response V) := do
  let _ ← ask (.updateEnv env (resolvePrecondition clientEtag loaded) (some prepared.journal))
    mapStorageError
  return prepared.intoResponse

/-- Consume the key without a document to commit. -/
def commitJournal (prepared : PreparedMutation V) : Handling V (Response V) := do
  let _ ← ask (.recordJournal prepared.journal) mapStorageError
  return prepared.intoResponse

/-- What a verb made of the loaded copy: a document to commit, or nothing new. -/
inductive Change where
  | write (env : Environment) (result : MutationResult)
  | keep (result : MutationResult)

/-- The persist rule of a verb group whose every success is a mutation. -/
def writeOk {ε τ : Type} (onError : ε → RemoteStoreError)
    (result : τ → Environment → MutationResult) : Outcome ε τ → Except RemoteStoreError Change
  | (.ok value, env) => .ok (.write env (result value env))
  | (.error e, _) => .error (onError e)

/-- The persist rule of a verb group whose successes report a mutation or not. -/
def writeIfMutated {ε τ : Type} (onError : ε → RemoteStoreError) (mutated : τ → Bool)
    (result : τ → Environment → MutationResult) : Outcome ε τ → Except RemoteStoreError Change
  | (.ok value, env) =>
    .ok (if mutated value then .write env (result value env) else .keep (result value env))
  | (.error e, _) => .error (onError e)

def mutateLoaded (ctx : Context) (clientEtag : Option StateEtag)
    (apply : Environment → Except RemoteStoreError Change) : Handling V (Response V) := do
  let loaded ← loadEnvironment ctx
  let change ← Program.lift (apply loaded.value)
  match change with
  | .write env result =>
    let next ← Program.lift (nextRevision cfg env loaded.revision)
    commitUpdate clientEtag loaded.revision env
      (prepareMutation cfg ctx result (some loaded.revision.generation) next)
  | .keep result =>
    commitJournal
      (prepareMutation cfg ctx result (some loaded.revision.generation) loaded.revision)

def engineMutation (envId : EnvId) (noun verb : String)
    (apply : IdempotencyKey → Environment → Except RemoteStoreError Change) : Handler V where
  envId := envId
  noun := noun
  verb := verb
  enter headers := do
    let clientEtag ← parseIfMatch headers
    return fun ctx => withReplay ctx (mutateLoaded cfg ctx clientEtag (apply ctx.idemKey))

structure CreateEnvironmentPayload where
  envId : EnvId
  name : String
  hostConfig : EnvironmentHostConfig

structure MigrateMergePayload where
  packs : List EnvPackBinding
  extensions : List ExtensionBinding
  seedIfMissing : Option MigrateSeedPayload

inductive ReconcileCompletion where
  | succeeded (applied pruned : UInt32)
  | failed (error : String)

def defaultRevocation : RevocationConfig := ⟨false, none⟩
def defaultRetention : RetentionPolicy := ⟨none, none⟩
def defaultHealth : HealthStatus := ⟨.unknown, none, none⟩

def createdEnvironment (payload : CreateEnvironmentPayload) : Environment :=
  freshEnvironment payload.envId payload.name payload.hostConfig defaultRevocation
    defaultRetention defaultHealth

def commitCreate (env : Environment) (prepared : PreparedMutation V) : Handling V (Response V) := do
  let _ ← ask (.createEnv env (some prepared.journal)) mapStorageError
  return prepared.intoResponse

def createEnvironment (payload : CreateEnvironmentPayload) : Handler V where
  envId := payload.envId
  noun := "env"
  verb := "create"
  enter _ := .ok fun ctx => withReplay ctx do
    let env := createdEnvironment payload
    let created ← Program.lift (createdRevision cfg env)
    commitCreate env (prepareMutation cfg ctx (.environment env) none created)

def updateEnvironment (envId : Segment EnvId) (patch : UpdateEnvironmentPayload) :
    Except RemoteStoreError (Handler V) := do
  let envId ← parseSegment envId
  return engineMutation cfg envId "env" "update" fun _ env =>
    let env := applyEnvironmentUpdate env patch
    .ok (.write env (.environment env))

/-- A stale reviewed state is refused by the handler itself: nothing is written
that a storage precondition could guard. -/
def checkReviewed (clientEtag : StateEtag) (loaded : EnvRevision) :
    Except RemoteStoreError Unit :=
  ensure (clientEtag = loaded.etag)
    (.preconditionFailed ⟨some clientEtag.value, loaded.etag.value, none, loaded.generation⟩)

def reconcileEnvironment (envId : Segment EnvId) : Except RemoteStoreError (Handler V) := do
  let envId ← parseSegment envId
  return {
    envId := envId
    noun := "env"
    verb := "reconcile"
    enter := fun headers => do
      match ← parseIfMatch headers with
      | none =>
        .error (.preconditionRequired "reconcile requires If-Match to pin the reviewed state")
      | some clientEtag =>
        return fun ctx => withReplay ctx do
          let loaded ← loadEnvironment ctx
          Program.lift (checkReviewed clientEtag loaded.revision)
          commitJournal (prepareMutation cfg ctx (.environment loaded.value)
            (some loaded.revision.generation) loaded.revision) }

def completeReconcile (envId : Segment EnvId) (completion : ReconcileCompletion) :
    Except RemoteStoreError (Handler V) := do
  let envId ← parseSegment envId
  return {
    envId := envId
    noun := "env"
    verb := "reconcile-complete"
    enter := fun _ => .ok fun ctx => withReplay ctx do
      let loaded ← loadEnvironment ctx
      let auditResult := match completion with
        | .succeeded .. => AuditResult.ok
        | .failed error => .error "reconcile-failed" error
      commitJournal (prepareMutationAudited cfg ctx .recorded
        (some loaded.revision.generation) loaded.revision auditResult 0) }

def migrateExisting (ctx : Context) (clientEtag : Option StateEtag)
    (payload : MigrateMergePayload) (loaded : Loaded Environment) : Handling V (Response V) := do
  let (report, env) := mergeBindings loaded.value payload.packs payload.extensions
  let next ← Program.lift (nextRevision cfg env loaded.revision)
  commitUpdate clientEtag loaded.revision env
    (prepareMutation cfg ctx (.merged report) (some loaded.revision.generation) next)

/-- The document a migration founds where there is none. -/
def seededEnvironment (envId : EnvId) (payload : MigrateMergePayload) :
    Except RemoteStoreError (MergeReport × Environment) :=
  match seedOrExisting none envId payload.seedIfMissing with
  | .error e => .error (.ofEngine e)
  | .ok env => .ok (mergeBindings env payload.packs payload.extensions)

def migrateSeeded (ctx : Context) (clientEtag : Option StateEtag)
    (payload : MigrateMergePayload) : Handling V (Response V) := do
  let seeded ← Program.lift (seededEnvironment ctx.envId payload)
  -- A precondition on a document that does not exist has failed.
  let absent := match clientEtag with
    | some etag => .error (.preconditionFailed ⟨some etag.value, "", none, 0⟩)
    | none => .ok ()
  Program.lift absent
  let created ← Program.lift (createdRevision cfg seeded.2)
  commitCreate seeded.2 (prepareMutation cfg ctx (.merged seeded.1) none created)

def migrateBindings (envId : Segment EnvId) (payload : MigrateMergePayload) :
    Except RemoteStoreError (Handler V) := do
  let envId ← parseSegment envId
  return {
    envId := envId
    noun := "env"
    verb := "migrate-bindings"
    enter := fun headers => do
      let clientEtag ← parseIfMatch headers
      return fun ctx => withReplay ctx do
        match ← attempt (.loadEnv ctx.envId) with
        | .ok loaded => migrateExisting cfg ctx clientEtag payload loaded
        | .error (.notFound _) => migrateSeeded cfg ctx clientEtag payload
        | .error e => Program.lift (.error (loadStorageError e)) }

def stageRevision (envId : Segment EnvId) (payload : StageRevisionPayload) :
    Except RemoteStoreError (Handler V) := do
  let envId ← parseSegment envId
  return engineMutation cfg envId "revisions" "stage" fun _ env =>
    writeOk .ofRevision (fun staged _ => .revision staged)
      (Engine.stageRevision env payload head.now)

/-- A failed health gate is committed too, with its 422 as the stored response. -/
def transitionLoaded (ctx : Context) (clientEtag : Option StateEtag)
    (apply : Environment → Outcome RevisionLifecycleError RevisionTransition) :
    Handling V (Response V) := do
  let loaded ← loadEnvironment ctx
  match apply loaded.value with
  | (.ok transition, env) =>
    let next ← Program.lift (nextRevision cfg env loaded.revision)
    commitUpdate clientEtag loaded.revision env (prepareMutation cfg ctx
      (.transition ⟨transition.revision, env, transition.startingLifecycle⟩)
      (some loaded.revision.generation) next)
  | (.error (.healthGateFailed revisionId failedChecks message), env) =>
    let next ← Program.lift (nextRevision cfg env loaded.revision)
    commitUpdate clientEtag loaded.revision env (prepareCommittedError cfg ctx revisionId
      failedChecks message (some loaded.revision.generation) next.generation)
  | (.error e, _) => Program.lift (.error (.ofRevision e))

def revisionTransition (envId : Segment EnvId) (verb : String)
    (apply : Environment → Outcome RevisionLifecycleError RevisionTransition) :
    Except RemoteStoreError (Handler V) := do
  let envId ← parseSegment envId
  return {
    envId := envId
    noun := "revisions"
    verb := verb
    enter := fun headers => do
      let clientEtag ← parseIfMatch headers
      return fun ctx => withReplay ctx (transitionLoaded cfg ctx clientEtag apply) }

def warmRevision (envId : Segment EnvId) (revisionId : Segment RevisionId)
    (payload : WarmRevisionPayload) : Except RemoteStoreError (Handler V) := do
  let revisionId ← parseSegment revisionId
  ensure (payload.revisionId = revisionId)
    (.invalidRequest (.text ("body revision_id `" ++ payload.revisionId.toString ++
      "` contradicts URL revision id `" ++ revisionId.toString ++ "`")))
  revisionTransition cfg envId "warm" fun env => Engine.warmRevision env payload head.now

def drainRevision (envId : Segment EnvId) (revisionId : Segment RevisionId) :
    Except RemoteStoreError (Handler V) := do
  let revisionId ← parseSegment revisionId
  revisionTransition cfg envId "drain" fun env => Engine.drainRevision env revisionId

def archiveRevision (envId : Segment EnvId) (revisionId : Segment RevisionId) :
    Except RemoteStoreError (Handler V) := do
  let revisionId ← parseSegment revisionId
  revisionTransition cfg envId "archive" fun env => Engine.archiveRevision env revisionId

def setTrafficSplit (envId : Segment EnvId) (payload : SetTrafficSplitPayload) :
    Except RemoteStoreError (Handler V) := do
  let envId ← parseSegment envId
  return engineMutation cfg envId "traffic" "set" fun key env =>
    writeIfMutated .ofTraffic TrafficSplitTransition.mutated
      (fun transition env => .trafficSet ⟨transition.split, transition.previousGeneration,
        transition.newGeneration, env⟩)
      (Engine.setTrafficSplit cfg.serde env payload key head.now)

def rollbackTrafficSplit (envId : Segment EnvId) (deploymentId : DeploymentId) :
    Except RemoteStoreError (Handler V) := do
  let envId ← parseSegment envId
  return engineMutation cfg envId "traffic" "rollback" fun _ env =>
    writeOk .ofTraffic
      (fun transition env => .trafficRolledBack ⟨transition.restored,
        transition.previousGeneration, transition.newGeneration, env⟩)
      (Engine.rollbackTrafficSplit cfg.serde env deploymentId head.now)

def bindingMutation {τ : Type} (envId : Segment EnvId) (noun verb : String)
    (result : τ → MutationResult) (apply : Environment → Outcome BindingError τ) :
    Except RemoteStoreError (Handler V) := do
  let envId ← parseSegment envId
  return engineMutation cfg envId noun verb fun _ env =>
    writeOk .ofBinding (fun value _ => result value) (apply env)

def packGeneration (outcome : EnvPackBinding × UInt64) : MutationResult :=
  .packBindingGeneration outcome.1 outcome.2

def extensionGeneration (outcome : ExtensionBinding × UInt64) : MutationResult :=
  .extensionBindingGeneration outcome.1 outcome.2

def addPackBinding (envId : Segment EnvId) (binding : EnvPackBinding) :
    Except RemoteStoreError (Handler V) :=
  bindingMutation cfg envId "env-packs" "add" .packBinding fun env =>
    Engine.addPackBinding env binding

def updatePackBinding (envId : Segment EnvId) (slot : String) (binding : EnvPackBinding) :
    Except RemoteStoreError (Handler V) := do
  let slot ← parseCapabilitySlot slot
  bindingMutation cfg envId "env-packs" "update" packGeneration fun env =>
    Engine.updatePackBinding cfg.serde env slot binding

def removePackBinding (envId : Segment EnvId) (slot : String) :
    Except RemoteStoreError (Handler V) := do
  let slot ← parseCapabilitySlot slot
  bindingMutation cfg envId "env-packs" "remove" packGeneration fun env =>
    Engine.removePackBinding env slot

def rollbackPackBinding (envId : Segment EnvId) (slot : String) :
    Except RemoteStoreError (Handler V) := do
  let slot ← parseCapabilitySlot slot
  bindingMutation cfg envId "env-packs" "rollback" packGeneration fun env =>
    Engine.rollbackPackBinding cfg.serde env slot

def addExtensionBinding (envId : Segment EnvId) (binding : ExtensionBinding) :
    Except RemoteStoreError (Handler V) :=
  bindingMutation cfg envId "extensions" "add" .extensionBinding fun env =>
    Engine.addExtensionBinding env binding

def updateExtensionBinding (envId : Segment EnvId) (key : ExtensionKey)
    (binding : Option ExtensionBinding) : Except RemoteStoreError (Handler V) :=
  match binding with
  | none => .error (.invalidRequest "update requires `binding` in the request body")
  | some binding =>
    bindingMutation cfg envId "extensions" "update" extensionGeneration fun env =>
      Engine.updateExtensionBinding cfg.serde env key binding

def removeExtensionBinding (envId : Segment EnvId) (key : ExtensionKey) :
    Except RemoteStoreError (Handler V) :=
  bindingMutation cfg envId "extensions" "remove" extensionGeneration fun env =>
    Engine.removeExtensionBinding env key

def rollbackExtensionBinding (envId : Segment EnvId) (key : ExtensionKey) :
    Except RemoteStoreError (Handler V) :=
  bindingMutation cfg envId "extensions" "rollback" extensionGeneration fun env =>
    Engine.rollbackExtensionBinding cfg.serde env key

def serverWebhookSecretSink : Provision := fun _ => .error (.secretProvision
  ("the operator store server neither mints nor rotates webhook secrets: a telegram-class " ++
    "`add` must carry a caller-supplied `webhook_secret_ref` (the operator provisions the " ++
    "value in its own secrets plane), and `rotate-webhook-secret` requires a new " ++
    "caller-supplied `webhook_secret_ref` on a remote store — re-provision the value " ++
    "operator-side and pass its ref, or use the local store"))

def messagingMutation (envId : Segment EnvId) (verb : String)
    (apply : IdempotencyKey → Environment → Except RemoteStoreError Change) :
    Except RemoteStoreError (Handler V) := do
  let envId ← parseSegment envId
  return engineMutation cfg envId "messaging.endpoint" verb apply

/-- The endpoint a verb reports, read back from the document it left. -/
def endpointResult (applied : MessagingApplied) (env : Environment) : MutationResult :=
  .endpoint env.messagingEndpoints[applied.index]?

def endpointChange : Outcome MessagingError MessagingApplied → Except RemoteStoreError Change :=
  writeIfMutated .ofMessaging MessagingApplied.mutated endpointResult

def addMessagingEndpoint (envId : Segment EnvId) (payload : AddMessagingEndpointPayload) :
    Except RemoteStoreError (Handler V) :=
  messagingMutation cfg envId "add" fun key env =>
    endpointChange (Engine.addMessagingEndpoint cfg.ext env payload head.endpointId key head.now
      serverWebhookSecretSink)

def linkMessagingBundle (envId : Segment EnvId) (endpointId : Segment MessagingEndpointId)
    (bundleId : BundleId) (updatedBy : String) : Except RemoteStoreError (Handler V) := do
  let endpointId ← parseSegment endpointId
  messagingMutation cfg envId "link-bundle" fun key env =>
    endpointChange (Engine.linkMessagingBundle env endpointId bundleId updatedBy key head.now)

def unlinkMessagingBundle (envId : Segment EnvId) (endpointId : Segment MessagingEndpointId)
    (bundleId : BundleId) (updatedBy : String) : Except RemoteStoreError (Handler V) := do
  let endpointId ← parseSegment endpointId
  messagingMutation cfg envId "unlink-bundle" fun key env =>
    endpointChange (Engine.unlinkMessagingBundle env endpointId bundleId updatedBy key head.now)

def setMessagingWelcomeFlow (envId : Segment EnvId) (endpointId : Segment MessagingEndpointId)
    (payload : SetMessagingWelcomeFlowPayload) : Except RemoteStoreError (Handler V) := do
  let endpointId ← parseSegment endpointId
  ensure (payload.endpointId = endpointId)
    (.invalidRequest (.text ("body endpoint_id `" ++ String.ofList payload.endpointId.ulid.toChars ++
      "` does not match URL endpoint_id `" ++ String.ofList endpointId.ulid.toChars ++ "`")))
  messagingMutation cfg envId "set-welcome-flow" fun key env =>
    endpointChange (Engine.setMessagingWelcomeFlow env payload key head.now)

def removeMessagingEndpoint (envId : Segment EnvId) (endpointId : Segment MessagingEndpointId) :
    Except RemoteStoreError (Handler V) := do
  let endpointId ← parseSegment endpointId
  messagingMutation cfg envId "remove" fun _ env =>
    let (mutated, env) := Engine.removeMessagingEndpoint env endpointId
    .ok (if mutated then .write env (.endpointRemoved endpointId)
      else .keep (.endpointRemoved endpointId))

def rotateMessagingWebhookSecret (envId : Segment EnvId)
    (endpointId : Segment MessagingEndpointId) (updatedBy : String)
    (webhookSecretRef : Option String) : Except RemoteStoreError (Handler V) := do
  let endpointId ← parseSegment endpointId
  messagingMutation cfg envId "rotate-webhook-secret" fun key env =>
    endpointChange (Engine.rotateMessagingWebhookSecret cfg.ext env endpointId updatedBy key
      head.now webhookSecretRef serverWebhookSecretSink)

structure PendingRevenuePolicy where
  built : BuiltRevenuePolicyVersion
  artifact : RevenuePolicyArtifact
  trustRootPin : Option EnvRevision

def loadServerOperatorKey (head : Head) : Except RemoteStoreError OperatorKey :=
  match head.operatorKey with
  | some key => .ok key
  | none => .error (.internal "server operator key unavailable")

/-- The trust root a signature is judged by: without a row, the empty one. -/
def trustRootOf (loaded : Option (Loaded TrustRootDocument)) : Except RemoteStoreError TrustRoot :=
  match loaded with
  | some loaded => (intoTrustRoot loaded.value).mapError .ofTrustRoot
  | none => .ok ⟨[]⟩

def policyArtifact (deployment : BundleDeployment) (built : BuiltRevenuePolicyVersion) :
    RevenuePolicyArtifact where
  bundleId := deployment.bundleId
  customerId := deployment.customerId
  version := built.version
  policyRef := built.policyRef
  doc := built.doc
  envelope := built.envelope
  docSha256 := built.docSha256
  keyId := built.keyId

def buildRevenuePolicy (ctx : Context) (deployment : BundleDeployment) :
    Handling V PendingRevenuePolicy := do
  let loadedRoot : Option (Loaded TrustRootDocument) ←
    ask (.loadTrustRoot ctx.envId) loadStorageError
  let trustRoot ← Program.lift (trustRootOf loadedRoot)
  let operatorKey ← Program.lift (loadServerOperatorKey ctx.head)
  let built ← Program.lift ((buildRevenuePolicyVersion cfg.signing deployment
    deployment.revenueShare ctx.head.now operatorKey trustRoot).mapError
      (.ofRevenuePolicy ctx.envId))
  return ⟨built, policyArtifact deployment built, loadedRoot.map (·.revision)⟩

def deploymentAt (env : Environment) (index : Nat) : Except RemoteStoreError BundleDeployment :=
  match env.bundles[index]? with
  | some deployment => .ok deployment
  | none => .error (.internal "index out of bounds")

/-- Pin a signed policy version on its deployment and commit both. -/
def commitPending (ctx : Context) (clientEtag : Option StateEtag) (loaded : EnvRevision)
    (env : Environment) (index : Nat) (deployment : BundleDeployment)
    (pending : PendingRevenuePolicy) : Handling V (Response V) := do
  let env := pinRevenuePolicyRef env index pending.built.policyRef
  let next ← Program.lift (nextRevision cfg env loaded)
  let prepared := prepareMutation cfg ctx
    (.deployment { deployment with revenuePolicyRef := pending.built.policyRef })
    (some loaded.generation) next
  let _ ← ask (.updateEnvWithRevenuePolicy env (resolvePrecondition clientEtag loaded)
    pending.artifact pending.trustRootPin (some prepared.journal)) mapStorageError
  return prepared.intoResponse

def commitPolicy (ctx : Context) (clientEtag : Option StateEtag) (loaded : EnvRevision)
    (env : Environment) (index : Nat) : Handling V (Response V) := do
  let deployment ← Program.lift (deploymentAt env index)
  let pending ← buildRevenuePolicy cfg ctx deployment
  commitPending cfg ctx clientEtag loaded env index deployment pending

def addBundle (envId : Segment EnvId) (payload : AddBundlePayload) :
    Except RemoteStoreError (Handler V) := do
  let envId ← parseSegment envId
  return {
    envId := envId
    noun := "bundles"
    verb := "add"
    enter := fun headers => do
      let clientEtag ← parseIfMatch headers
      return fun ctx => withReplay ctx do
        let loaded ← loadEnvironment ctx
        match Engine.addBundle loaded.value payload head.deploymentId head.now with
        | (.error e, _) => Program.lift (.error (.ofBundle e))
        | (.ok index, env) => commitPolicy cfg ctx clientEtag loaded.revision env index }

/-- An update signs a new policy version only where it names a revenue share. -/
def updateLoadedBundle (ctx : Context) (clientEtag : Option StateEtag)
    (payload : UpdateBundlePayload) : Handling V (Response V) := do
  let loaded ← loadEnvironment ctx
  match Engine.updateBundle loaded.value payload with
  | (.error e, _) => Program.lift (.error (.ofBundle e))
  | (.ok applied, env) =>
    if applied.revenueShareChanged then
      commitPolicy cfg ctx clientEtag loaded.revision env applied.index
    else do
      let deployment ← Program.lift (deploymentAt env applied.index)
      let next ← Program.lift (nextRevision cfg env loaded.revision)
      commitUpdate clientEtag loaded.revision env (prepareMutation cfg ctx
        (.deployment deployment) (some loaded.revision.generation) next)

def updateBundle (envId : Segment EnvId) (deploymentId : Segment DeploymentId)
    (payload : UpdateBundlePayload) : Except RemoteStoreError (Handler V) := do
  let envId ← parseSegment envId
  return {
    envId := envId
    noun := "bundles"
    verb := "update"
    enter := fun headers => do
      let clientEtag ← parseIfMatch headers
      let urlDeploymentId ← parseSegment deploymentId
      ensure (payload.deploymentId = urlDeploymentId)
        (.invalidRequest (.text ("body deployment_id `" ++
          String.ofList payload.deploymentId.ulid.toChars ++ "` does not match URL deployment_id `" ++
          String.ofList urlDeploymentId.ulid.toChars ++ "`")))
      return fun ctx => withReplay ctx (updateLoadedBundle cfg ctx clientEtag payload) }

def removeBundle (envId : Segment EnvId) (deploymentId : Segment DeploymentId) :
    Except RemoteStoreError (Handler V) := do
  let envId ← parseSegment envId
  return {
    envId := envId
    noun := "bundles"
    verb := "remove"
    enter := fun headers => do
      let clientEtag ← parseIfMatch headers
      let deploymentId ← parseSegment deploymentId
      return fun ctx => withReplay ctx (mutateLoaded cfg ctx clientEtag fun env =>
        writeOk .ofBundle (fun removed _ => .bundleRemoved removed)
          (Engine.removeBundle env deploymentId)) }

end GreenticDeployer.Server
