import GreenticDeployer.Server.SidecarHandlers

/-!
# Routes and requests

Every mutating route of the router with its handler, the one read that is
authorized like a mutation, and the server as an interleaved system: any number
of requests in flight, one storage call at a time.
-/

set_option maxHeartbeats 200000

namespace GreenticDeployer.Server

open Spec Engine Store Lib

/-- The mutating routes, each with its path segments and its body. -/
inductive Mutation (V : Type) where
  | createEnvironment (payload : CreateEnvironmentPayload)
  | updateEnvironment (envId : Segment EnvId) (patch : UpdateEnvironmentPayload)
  | reconcileEnvironment (envId : Segment EnvId)
  | completeReconcile (envId : Segment EnvId) (completion : ReconcileCompletion)
  | migrateBindings (envId : Segment EnvId) (payload : MigrateMergePayload)
  | stageRevision (envId : Segment EnvId) (payload : StageRevisionPayload)
  | warmRevision (envId : Segment EnvId) (revisionId : Segment RevisionId)
      (payload : WarmRevisionPayload)
  | drainRevision (envId : Segment EnvId) (revisionId : Segment RevisionId)
  | archiveRevision (envId : Segment EnvId) (revisionId : Segment RevisionId)
  | setTrafficSplit (envId : Segment EnvId) (payload : SetTrafficSplitPayload)
  | rollbackTrafficSplit (envId : Segment EnvId) (deploymentId : DeploymentId)
  | addPackBinding (envId : Segment EnvId) (binding : EnvPackBinding)
  | updatePackBinding (envId : Segment EnvId) (slot : String) (binding : EnvPackBinding)
  | removePackBinding (envId : Segment EnvId) (slot : String)
  | rollbackPackBinding (envId : Segment EnvId) (slot : String)
  | addExtensionBinding (envId : Segment EnvId) (binding : ExtensionBinding)
  | updateExtensionBinding (envId : Segment EnvId) (key : ExtensionKey)
      (binding : Option ExtensionBinding)
  | removeExtensionBinding (envId : Segment EnvId) (key : ExtensionKey)
  | rollbackExtensionBinding (envId : Segment EnvId) (key : ExtensionKey)
  | addMessagingEndpoint (envId : Segment EnvId) (payload : AddMessagingEndpointPayload)
  | linkMessagingBundle (envId : Segment EnvId) (endpointId : Segment MessagingEndpointId)
      (bundleId : BundleId) (updatedBy : String)
  | unlinkMessagingBundle (envId : Segment EnvId) (endpointId : Segment MessagingEndpointId)
      (bundleId : BundleId) (updatedBy : String)
  | setMessagingWelcomeFlow (envId : Segment EnvId) (endpointId : Segment MessagingEndpointId)
      (payload : SetMessagingWelcomeFlowPayload)
  | removeMessagingEndpoint (envId : Segment EnvId) (endpointId : Segment MessagingEndpointId)
  | rotateMessagingWebhookSecret (envId : Segment EnvId)
      (endpointId : Segment MessagingEndpointId) (updatedBy : String)
      (webhookSecretRef : Option String)
  | addBundle (envId : Segment EnvId) (payload : AddBundlePayload)
  | updateBundle (envId : Segment EnvId) (deploymentId : Segment DeploymentId)
      (payload : UpdateBundlePayload)
  | removeBundle (envId : Segment EnvId) (deploymentId : Segment DeploymentId)
  | bootstrapTrustRoot (envId : Segment EnvId)
  | seedTrustRoot (envId : Segment EnvId)
  | addTrustedKey (envId : Segment EnvId) (key : TrustedKey)
  | removeTrustedKey (envId : Segment EnvId) (keyId : String)
  | createBackup (envId : Segment EnvId)
  | deleteBackup (envId : Segment EnvId) (backupId : String)
  | importEnvironment (envId : Segment EnvId) (artifact : BackupArtifact V)
  | restoreEnvironment (envId : Segment EnvId) (backupId : String) (precondition : Precondition)

variable {V : Type} (cfg : Config V)

def Mutation.handler (head : Head) : Mutation V → Except RemoteStoreError (Handler V)
  | .createEnvironment payload => .ok (Server.createEnvironment cfg payload)
  | .updateEnvironment envId patch => Server.updateEnvironment cfg envId patch
  | .reconcileEnvironment envId => Server.reconcileEnvironment cfg envId
  | .completeReconcile envId completion => Server.completeReconcile cfg envId completion
  | .migrateBindings envId payload => Server.migrateBindings cfg envId payload
  | .stageRevision envId payload => Server.stageRevision cfg head envId payload
  | .warmRevision envId revisionId payload =>
    Server.warmRevision cfg head envId revisionId payload
  | .drainRevision envId revisionId => Server.drainRevision cfg envId revisionId
  | .archiveRevision envId revisionId => Server.archiveRevision cfg envId revisionId
  | .setTrafficSplit envId payload => Server.setTrafficSplit cfg head envId payload
  | .rollbackTrafficSplit envId id => Server.rollbackTrafficSplit cfg head envId id
  | .addPackBinding envId binding => Server.addPackBinding cfg envId binding
  | .updatePackBinding envId slot binding => Server.updatePackBinding cfg envId slot binding
  | .removePackBinding envId slot => Server.removePackBinding cfg envId slot
  | .rollbackPackBinding envId slot => Server.rollbackPackBinding cfg envId slot
  | .addExtensionBinding envId binding => Server.addExtensionBinding cfg envId binding
  | .updateExtensionBinding envId key binding =>
    Server.updateExtensionBinding cfg envId key binding
  | .removeExtensionBinding envId key => Server.removeExtensionBinding cfg envId key
  | .rollbackExtensionBinding envId key => Server.rollbackExtensionBinding cfg envId key
  | .addMessagingEndpoint envId payload => Server.addMessagingEndpoint cfg head envId payload
  | .linkMessagingBundle envId id bundleId updatedBy =>
    Server.linkMessagingBundle cfg head envId id bundleId updatedBy
  | .unlinkMessagingBundle envId id bundleId updatedBy =>
    Server.unlinkMessagingBundle cfg head envId id bundleId updatedBy
  | .setMessagingWelcomeFlow envId id payload =>
    Server.setMessagingWelcomeFlow cfg head envId id payload
  | .removeMessagingEndpoint envId id => Server.removeMessagingEndpoint cfg envId id
  | .rotateMessagingWebhookSecret envId id updatedBy newRef =>
    Server.rotateMessagingWebhookSecret cfg head envId id updatedBy newRef
  | .addBundle envId payload => Server.addBundle cfg head envId payload
  | .updateBundle envId id payload => Server.updateBundle cfg envId id payload
  | .removeBundle envId id => Server.removeBundle cfg envId id
  | .bootstrapTrustRoot envId => Server.bootstrapTrustRoot cfg envId
  | .seedTrustRoot envId => Server.seedTrustRoot cfg envId
  | .addTrustedKey envId key => Server.addTrustedKey cfg envId key
  | .removeTrustedKey envId keyId => Server.removeTrustedKey cfg envId keyId
  | .createBackup envId => Server.createBackup cfg head envId
  | .deleteBackup envId backupId => Server.deleteBackup cfg envId backupId
  | .importEnvironment envId artifact => Server.importEnvironment cfg envId artifact
  | .restoreEnvironment envId backupId precondition =>
    Server.restoreEnvironment cfg envId backupId precondition

/-- The engine verb a mutation applies to the document it loads. The reference
of a policy it signs is known only then. -/
def Mutation.engineVerb (head : Head) (key : IdempotencyKey) (policyRef : PathBuf) :
    Mutation V → Option Verb
  | .updateEnvironment _ patch => some (.updateEnvironment patch)
  | .migrateBindings _ payload => some (.mergeBindings payload.packs payload.extensions)
  | .stageRevision _ payload => some (.stageRevision payload head.now)
  | .warmRevision _ _ payload => some (.warmRevision payload head.now)
  | .drainRevision _ revisionId => revisionId.toOption.map .drainRevision
  | .archiveRevision _ revisionId => revisionId.toOption.map .archiveRevision
  | .setTrafficSplit _ payload => some (.setTrafficSplit payload key head.now)
  | .rollbackTrafficSplit _ id => some (.rollbackTrafficSplit id head.now)
  | .addPackBinding _ binding => some (.addPackBinding binding)
  | .updatePackBinding _ slot binding =>
    (parseCapabilitySlot slot).toOption.map fun slot => .updatePackBinding slot binding
  | .removePackBinding _ slot => (parseCapabilitySlot slot).toOption.map .removePackBinding
  | .rollbackPackBinding _ slot => (parseCapabilitySlot slot).toOption.map .rollbackPackBinding
  | .addExtensionBinding _ binding => some (.addExtensionBinding binding)
  | .updateExtensionBinding _ extension binding =>
    binding.map (.updateExtensionBinding extension)
  | .removeExtensionBinding _ extension => some (.removeExtensionBinding extension)
  | .rollbackExtensionBinding _ extension => some (.rollbackExtensionBinding extension)
  | .addMessagingEndpoint _ payload =>
    some (.addMessagingEndpoint payload head.endpointId key head.now serverWebhookSecretSink)
  | .linkMessagingBundle _ id bundleId updatedBy =>
    id.toOption.map fun id => .linkMessagingBundle id bundleId updatedBy key head.now
  | .unlinkMessagingBundle _ id bundleId updatedBy =>
    id.toOption.map fun id => .unlinkMessagingBundle id bundleId updatedBy key head.now
  | .setMessagingWelcomeFlow _ _ payload => some (.setMessagingWelcomeFlow payload key head.now)
  | .removeMessagingEndpoint _ id => id.toOption.map .removeMessagingEndpoint
  | .rotateMessagingWebhookSecret _ id updatedBy newRef =>
    id.toOption.map fun id => .rotateMessagingWebhookSecret id updatedBy key head.now newRef
      serverWebhookSecretSink
  | .addBundle _ payload => some (.addBundle payload head.deploymentId head.now policyRef)
  | .updateBundle _ _ payload => some (.updateBundle payload policyRef)
  | .removeBundle _ id => id.toOption.map .removeBundle
  | _ => none

def Mutation.Founds (env : Environment) : Mutation V → Prop
  | .createEnvironment payload => env = createdEnvironment payload
  | .migrateBindings envId payload => ∃ id report, envId = .ok id ∧
      seededEnvironment id payload = .ok (report, env)
  | _ => False

inductive Route (V : Type) where
  | mutate (mutation : Mutation V)
  | exportBackup (envId : Segment EnvId) (backupId : String)

structure Request (V : Type) where
  head : Head
  route : Route V

def serve (request : Request V) :
    Program (Call V) StorageCall.Reply (Except RemoteStoreError (Response V)) :=
  match request.route with
  | .mutate mutation =>
    match mutation.handler cfg request.head with
    | .error e => .done (.error e)
    | .ok handler => (handler.run cfg request.head).run
  | .exportBackup envId backupId => (exportBackup cfg request.head envId backupId).run

/-- What a handler's header checks make of a request: the context its body runs
in, and the body. -/
def Handler.clears (head : Head) (handler : Handler V) :
    Option (Context × (Context → Handling V (Response V))) :=
  match cfg.rbac.authorizeMutation (bearerToken head.headers) handler.envId handler.noun
      handler.verb, requireIdempotencyKey head.headers, handler.enter head.headers with
  | .ok auth, .ok idemKey, .ok body =>
    some (⟨head, handler.envId, handler.noun, handler.verb, auth, idemKey⟩, body)
  | _, _, _ => none

/-- The context of a request that passes every check in front of the replay
gate. -/
def Request.admission (request : Request V) : Option Context :=
  match request.route with
  | .mutate mutation =>
    match mutation.handler cfg request.head with
    | .error _ => none
    | .ok handler => (handler.clears cfg request.head).map Prod.fst
  | .exportBackup .. => none

theorem Handler.run_admitted {head : Head} {handler : Handler V} {ctx : Context}
    {body : Context → Handling V (Response V)}
    (admitted : handler.clears cfg head = some (ctx, body)) :
    ctx.envId = handler.envId ∧ ctx.head = head ∧ handler.enter head.headers = .ok body ∧
      (handler.run cfg head).run =
        .call (.lookupIdempotency ctx.envId ctx.idemKey.asStr) fun reply =>
          match reply with
          | .error e => .done (.error (loadStorageError e))
          | .ok none => (body ctx).run
          | .ok (some record) =>
            if record.requestFingerprint ≠ head.fingerprint then
              .done (.error (reusedKey ctx.envId ctx.idemKey.asStr record))
            else .done (.ok (replay record)) := by
  unfold Handler.clears at admitted
  split at admitted
  · rename_i auth idemKey entered authorized keyed bodied
    cases admitted
    refine ⟨rfl, rfl, bodied, ?_⟩
    simp only [Handler.run, authorizeMutation, authorized, keyed, bodied]
    refine congrArg (Program.call _) (funext fun reply => ?_)
    cases reply with
    | error e => rfl
    | ok found =>
        cases found with
        | none => rfl
        | some record =>
            by_cases differs : record.requestFingerprint ≠ head.fingerprint
            · simp only [if_pos differs]
              rfl
            · simp only [if_neg differs]
              rfl
  · cases admitted

theorem authorizeMutation_cases (head : Head) (envId : EnvId) (noun verb : String) :
    (∃ auth, cfg.rbac.authorizeMutation (bearerToken head.headers) envId noun verb = .ok auth ∧
      authorizeMutation cfg head envId noun verb = Program.lift (.ok auth)) ∨
    (∃ denial e, cfg.rbac.authorizeMutation (bearerToken head.headers) envId noun verb =
        .error denial ∧
      (authorizeMutation cfg head envId noun verb = Program.lift (.error e) ∨
        ∃ eventId event, authorizeMutation cfg head envId noun verb =
          Program.ask (.recordAudit envId eventId event) fun _ => .error e)) := by
  cases decided : cfg.rbac.authorizeMutation (bearerToken head.headers) envId noun verb with
  | ok auth => exact .inl ⟨auth, rfl, by simp only [authorizeMutation, decided]⟩
  | error denial =>
      refine .inr ⟨denial, .unauthorized denial.policy denial.reason, rfl, ?_⟩
      cases known : denial.authenticated with
      | false =>
          refine .inl ?_
          simp only [authorizeMutation, decided, known]
          rfl
      | true =>
          refine .inr ⟨head.eventId 0,
            cfg.json.auditEvent (denialEvent head envId noun verb denial), ?_⟩
          simp only [authorizeMutation, decided, known, if_true]

/-- A request refused in front of the gate makes no call, or the one that audits
its denial. -/
theorem Handler.run_refused {head : Head} {handler : Handler V}
    (refused : handler.clears cfg head = none) :
    ∃ e, (handler.run cfg head).run = .done (.error e) ∨
      ∃ envId eventId event, (handler.run cfg head).run =
        .call (.recordAudit envId eventId event) fun _ => .done (.error e) := by
  rcases authorizeMutation_cases cfg head handler.envId handler.noun handler.verb with
    ⟨auth, authorized, passes⟩ | ⟨denial, e, denied, quiet | ⟨eventId, event, audited⟩⟩
  · simp only [Handler.run, passes]
    cases keyed : requireIdempotencyKey head.headers with
    | error e => exact ⟨e, .inl rfl⟩
    | ok idemKey =>
        cases entered : handler.enter head.headers with
        | error e => exact ⟨e, .inl rfl⟩
        | ok body => simp [Handler.clears, authorized, keyed, entered] at refused
  · exact ⟨e, .inl (by simp only [Handler.run, quiet]; rfl)⟩
  · exact ⟨e, .inr ⟨handler.envId, eventId, event, by simp only [Handler.run, audited]; rfl⟩⟩

end GreenticDeployer.Server
