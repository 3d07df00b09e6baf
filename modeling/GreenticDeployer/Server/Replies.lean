import GreenticDeployer.Server.IfMatch

/-!
# The revision a success reports

A handler that writes the document reports the etag of what it writes. One that
only journals reports the etag of the copy it loaded, whatever the document is by
then.
-/

set_option maxHeartbeats 200000

namespace GreenticDeployer.Server

open Spec Engine Store Trust Lib

variable {V : Type} {cfg : Config V} {k : Known V} {head : Head} {ctx : Context}

def Reports : ResponseBody V → StateEtag → Prop
  | .envelope success, etag => success.etag = etag
  | _, _ => True

/-- The revision a request goes by where it has written nothing: of the copy it loaded,
or of the snapshot it captured. -/
def Known.revision (k : Known V) : Option EnvRevision :=
  match k.loaded with
  | some loaded => some loaded.revision
  | none => k.captured.map (·.2)

/-- What the response of a call that journals reports. -/
inductive Speaks (cfg : Config V) (k : Known V) : Call V → Prop
  | lookup (envId key) : Speaks cfg k (.lookupIdempotency envId key)
  | loadEnv (envId) : Speaks cfg k (.loadEnv envId)
  | loadRoot (envId) : Speaks cfg k (.loadTrustRoot envId)
  | loadBackup (envId id) : Speaks cfg k (.loadBackup envId id)
  | capture (envId) : Speaks cfg k (.loadEnvSnapshot envId)
  | audit (envId eventId event) : Speaks cfg k (.recordAudit envId eventId event)
  | record {journal revision} (known : k.revision = some revision)
      (echo : Reports journal.responseBody revision.etag) : Speaks cfg k (.recordJournal journal)
  | trustRoot {envId doc precondition journal revision} (known : k.revision = some revision)
      (echo : Reports journal.responseBody revision.etag) :
      Speaks cfg k (.upsertTrustRoot envId doc precondition (some journal))
  | backup {backup journal revision} (known : k.revision = some revision)
      (echo : Reports journal.responseBody revision.etag) :
      Speaks cfg k (.createBackup backup (some journal))
  | dropBackup {envId id journal revision} (known : k.revision = some revision)
      (echo : Reports journal.responseBody revision.etag) :
      Speaks cfg k (.deleteBackup envId id (some journal))
  | create {env journal etag} (content : contentEtag cfg env = .ok etag)
      (told : Reports journal.responseBody etag) : Speaks cfg k (.createEnv env (some journal))
  | update {env precondition journal etag} (content : contentEtag cfg env = .ok etag)
      (told : Reports journal.responseBody etag) :
      Speaks cfg k (.updateEnv env precondition (some journal))
  | policy {env precondition artifact pin journal etag} (content : contentEtag cfg env = .ok etag)
      (told : Reports journal.responseBody etag) :
      Speaks cfg k (.updateEnvWithRevenuePolicy env precondition artifact pin (some journal))
  | restore (envId snapshot precondition journal) :
      Speaks cfg k (.restoreEnv envId snapshot precondition journal)
  | importEnv (envId snapshot journal) : Speaks cfg k (.importEnv envId snapshot journal)

abbrev Handles {α : Type} (allowed : Known V → Call V → Prop) (k : Known V)
    (program : Handling V α) : Prop :=
  program.run.Obeys allowed learn (fun _ _ => True) k

abbrev Spoken {α : Type} (cfg : Config V) (k : Known V) (program : Handling V α) : Prop :=
  program.run.Obeys (Speaks cfg) learn (fun _ _ => True) k

section Statements

variable {α β : Type} {allowed : Known V → Call V → Prop}

theorem handles_lift {outcome : Except RemoteStoreError α} {f : α → Handling V β}
    (rest : ∀ a, outcome = .ok a → Handles allowed k (f a)) :
    Handles allowed k (Program.lift outcome >>= f) :=
  Program.Obeys.liftThen (fun _ _ => trivial) rest

theorem handles_ask {call : Call V} {sort : call.Reply → Except RemoteStoreError α}
    {f : α → Handling V β} (may : allowed k call)
    (rest : ∀ reply a, sort reply = .ok a → Handles allowed (learn k call reply) (f a)) :
    Handles allowed k (Program.ask call sort >>= f) := by
  have asked : (Program.ask call sort : Handling V α).run.Obeys allowed learn
      (fun later outcome => ∃ reply, later = learn k call reply ∧ sort reply = outcome) k :=
    ⟨may, fun reply => ⟨reply, rfl, rfl⟩⟩
  refine Program.Obeys.andThen asked (fun _ _ _ => trivial) ?_
  rintro later a ⟨reply, rfl, returned⟩
  exact rest reply a returned

theorem handles_loadEnvironment {f : Loaded Environment → Handling V β}
    (may : allowed k (.loadEnv ctx.envId))
    (rest : ∀ loaded, Handles allowed { k with loaded := some loaded } (f loaded)) :
    Handles allowed k (loadEnvironment ctx >>= f) := by
  refine handles_ask may fun reply loaded returned => ?_
  rw [mapError_ok returned]
  exact rest loaded

theorem handles_last {call : Call V} {prepared : PreparedMutation V} (may : allowed k call) :
    Handles allowed k (do
      let _ ← ask call mapStorageError
      return prepared.intoResponse) :=
  handles_ask may fun _ _ _ => trivial

theorem handles_withReplay {body : Handling V (Response V)}
    (looks : ∀ k envId key, allowed k (.lookupIdempotency envId key))
    (handles : Handles allowed k body) : Handles allowed k (withReplay ctx body) := by
  refine Program.Obeys.rescue handles (fun _ _ _ => trivial) fun k e _ =>
    ⟨looks _ _ _, fun reply => ?_⟩
  dsimp only [Program.bind]
  repeat' split
  all_goals trivial

theorem spoken_loadEnvironment {f : Loaded Environment → Handling V β}
    (rest : ∀ loaded, Spoken cfg { k with loaded := some loaded } (f loaded)) :
    Spoken cfg k (loadEnvironment ctx >>= f) := handles_loadEnvironment (.loadEnv _) rest

theorem spoken_withReplay {body : Handling V (Response V)} (spoken : Spoken cfg k body) :
    Spoken cfg k (withReplay ctx body) := handles_withReplay (fun _ _ _ => .lookup _ _) spoken

theorem spoken_loadTrustRoot {f : Option (Loaded TrustRootDocument) → Handling V β}
    (rest : ∀ loaded, Spoken cfg k (f loaded)) : Spoken cfg k (loadTrustRootRow ctx >>= f) := by
  refine handles_ask (.loadRoot _) fun reply loaded returned => ?_
  rw [mapError_ok returned]
  exact rest loaded

theorem nextRevision_content {env : Environment} {loaded next : EnvRevision}
    (computed : nextRevision cfg env loaded = .ok next) :
    contentEtag cfg env = .ok next.etag := by
  obtain ⟨etag, content, rfl⟩ := map_ok computed
  exact content

theorem createdRevision_content {env : Environment} {created : EnvRevision}
    (computed : createdRevision cfg env = .ok created) :
    contentEtag cfg env = .ok created.etag := by
  obtain ⟨etag, content, rfl⟩ := map_ok computed
  exact content

end Statements

/-- Whatever a handler does once admitted speaks of what it writes, or of what it loaded. -/
def Handler.Speaks (cfg : Config V) (handler : Handler V) : Prop :=
  ∀ headers body, handler.enter headers = .ok body →
    ∀ ctx (k : Known V), k.loaded = none → Spoken cfg k (body ctx)

section Handlers

variable {handler : Handler V}

theorem spoken_mutateLoaded {clientEtag : Option StateEtag}
    {apply : Environment → Except RemoteStoreError Change} :
    Spoken cfg k (mutateLoaded cfg ctx clientEtag apply) := by
  refine spoken_loadEnvironment fun loaded => handles_lift fun change _ => ?_
  cases change with
  | write env result =>
      refine handles_lift fun next computed => ?_
      exact handles_last (.update (nextRevision_content computed) rfl)
  | keep result => exact handles_last (.record rfl rfl)

theorem spoken_transitionLoaded {clientEtag : Option StateEtag}
    {apply : Environment → Outcome RevisionLifecycleError RevisionTransition} :
    Spoken cfg k (transitionLoaded cfg ctx clientEtag apply) := by
  refine spoken_loadEnvironment fun loaded => ?_
  split
  · exact handles_lift fun next computed =>
      handles_last (.update (nextRevision_content computed) rfl)
  · exact handles_lift fun next computed =>
      handles_last (.update (nextRevision_content computed) trivial)
  · trivial

/-- A policy is built from the trust root alone. -/
theorem spoken_buildRevenuePolicy {deployment : BundleDeployment}
    {f : PendingRevenuePolicy → Handling V (Response V)}
    (rest : ∀ pending, Spoken cfg k (f pending)) :
    Spoken cfg k (buildRevenuePolicy cfg ctx deployment >>= f) := by
  have reads : (buildRevenuePolicy cfg ctx deployment).run.Obeys (Speaks cfg) learn
      (fun later _ => later = k) k := by
    refine ⟨.loadRoot _, fun reply => ?_⟩
    cases reply with
    | error e => rfl
    | ok root =>
        refine Program.Obeys.liftThen (fun _ _ => rfl) fun trustRoot _ => ?_
        refine Program.Obeys.liftThen (fun _ _ => rfl) fun operatorKey _ => ?_
        exact Program.Obeys.liftThen (fun _ _ => rfl) fun built _ => rfl
  refine Program.Obeys.andThen reads (fun _ _ _ => trivial) fun later pending same => ?_
  rw [same]
  exact rest pending

theorem spoken_commitPolicy {clientEtag : Option StateEtag} {loaded : EnvRevision}
    {env : Environment} {index : Nat} :
    Spoken cfg k (commitPolicy cfg ctx clientEtag loaded env index) := by
  refine handles_lift fun deployment _ => spoken_buildRevenuePolicy fun pending => ?_
  refine handles_lift fun next computed => ?_
  exact handles_last (.policy (nextRevision_content computed) rfl)

theorem spoken_updateLoadedBundle {clientEtag : Option StateEtag} {payload : UpdateBundlePayload} :
    Spoken cfg k (updateLoadedBundle cfg ctx clientEtag payload) := by
  refine spoken_loadEnvironment fun loaded => ?_
  split
  · trivial
  · split
    · exact spoken_commitPolicy
    · exact handles_lift fun deployment _ => handles_lift fun next computed =>
        handles_last (.update (nextRevision_content computed) rfl)

theorem spoken_persistTrustRootMutation {onRace : FirstWriteRace}
    {mutate : TrustRootDocument → TrustRootDocument}
    {prepare : Nat → TrustRootDocument → PreparedMutation V} {revision : EnvRevision}
    (known : k.revision = some revision)
    (echoes : ∀ attempt doc, Reports (prepare attempt doc).journal.responseBody revision.etag)
    (attempts : Nat) (current : Option (Loaded TrustRootDocument)) :
    (persistTrustRootMutation ctx onRace mutate prepare attempts current).run.Obeys (Speaks cfg)
      learn (fun later _ => later.revision = some revision) k := by
  induction attempts generalizing current with
  | zero => exact known
  | succ attempts ih =>
      refine ⟨.trustRoot known (echoes _ _), fun reply => ?_⟩
      cases reply with
      | ok written => exact known
      | error e =>
          rw [learn_error]
          have reload : (loadTrustRootRow ctx : Handling V _).run.Obeys (Speaks cfg) learn
              (fun later _ => later = k) k := by
            refine ⟨.loadRoot _, fun reply => ?_⟩
            cases reply <;> rfl
          have again : (loadTrustRootRow ctx >>=
              persistTrustRootMutation ctx onRace mutate prepare attempts).run.Obeys (Speaks cfg)
                learn (fun later _ => later.revision = some revision) k := by
            refine Program.Obeys.andThen reload ?_ ?_
            · intro later e same
              rw [same]
              exact known
            · intro later reloaded same
              rw [same]
              exact ih reloaded
          cases e with
          | preconditionRequired =>
              cases current with
              | some loaded => exact known
              | none =>
                  cases onRace with
                  | noOp => exact known
                  | retry => exact again
          | _ => exact known

/-- What a handler makes of the outcome of a trust-root write. -/
theorem spoken_persisted {granting : Handling V (Option (PreparedMutation V))}
    {revision : EnvRevision} {f : Option (PreparedMutation V) → Handling V (Response V)}
    (grants : granting.run.Obeys (Speaks cfg) learn
      (fun later _ => later.revision = some revision) k)
    (rest : ∀ later granted, later.revision = some revision → Spoken cfg later (f granted)) :
    Spoken cfg k (granting >>= f) :=
  Program.Obeys.andThen grants (fun _ _ _ => trivial) rest

theorem spoken_grantOperatorKey {current : Option (Loaded TrustRootDocument)}
    {onRace : FirstWriteRace} {prepare : Nat → TrustRootSeed → PreparedMutation V}
    {revision : EnvRevision} (known : k.revision = some revision)
    (echoes : ∀ attempt seed, Reports (prepare attempt seed).journal.responseBody revision.etag) :
    (grantOperatorKey cfg ctx current onRace prepare).run.Obeys (Speaks cfg) learn
      (fun later _ => later.revision = some revision) k := by
  refine Program.Obeys.liftThen (fun _ _ => known) fun opKey _ => ?_
  refine Program.Obeys.liftThen (fun _ _ => known) fun entry _ => ?_
  exact spoken_persistTrustRootMutation known (fun _ _ => echoes _ _) 2 current

theorem spoken_expectPersisted (granted : Option (PreparedMutation V)) :
    Spoken cfg k (expectPersisted granted) := by
  cases granted <;> trivial

theorem trustRootMutation_speaks {segment : Segment EnvId} {verb : String}
    {inner : Context → EnvRevision → Option (Loaded TrustRootDocument) → Handling V (Response V)}
    (speaks : ∀ ctx (k : Known V) revision current, k.revision = some revision →
      Spoken cfg k (inner ctx revision current))
    (built : trustRootMutation segment verb inner = .ok handler) : handler.Speaks cfg := by
  obtain ⟨id, _, built⟩ := bind_ok built
  cases built
  rintro headers body ⟨⟩ ctx k _
  refine spoken_loadEnvironment fun loaded => spoken_loadTrustRoot fun current => ?_
  exact spoken_withReplay (speaks ctx _ loaded.revision current rfl)

theorem bootstrapTrustRoot_speaks {segment : Segment EnvId}
    (built : bootstrapTrustRoot cfg segment = .ok handler) : handler.Speaks cfg := by
  refine trustRootMutation_speaks (fun ctx k revision current known => ?_) built
  refine spoken_persisted (spoken_grantOperatorKey known ?_) fun _ granted _ =>
    spoken_expectPersisted granted
  exact fun _ _ => rfl

theorem seedTrustRoot_speaks {segment : Segment EnvId}
    (built : seedTrustRoot cfg segment = .ok handler) : handler.Speaks cfg := by
  refine trustRootMutation_speaks (fun ctx k revision current known => ?_) built
  have seeded : (seedOperatorKey cfg ctx revision current).run.Obeys (Speaks cfg) learn
      (fun later _ => later.revision = some revision) k := by
    unfold seedOperatorKey
    cases current with
    | some loaded => exact known
    | none => exact spoken_grantOperatorKey known fun _ _ => rfl
  refine spoken_persisted seeded fun later granted known => ?_
  cases granted with
  | some prepared => trivial
  | none => exact handles_last (.record known rfl)

theorem addTrustedKey_speaks {segment : Segment EnvId} {key : TrustedKey}
    (built : addTrustedKey cfg segment key = .ok handler) : handler.Speaks cfg := by
  refine trustRootMutation_speaks (fun ctx k revision current known => ?_) built
  refine handles_lift fun entry _ => spoken_persisted
    (spoken_persistTrustRootMutation known ?_ 2 current) fun _ granted _ =>
      spoken_expectPersisted granted
  exact fun _ _ => rfl

theorem removeTrustedKey_speaks {segment : Segment EnvId} {keyId : String}
    (built : removeTrustedKey cfg segment keyId = .ok handler) : handler.Speaks cfg := by
  refine trustRootMutation_speaks (fun ctx k revision current known => ?_) built
  dsimp only
  split
  · exact handles_last (.trustRoot known rfl)
  · exact handles_last (.record known rfl)

/-- The revision captured with the snapshot is the one reported. -/
theorem createBackup_speaks {head : Head} {segment : Segment EnvId}
    (built : createBackup cfg head segment = .ok handler) : handler.Speaks cfg := by
  obtain ⟨id, _, built⟩ := bind_ok built
  cases built
  rintro headers body ⟨⟩ ctx k fresh
  refine spoken_withReplay (handles_ask (.capture _) fun reply captured returned => ?_)
  rw [mapError_ok returned]
  refine handles_lift fun state _ => handles_last ?_
  have known : (learn k (.loadEnvSnapshot ctx.envId) (.ok captured)).revision = some captured.2 := by
    simp only [Known.revision, learn, fresh, Option.map_some]
  exact .backup known rfl

theorem deleteBackup_speaks {segment : Segment EnvId} {backupId : String}
    (built : deleteBackup cfg segment backupId = .ok handler) : handler.Speaks cfg := by
  obtain ⟨id, _, built⟩ := bind_ok built
  cases built
  rintro headers body ⟨⟩ ctx k _
  refine spoken_withReplay (spoken_loadEnvironment fun loaded => ?_)
  refine handles_ask (.dropBackup rfl rfl) fun reply deleted _ => ?_
  cases deleted <;> trivial

theorem importEnvironment_speaks {segment : Segment EnvId} {artifact : BackupArtifact V}
    (built : importEnvironment cfg segment artifact = .ok handler) : handler.Speaks cfg := by
  obtain ⟨id, _, built⟩ := bind_ok built
  cases built
  rintro headers body ⟨⟩ ctx k _
  exact spoken_withReplay (handles_lift fun _ _ => handles_lift fun _ _ => handles_lift fun _ _ =>
    handles_last (.importEnv _ _ _))

theorem restoreEnvironment_speaks {segment : Segment EnvId} {backupId : String}
    {precondition : Precondition}
    (built : restoreEnvironment cfg segment backupId precondition = .ok handler) :
    handler.Speaks cfg := by
  obtain ⟨id, _, built⟩ := bind_ok built
  cases built
  rintro headers body ⟨⟩ ctx k _
  exact spoken_withReplay (handles_lift fun _ _ => handles_ask (.loadBackup _ _) fun _ _ _ =>
    handles_lift fun _ _ => spoken_loadEnvironment fun loaded => handles_lift fun _ _ =>
    handles_lift fun _ _ => handles_last (.restore _ _ _ _))

theorem engineMutation_speaks {envId : EnvId} {noun verb : String}
    {apply : IdempotencyKey → Environment → Except RemoteStoreError Change} :
    (engineMutation cfg envId noun verb apply).Speaks cfg := by
  intro headers body entered ctx k _
  obtain ⟨clientEtag, _, entered⟩ := bind_ok entered
  cases entered
  exact spoken_withReplay spoken_mutateLoaded

theorem revisionTransition_speaks {segment : Segment EnvId} {verb : String}
    {apply : Environment → Outcome RevisionLifecycleError RevisionTransition}
    (built : revisionTransition cfg segment verb apply = .ok handler) : handler.Speaks cfg := by
  obtain ⟨id, _, built⟩ := bind_ok built
  cases built
  intro headers body entered ctx k _
  obtain ⟨clientEtag, _, entered⟩ := bind_ok entered
  cases entered
  exact spoken_withReplay spoken_transitionLoaded

theorem bindingMutation_speaks {τ : Type} {segment : Segment EnvId} {noun verb : String}
    {result : τ → MutationResult} {apply : Environment → Outcome BindingError τ}
    (built : bindingMutation cfg segment noun verb result apply = .ok handler) :
    handler.Speaks cfg := by
  obtain ⟨id, _, built⟩ := bind_ok built
  cases built
  exact engineMutation_speaks

theorem messagingMutation_speaks {segment : Segment EnvId} {verb : String}
    {apply : IdempotencyKey → Environment → Except RemoteStoreError Change}
    (built : messagingMutation cfg segment verb apply = .ok handler) : handler.Speaks cfg := by
  obtain ⟨id, _, built⟩ := bind_ok built
  cases built
  exact engineMutation_speaks

theorem createEnvironment_speaks {payload : CreateEnvironmentPayload} :
    (createEnvironment cfg payload).Speaks cfg := by
  rintro headers body ⟨⟩ ctx k _
  exact spoken_withReplay (handles_lift fun created computed =>
    handles_last (.create (createdRevision_content computed) rfl))

theorem reconcileEnvironment_speaks {segment : Segment EnvId}
    (built : reconcileEnvironment cfg segment = .ok handler) : handler.Speaks cfg := by
  obtain ⟨id, _, built⟩ := bind_ok built
  cases built
  intro headers body entered ctx k _
  obtain ⟨pin, _, entered⟩ := bind_ok entered
  cases pin with
  | none => cases entered
  | some clientEtag =>
      cases entered
      exact spoken_withReplay (spoken_loadEnvironment fun loaded =>
        handles_lift fun _ _ => handles_last (.record rfl rfl))

theorem completeReconcile_speaks {segment : Segment EnvId} {completion : ReconcileCompletion}
    (built : completeReconcile cfg segment completion = .ok handler) : handler.Speaks cfg := by
  obtain ⟨id, _, built⟩ := bind_ok built
  cases built
  rintro headers body ⟨⟩ ctx k _
  exact spoken_withReplay (spoken_loadEnvironment fun loaded => handles_last (.record rfl rfl))

theorem migrateBindings_speaks {segment : Segment EnvId} {payload : MigrateMergePayload}
    (built : migrateBindings cfg segment payload = .ok handler) : handler.Speaks cfg := by
  obtain ⟨id, _, built⟩ := bind_ok built
  cases built
  intro headers body entered ctx k _
  obtain ⟨clientEtag, _, entered⟩ := bind_ok entered
  cases entered
  refine spoken_withReplay (handles_ask (.loadEnv _) fun reply outcome returned => ?_)
  split
  · exact handles_lift fun next computed =>
      handles_last (.update (nextRevision_content computed) rfl)
  · exact handles_lift fun seeded _ => handles_lift fun _ _ => handles_lift fun created computed =>
      handles_last (.create (createdRevision_content computed) rfl)
  · trivial

theorem addBundle_speaks {head : Head} {segment : Segment EnvId} {payload : AddBundlePayload}
    (built : addBundle cfg head segment payload = .ok handler) : handler.Speaks cfg := by
  obtain ⟨id, _, built⟩ := bind_ok built
  cases built
  intro headers body entered ctx k _
  obtain ⟨clientEtag, _, entered⟩ := bind_ok entered
  cases entered
  refine spoken_withReplay (spoken_loadEnvironment fun loaded => ?_)
  split
  · trivial
  · exact spoken_commitPolicy

theorem updateBundle_speaks {segment : Segment EnvId} {deploymentId : Segment DeploymentId}
    {payload : UpdateBundlePayload}
    (built : updateBundle cfg segment deploymentId payload = .ok handler) :
    handler.Speaks cfg := by
  obtain ⟨id, _, built⟩ := bind_ok built
  cases built
  intro headers body entered ctx k _
  obtain ⟨clientEtag, _, entered⟩ := bind_ok entered
  obtain ⟨_, _, entered⟩ := bind_ok entered
  obtain ⟨_, _, entered⟩ := bind_ok entered
  cases entered
  exact spoken_withReplay spoken_updateLoadedBundle

theorem removeBundle_speaks {segment : Segment EnvId} {deploymentId : Segment DeploymentId}
    (built : removeBundle cfg segment deploymentId = .ok handler) : handler.Speaks cfg := by
  obtain ⟨id, _, built⟩ := bind_ok built
  cases built
  intro headers body entered ctx k _
  obtain ⟨clientEtag, _, entered⟩ := bind_ok entered
  obtain ⟨deployment, _, entered⟩ := bind_ok entered
  cases entered
  exact spoken_withReplay spoken_mutateLoaded

theorem handler_speaks {head : Head} {mutation : Mutation V}
    (built : mutation.handler cfg head = .ok handler) : handler.Speaks cfg := by
  cases mutation with
  | createEnvironment payload =>
      cases built
      exact createEnvironment_speaks
  | updateEnvironment envId patch =>
      obtain ⟨_, _, built⟩ := bind_ok built
      cases built
      exact engineMutation_speaks
  | reconcileEnvironment envId => exact reconcileEnvironment_speaks built
  | completeReconcile envId completion => exact completeReconcile_speaks built
  | migrateBindings envId payload => exact migrateBindings_speaks built
  | stageRevision envId payload =>
      obtain ⟨_, _, built⟩ := bind_ok built
      cases built
      exact engineMutation_speaks
  | warmRevision envId revisionId payload =>
      obtain ⟨_, _, built⟩ := bind_ok built
      obtain ⟨_, _, built⟩ := bind_ok built
      exact revisionTransition_speaks built
  | drainRevision envId revisionId =>
      obtain ⟨_, _, built⟩ := bind_ok built
      exact revisionTransition_speaks built
  | archiveRevision envId revisionId =>
      obtain ⟨_, _, built⟩ := bind_ok built
      exact revisionTransition_speaks built
  | setTrafficSplit envId payload =>
      obtain ⟨_, _, built⟩ := bind_ok built
      cases built
      exact engineMutation_speaks
  | rollbackTrafficSplit envId deploymentId =>
      obtain ⟨_, _, built⟩ := bind_ok built
      cases built
      exact engineMutation_speaks
  | addPackBinding envId binding => exact bindingMutation_speaks built
  | updatePackBinding envId slot binding =>
      obtain ⟨_, _, built⟩ := bind_ok built
      exact bindingMutation_speaks built
  | removePackBinding envId slot =>
      obtain ⟨_, _, built⟩ := bind_ok built
      exact bindingMutation_speaks built
  | rollbackPackBinding envId slot =>
      obtain ⟨_, _, built⟩ := bind_ok built
      exact bindingMutation_speaks built
  | addExtensionBinding envId binding => exact bindingMutation_speaks built
  | updateExtensionBinding envId key binding =>
      cases binding with
      | none => cases built
      | some binding => exact bindingMutation_speaks built
  | removeExtensionBinding envId key => exact bindingMutation_speaks built
  | rollbackExtensionBinding envId key => exact bindingMutation_speaks built
  | addMessagingEndpoint envId payload => exact messagingMutation_speaks built
  | linkMessagingBundle envId endpointId bundleId updatedBy =>
      obtain ⟨_, _, built⟩ := bind_ok built
      exact messagingMutation_speaks built
  | unlinkMessagingBundle envId endpointId bundleId updatedBy =>
      obtain ⟨_, _, built⟩ := bind_ok built
      exact messagingMutation_speaks built
  | setMessagingWelcomeFlow envId endpointId payload =>
      obtain ⟨_, _, built⟩ := bind_ok built
      obtain ⟨_, _, built⟩ := bind_ok built
      exact messagingMutation_speaks built
  | removeMessagingEndpoint envId endpointId =>
      obtain ⟨_, _, built⟩ := bind_ok built
      exact messagingMutation_speaks built
  | rotateMessagingWebhookSecret envId endpointId updatedBy newRef =>
      obtain ⟨_, _, built⟩ := bind_ok built
      exact messagingMutation_speaks built
  | addBundle envId payload => exact addBundle_speaks built
  | updateBundle envId deploymentId payload => exact updateBundle_speaks built
  | removeBundle envId deploymentId => exact removeBundle_speaks built
  | bootstrapTrustRoot envId => exact bootstrapTrustRoot_speaks built
  | seedTrustRoot envId => exact seedTrustRoot_speaks built
  | addTrustedKey envId key => exact addTrustedKey_speaks built
  | removeTrustedKey envId keyId => exact removeTrustedKey_speaks built
  | createBackup envId => exact createBackup_speaks built
  | deleteBackup envId backupId => exact deleteBackup_speaks built
  | importEnvironment envId artifact => exact importEnvironment_speaks built
  | restoreEnvironment envId backupId precondition => exact restoreEnvironment_speaks built

end Handlers

theorem serve_entered {allowed : Known V → Call V → Prop} {request : Request V}
    (admitted : request.admission cfg = some ctx)
    (looks : ∀ envId key, allowed Known.nothing (.lookupIdempotency envId key))
    (bodies : ∀ mutation handler body, request.route = .mutate mutation →
      mutation.handler cfg request.head = .ok handler →
      handler.enter request.head.headers = .ok body →
      (body ctx).run.Obeys allowed learn (fun _ _ => True) Known.opened) :
    (serve cfg request).Obeys allowed learn (fun _ _ => True) Known.nothing := by
  obtain ⟨mutation, handler, body, routed, built, admits, served⟩ := Request.admission_some admitted
  obtain ⟨-, own, entered, shape⟩ := Handler.run_admitted cfg admits
  rw [served, shape]
  refine ⟨looks _ _, fun reply => ?_⟩
  cases reply with
  | error e => trivial
  | ok found =>
      cases found with
      | none => exact bodies mutation handler body routed built entered
      | some record =>
          by_cases differs : record.requestFingerprint ≠ request.head.fingerprint
          · simp only [if_pos differs]
            trivial
          · simp only [if_neg differs]
            trivial

theorem serve_speaks {request : Request V} (admitted : request.admission cfg = some ctx) :
    (serve cfg request).Obeys (Speaks cfg) learn (fun _ _ => True) Known.nothing := by
  refine serve_entered admitted (fun _ _ => .lookup _ _) fun mutation handler body _ built entered => ?_
  exact handler_speaks built _ body entered ctx Known.opened rfl

/-- A request that is refused in front of the gate ends with an error. -/
abbrev Fails (k : Known V) (program : Serving V) : Prop :=
  program.Obeys (fun _ _ => True) learn (fun _ reply => ∃ e, reply = .error e) k

theorem serve_fails {request : Request V} {mutation : Mutation V} (k : Known V)
    (routed : request.route = .mutate mutation) (refused : request.admission cfg = none) :
    Fails k (serve cfg request) := by
  unfold serve
  unfold Request.admission at refused
  rw [routed] at refused ⊢
  dsimp only at refused ⊢
  cases built : mutation.handler cfg request.head with
  | error e => exact ⟨e, rfl⟩
  | ok handler =>
      rw [built] at refused
      obtain ⟨e, quiet | ⟨envId, eventId, event, audited⟩⟩ :=
        Handler.run_refused cfg (Option.map_eq_none_iff.mp refused)
      · dsimp only
        rw [quiet]
        exact ⟨e, rfl⟩
      · dsimp only
        rw [audited]
        exact ⟨trivial, fun _ => ⟨e, rfl⟩⟩

theorem fails_run (cfg : Config V) (maxRows : Option UInt32) (actions : List (ServerAction V)) :
    ∀ task ∈ ((serverRuns cfg).run (boot maxRows) actions).tasks, ∀ mutation,
      task.tag.route = .mutate mutation → task.tag.admission cfg = none →
      Fails task.known task.program :=
  (server cfg).tasks_run
    (fun request k program => ∀ mutation, request.route = .mutate mutation →
      request.admission cfg = none → Fails k program)
    (fun _ _ routed refused => serve_fails _ routed refused)
    (fun _ _ _ _ reply held mutation routed refused => (held mutation routed refused).2 reply)
    (boot maxRows).shared actions

section Commits

variable {request : Request V} {db mid : Db V (ResponseBody V)} {call : Call V}

/-- Every document is stored under its digest. -/
def Sealed (cfg : Config V) (db : Db V (ResponseBody V)) : Prop :=
  ∀ envId row, db.environments.lookup envId = some row →
    row.etag = ⟨cfg.json.sha256Of row.data⟩

theorem drafts_sealed (held : Sealed cfg db) (drafts : Drafts cfg request ctx k db call mid) :
    Sealed cfg mid := by
  cases drafts with
  | create named founds encoded absent valid => exact Table.forall_insert held rfl
  | update known transforms encoded current fresh valid => exact Table.forall_insert held rfl
  | policy known transforms priced encoded current fresh valid =>
      exact Table.forall_insert held rfl
  | restore asked known backup unpacked decoded encoded current fresh valid =>
      exact Table.forall_insert held rfl
  | importEnv asked decoded named encoded absent history valid =>
      exact Table.forall_insert held rfl
  | _ => exact held

theorem Effect.sealed {now : Timestamp} {state : ServerState V} {reply : call.Reply}
    {after : Db V (ResponseBody V)} (effect : Effect cfg request k now state call reply after)
    (held : Sealed cfg state.db) : Sealed cfg after := by
  cases effect with
  | quiet same kept =>
      rw [same]
      exact held
  | denial refused appended same kept =>
      rw [same]
      exact held
  | commit admitted drafts journaled wrote learned =>
      unfold Sealed
      rw [(journalInTx_sameTables wrote).environments]
      exact drafts_sealed held drafts

theorem sealed_run (cfg : Config V) (maxRows : Option UInt32) (actions : List (ServerAction V)) :
    Sealed cfg ((serverRuns cfg).run (boot maxRows) actions).shared.db := by
  refine (server cfg).shared_run (updates_rules cfg) (fun state => Sealed cfg state.db) ?_ ?_
    _ actions ((serverRuns cfg).admits_of_allowed (fun _ _ => trivial) _ _) .empty ?_
  · intro pool event _ held
    have tables := reconcileAuditRetention_sameTables pool.shared.db (auditCapOf event.1) event.2
    show Sealed cfg (reconcileAuditRetention pool.shared.db (auditCapOf event.1) event.2)
    unfold Sealed
    rw [tables.environments]
    exact held
  · intro pool index now task call next _ found program sound held
    obtain ⟨permitted, _⟩ := sound.acting found program
    exact (effect_of_permitted now pool.shared permitted).sealed held
  · intro envId row present
    cases present

/-- The calls that commit without writing the document. -/
def echoes : Call V → Bool
  | .recordJournal _ => true
  | .upsertTrustRoot .. => true
  | .createBackup .. => true
  | .deleteBackup .. => true
  | _ => false

/-- What a commit has done to the document of its environment, and the etag it reports. -/
inductive Reported (request : Request V) (k : Known V) (call : Call V) (envId : EnvId)
    (before after : Db V (ResponseBody V)) (journal : Journal V) : Prop
  | wrote {mutation old new} (routed : request.route = .mutate mutation)
      (reads : mutation.readsIfMatch = true) (was : before.environments.lookup envId = some old)
      (is : after.environments.lookup envId = some new)
      (next : new.generation = old.generation + 1)
      (told : Reports journal.responseBody new.etag)
  | echoed {revision} (bare : echoes call = true) (same : after.environments = before.environments)
      (known : k.revision = some revision) (told : Reports journal.responseBody revision.etag)

theorem content_docRow {env : Environment} {data : V} {etag : StateEtag} {generation : Nat}
    (content : contentEtag cfg env = .ok etag)
    (encoded : cfg.json.environment.toValue env = .ok data) :
    etag = (docRow cfg.json data generation).etag := by
  unfold contentEtag at content
  rw [encoded] at content
  cases content
  rfl

theorem Transforms.reads {before after : Environment} {admits : Verb → Prop}
    (transforms : Transforms cfg request ctx before after admits) :
    ∃ mutation, request.route = .mutate mutation ∧ mutation.readsIfMatch = true := by
  obtain ⟨mutation, policyRef, verb, routed, named, _, _⟩ := transforms
  refine ⟨mutation, routed, ?_⟩
  cases mutation <;> first | rfl | cases named

theorem committed_reply {reply : call.Reply} {journal : Journal V} (free : k.committed = none)
    (committed : (learn k call reply).committed = some journal) : ∃ result, reply = .ok result := by
  cases reply with
  | ok result => exact ⟨result, rfl⟩
  | error e =>
      rw [learn_error, free] at committed
      cases committed

/-- A turn that commits an edit of an environment that exists has replaced its document
and reports what it wrote, or left it and reports the revision it knew. -/
theorem Effect.reported {now : Timestamp} {state : ServerState V} {reply : call.Reply}
    {after : Db V (ResponseBody V)} {journal : Journal V} {mutation : Mutation V}
    (effect : Effect cfg request k now state call reply after)
    (admitted : request.admission cfg = some ctx) (routed : request.route = .mutate mutation)
    (edits : ∀ segment id pin, mutation ≠ .restoreEnvironment segment id pin)
    (founds : ∀ segment artifact, mutation ≠ .importEnvironment segment artifact)
    (remembers : Remembers cfg request k state.db) (speaks : Speaks cfg k call)
    (present : state.db.environments.lookup ctx.envId ≠ none) (free : k.committed = none)
    (committed : (learn k call reply).committed = some journal) :
    Reported request k call ctx.envId state.db after journal := by
  obtain ⟨mid, drafts, journaled, wrote⟩ := effect.drafted admitted committed
  have tables := (journalInTx_sameTables wrote).environments
  obtain ⟨result, rfl⟩ := committed_reply free committed
  cases drafts with
  | record known =>
      cases speaks with
      | record revision echo =>
          cases committed
          exact .echoed rfl tables revision echo
  | create named _ encoded absent valid =>
      rw [named] at absent
      exact absurd absent present
  | update known transforms encoded current fresh valid =>
      obtain ⟨named, _⟩ := remembers.own admitted known transforms
      obtain ⟨mutation, routed, reads⟩ := transforms.reads
      cases speaks with
      | update content told =>
          cases committed
          refine .wrote routed reads (named ▸ current) ?_ rfl
            (content_docRow content encoded ▸ told)
          rw [tables, named, Db.putEnv_environments, AList.lookup_insert]
  | policy known transforms priced encoded current fresh valid =>
      obtain ⟨named, _⟩ := remembers.own admitted known transforms
      obtain ⟨mutation, routed, reads⟩ := transforms.reads
      cases speaks with
      | policy content told =>
          cases committed
          refine .wrote routed reads (named ▸ current) ?_ rfl
            (content_docRow content encoded ▸ told)
          rw [tables, named, Db.putEnv_environments, AList.lookup_insert]
  | trustRoot known encoded schema =>
      cases speaks with
      | trustRoot revision echo =>
          cases committed
          exact .echoed rfl tables revision echo
  | backup known encoded named =>
      cases speaks with
      | backup revision echo =>
          cases committed
          exact .echoed rfl tables revision echo
  | dropBackup known =>
      cases speaks with
      | dropBackup revision echo =>
          cases result with
          | true =>
              cases committed
              exact .echoed rfl tables revision echo
          | false =>
              simp only [learn, free] at committed
              cases committed
  | restore asked =>
      obtain ⟨segment, id, pin, asked⟩ := asked
      cases routed.symm.trans asked
      exact absurd rfl (edits segment id pin)
  | importEnv asked =>
      obtain ⟨segment, artifact, asked⟩ := asked
      cases routed.symm.trans asked
      exact absurd rfl (founds segment artifact)

end Commits

end GreenticDeployer.Server
