import GreenticDeployer.Server.Idempotency

/-!
# The client's etag

A request may pin the revision it has seen with an If-Match header. Every handler
that reads one hands the etag to the conditional write of its transaction; where
nothing is written, only the reconcile compares it, against the copy it loaded.
-/

set_option maxHeartbeats 200000

namespace GreenticDeployer.Server

open Spec Engine Store Trust Lib

variable {V : Type} {cfg : Config V} {request : Request V} {ctx : Context} {k : Known V}

def Mutation.readsIfMatch : Mutation V → Bool
  | .createEnvironment _ | .completeReconcile .. => false
  | .bootstrapTrustRoot _ | .seedTrustRoot _ | .addTrustedKey .. | .removeTrustedKey .. => false
  | .createBackup _ | .deleteBackup .. | .importEnvironment .. | .restoreEnvironment .. => false
  | _ => true

/-- On what condition a handler journals without writing the document. -/
inductive Bare where
  | never
  | reviewed
  | always
  deriving DecidableEq

/-- A reconcile writes nothing; some verbs may succeed with nothing to write. -/
def Mutation.bare : Mutation V → Bare
  | .reconcileEnvironment _ => .reviewed
  | .setTrafficSplit .. | .addMessagingEndpoint .. | .linkMessagingBundle .. => .always
  | .unlinkMessagingBundle .. | .setMessagingWelcomeFlow .. | .removeMessagingEndpoint .. => .always
  | .rotateMessagingWebhookSecret .. => .always
  | _ => .never

def Request.mutation (request : Request V) : Option (Mutation V) :=
  match request.route with
  | .mutate mutation => some mutation
  | .exportBackup .. => none

def Request.ifMatch (request : Request V) : Option StateEtag :=
  match request.mutation with
  | none => none
  | some mutation =>
    if mutation.readsIfMatch then (parseIfMatch request.head.headers).toOption.join else none

def Request.bare (request : Request V) : Bare := (request.mutation.map Mutation.bare).getD .never

def currentEtag (db : Db V (ResponseBody V)) (envId : EnvId) : Option StateEtag :=
  (db.environments.lookup envId).map (·.etag)

/-- The calls that write the document on the client's condition. -/
def conditional : Call V → Bool
  | .updateEnv .. => true
  | .updateEnvWithRevenuePolicy .. => true
  | _ => false

/-- A call of a request that carries an etag: a read, a write pinned to the etag,
or a journal alone. -/
inductive Minds (etag : StateEtag) (bare : Bare) (k : Known V) : Call V → Prop
  | lookup (envId key) : Minds etag bare k (.lookupIdempotency envId key)
  | loadEnv (envId) : Minds etag bare k (.loadEnv envId)
  | loadRoot (envId) : Minds etag bare k (.loadTrustRoot envId)
  | update {env precondition journal} (pinned : precondition.ifMatch = some etag) :
      Minds etag bare k (.updateEnv env precondition journal)
  | policy {env precondition artifact trustRootPin journal}
      (pinned : precondition.ifMatch = some etag) :
      Minds etag bare k
        (.updateEnvWithRevenuePolicy env precondition artifact trustRootPin journal)
  | record {journal} (may : bare = .always ∨
        bare = .reviewed ∧ ∃ loaded, k.loaded = some loaded ∧ loaded.revision.etag = etag) :
      Minds etag bare k (.recordJournal journal)

abbrev Serving (V : Type) :=
  Program (Call V) StorageCall.Reply (Except RemoteStoreError (Response V))

/-- Every call minds the etag, and a conditional write that fails leaves no more
to do than `tail` of its failure. -/
def Heeds (etag : StateEtag) (bare : Bare) (tail : RemoteStoreError → Serving V) :
    Known V → Serving V → Prop
  | _, .done _ => True
  | k, .call call next => Minds etag bare k call ∧
      (conditional call = true → ∀ e, next (.error e) = tail (mapStorageError e)) ∧
      ∀ reply, Heeds etag bare tail (learn k call reply) (next reply)

/-- The end of a body that fails. -/
def failed (e : RemoteStoreError) : Serving V := .done (.error e)

/-- The end of a request whose body has failed: the response its key has
committed meanwhile, or the error. -/
def failedOrReplayed (ctx : Context) (e : RemoteStoreError) : Serving V := (errorOrReplay ctx e).run

section Bodies

variable {etag : StateEtag} {bare : Bare} {tail : RemoteStoreError → Serving V}

theorem heeds_lift {α : Type} {outcome : Except RemoteStoreError α}
    {f : α → Handling V (Response V)}
    (rest : ∀ a, outcome = .ok a → Heeds etag bare tail k (f a).run) :
    Heeds etag bare tail k (Program.lift outcome >>= f).run := by
  cases outcome with
  | ok a => exact rest a rfl
  | error e => trivial

theorem heeds_loadEnvironment {f : Loaded Environment → Handling V (Response V)}
    (rest : ∀ loaded, Heeds etag bare tail { k with loaded := some loaded } (f loaded).run) :
    Heeds etag bare tail k (loadEnvironment ctx >>= f).run := by
  refine ⟨.loadEnv _, nofun, ?_⟩
  intro reply
  cases reply with
  | ok loaded => exact rest loaded
  | error e => trivial

theorem heeds_reads {α : Type} {program : Handling V α} {f : α → Handling V (Response V)}
    (reads : program.run.Only fun call => ∃ envId, call = .loadTrustRoot envId)
    (rest : ∀ a, Heeds etag bare tail k (f a).run) :
    Heeds etag bare tail k (program >>= f).run := by
  have run : ∀ program : Program (Call V) StorageCall.Reply (Except RemoteStoreError α),
      (program.Only fun call => ∃ envId, call = .loadTrustRoot envId) →
      Heeds etag bare tail k (program.bind (ExceptT.bindCont f)) := by
    intro program reads
    induction program with
    | done outcome =>
        cases outcome with
        | ok a => exact rest a
        | error e => trivial
    | call call next ih =>
        obtain ⟨⟨envId, rfl⟩, later⟩ := reads
        refine ⟨.loadRoot envId, nofun, ?_⟩
        intro reply
        have same : learn k (.loadTrustRoot envId) reply = k := by
          cases reply <;> rfl
        rw [same]
        exact ih reply (later reply)
  exact run program.run reads

theorem heeds_commitUpdate {loaded : EnvRevision} {env : Environment}
    {prepared : PreparedMutation V} :
    Heeds etag bare failed k (commitUpdate (some etag) loaded env prepared).run := by
  refine ⟨.update rfl, fun _ _ => rfl, ?_⟩
  intro reply
  cases reply <;> trivial

theorem heeds_commitJournal {prepared : PreparedMutation V}
    (may : bare = .always ∨
      bare = .reviewed ∧ ∃ loaded, k.loaded = some loaded ∧ loaded.revision.etag = etag) :
    Heeds etag bare tail k (commitJournal prepared).run := by
  refine ⟨.record may, nofun, ?_⟩
  intro reply
  cases reply <;> trivial

theorem heeds_mutateLoaded {apply : Environment → Except RemoteStoreError Change}
    (writes : bare = .always ∨ ∀ env result, apply env ≠ .ok (.keep result)) :
    Heeds etag bare failed k (mutateLoaded cfg ctx (some etag) apply).run := by
  refine heeds_loadEnvironment fun loaded => heeds_lift fun change applied => ?_
  cases change with
  | write env result => exact heeds_lift fun next _ => heeds_commitUpdate
  | keep result =>
      refine heeds_commitJournal (.inl ?_)
      exact writes.resolve_right fun always => always loaded.value result applied

theorem heeds_transitionLoaded
    {apply : Environment → Outcome RevisionLifecycleError RevisionTransition} :
    Heeds etag bare failed k (transitionLoaded cfg ctx (some etag) apply).run := by
  refine heeds_loadEnvironment fun loaded => ?_
  split
  · exact heeds_lift fun next _ => heeds_commitUpdate
  · exact heeds_lift fun next _ => heeds_commitUpdate
  · trivial

theorem buildRevenuePolicy_reads {deployment : BundleDeployment} :
    (buildRevenuePolicy cfg ctx deployment).run.Only
      fun call => ∃ envId, call = .loadTrustRoot envId := by
  have lifted : ∀ {α β : Type} {outcome : Except RemoteStoreError α} {f : α → Handling V β},
      (∀ a, (f a).run.Only fun call => ∃ envId, call = .loadTrustRoot envId) →
      (Program.lift outcome >>= f).run.Only fun call => ∃ envId, call = .loadTrustRoot envId :=
    fun rest => Program.Only.andThen trivial rest
  refine Program.Only.andThen ⟨⟨_, rfl⟩, fun reply => trivial⟩ fun root => ?_
  exact lifted fun _ => lifted fun _ => lifted fun _ => trivial

theorem heeds_commitPolicy {loaded : EnvRevision} {env : Environment} {index : Nat} :
    Heeds etag bare failed k (commitPolicy cfg ctx (some etag) loaded env index).run := by
  refine heeds_lift fun deployment _ => heeds_reads buildRevenuePolicy_reads fun pending => ?_
  refine heeds_lift fun next _ => ⟨.policy rfl, fun _ _ => rfl, ?_⟩
  intro reply
  cases reply <;> trivial

theorem heeds_updateLoadedBundle {payload : UpdateBundlePayload} :
    Heeds etag bare failed k (updateLoadedBundle cfg ctx (some etag) payload).run := by
  refine heeds_loadEnvironment fun loaded => ?_
  split
  · trivial
  · split
    · exact heeds_commitPolicy
    · exact heeds_lift fun deployment _ => heeds_lift fun next _ => heeds_commitUpdate

theorem heeds_withReplay {body : Handling V (Response V)}
    (heeds : Heeds etag bare failed k body.run) :
    Heeds etag bare (failedOrReplayed ctx) k (withReplay ctx body).run := by
  have rescued : ∀ (program : Serving V) (k : Known V), Heeds etag bare failed k program →
      Heeds etag bare (failedOrReplayed ctx) k
        (Program.rescue (ExceptT.mk program) (errorOrReplay ctx)).run := by
    intro program
    induction program with
    | done outcome =>
        intro k _
        cases outcome with
        | ok response => trivial
        | error e =>
            refine ⟨.lookup _ _, nofun, fun reply => ?_⟩
            dsimp only [Program.bind]
            repeat' split
            all_goals trivial
    | call call next ih =>
        intro k heeds
        refine ⟨heeds.1, fun guarded e => ?_, fun reply => ih reply _ (heeds.2.2 reply)⟩
        exact congrArg (fun program => Program.bind program _) (heeds.2.1 guarded e)
  exact rescued body.run k heeds

end Bodies

def Honors (headers : HeaderMap) (etag : StateEtag) (bare : Bare) (handler : Handler V) : Prop :=
  ∀ ctx body, handler.enter headers = .ok body →
    Heeds etag bare (failedOrReplayed ctx) Known.opened (body ctx).run

section Handlers

variable {headers : HeaderMap} {etag : StateEtag} {bare : Bare} {handler : Handler V}

/-- What reads the etag first goes on with the one that is sent. -/
theorem entered_of_pinned {γ : Type} {f : Option StateEtag → Except RemoteStoreError γ} {body : γ}
    (pinned : parseIfMatch headers = .ok (some etag))
    (entered : (parseIfMatch headers >>= f) = .ok body) : f (some etag) = .ok body := by
  rwa [bind_of_ok pinned] at entered

theorem engineMutation_honors {envId : EnvId} {noun verb : String}
    {apply : IdempotencyKey → Environment → Except RemoteStoreError Change}
    (pinned : parseIfMatch headers = .ok (some etag))
    (writes : bare = .always ∨ ∀ key env result, apply key env ≠ .ok (.keep result)) :
    Honors headers etag bare (engineMutation cfg envId noun verb apply) := by
  intro ctx body entered
  cases entered_of_pinned pinned entered
  exact heeds_withReplay (heeds_mutateLoaded (writes.imp_right fun always => always ctx.idemKey))

theorem writeOk_writes {ε τ : Type} {onError : ε → RemoteStoreError}
    {result : τ → Environment → MutationResult} {outcome : Outcome ε τ} (kept : MutationResult) :
    writeOk onError result outcome ≠ .ok (.keep kept) := by
  obtain ⟨value | e, env⟩ := outcome <;> exact nofun

theorem bindingMutation_honors {envId : Segment EnvId} {noun verb : String} {τ : Type}
    {result : τ → MutationResult} {apply : Environment → Outcome BindingError τ}
    (pinned : parseIfMatch headers = .ok (some etag))
    (built : bindingMutation cfg envId noun verb result apply = .ok handler) :
    Honors headers etag bare handler := by
  obtain ⟨id, _, built⟩ := bind_ok built
  cases built
  exact engineMutation_honors pinned (.inr fun _ _ => writeOk_writes)

theorem messagingMutation_honors {envId : Segment EnvId} {verb : String}
    {apply : IdempotencyKey → Environment → Except RemoteStoreError Change}
    (pinned : parseIfMatch headers = .ok (some etag))
    (built : messagingMutation cfg envId verb apply = .ok handler) :
    Honors headers etag .always handler := by
  obtain ⟨id, _, built⟩ := bind_ok built
  cases built
  exact engineMutation_honors pinned (.inl rfl)

theorem revisionTransition_honors {envId : Segment EnvId} {verb : String}
    {apply : Environment → Outcome RevisionLifecycleError RevisionTransition}
    (pinned : parseIfMatch headers = .ok (some etag))
    (built : revisionTransition cfg envId verb apply = .ok handler) :
    Honors headers etag bare handler := by
  obtain ⟨id, _, built⟩ := bind_ok built
  cases built
  intro ctx body entered
  cases entered_of_pinned pinned entered
  exact heeds_withReplay heeds_transitionLoaded

/-- The reviewed etag is compared with the loaded copy's, in front of the journal. -/
theorem reconcileEnvironment_honors {envId : Segment EnvId}
    (pinned : parseIfMatch headers = .ok (some etag))
    (built : reconcileEnvironment cfg envId = .ok handler) :
    Honors headers etag .reviewed handler := by
  obtain ⟨id, _, built⟩ := bind_ok built
  cases built
  intro ctx body entered
  cases entered_of_pinned pinned entered
  refine heeds_withReplay (heeds_loadEnvironment fun loaded => heeds_lift fun _ reviewed => ?_)
  exact heeds_commitJournal (.inr ⟨rfl, loaded, rfl, (ensure_ok reviewed).symm⟩)

theorem migrateBindings_honors {envId : Segment EnvId} {payload : MigrateMergePayload}
    (pinned : parseIfMatch headers = .ok (some etag))
    (built : migrateBindings cfg envId payload = .ok handler) :
    Honors headers etag bare handler := by
  obtain ⟨id, _, built⟩ := bind_ok built
  cases built
  intro ctx body entered
  cases entered_of_pinned pinned entered
  refine heeds_withReplay ⟨.loadEnv _, nofun, ?_⟩
  intro reply
  cases reply with
  | ok loaded => exact heeds_lift fun next _ => heeds_commitUpdate
  | error e =>
      cases e with
      | notFound absent => exact heeds_lift fun seeded _ => trivial
      | _ => trivial

theorem addBundle_honors {head : Head} {envId : Segment EnvId} {payload : AddBundlePayload}
    (pinned : parseIfMatch headers = .ok (some etag))
    (built : addBundle cfg head envId payload = .ok handler) :
    Honors headers etag bare handler := by
  obtain ⟨id, _, built⟩ := bind_ok built
  cases built
  intro ctx body entered
  cases entered_of_pinned pinned entered
  refine heeds_withReplay (heeds_loadEnvironment fun loaded => ?_)
  split
  · trivial
  · exact heeds_commitPolicy

theorem updateBundle_honors {envId : Segment EnvId} {deploymentId : Segment DeploymentId}
    {payload : UpdateBundlePayload} (pinned : parseIfMatch headers = .ok (some etag))
    (built : updateBundle cfg envId deploymentId payload = .ok handler) :
    Honors headers etag bare handler := by
  obtain ⟨id, _, built⟩ := bind_ok built
  cases built
  intro ctx body entered
  obtain ⟨_, _, entered⟩ := bind_ok (entered_of_pinned pinned entered)
  obtain ⟨_, _, entered⟩ := bind_ok entered
  cases entered
  exact heeds_withReplay heeds_updateLoadedBundle

theorem removeBundle_honors {envId : Segment EnvId} {deploymentId : Segment DeploymentId}
    (pinned : parseIfMatch headers = .ok (some etag))
    (built : removeBundle cfg envId deploymentId = .ok handler) :
    Honors headers etag bare handler := by
  obtain ⟨id, _, built⟩ := bind_ok built
  cases built
  intro ctx body entered
  obtain ⟨removed, _, entered⟩ := bind_ok (entered_of_pinned pinned entered)
  cases entered
  exact heeds_withReplay (heeds_mutateLoaded (.inr fun _ => writeOk_writes))

theorem handler_honors {head : Head} {mutation : Mutation V} (reads : mutation.readsIfMatch = true)
    (pinned : parseIfMatch headers = .ok (some etag))
    (built : mutation.handler cfg head = .ok handler) :
    Honors headers etag mutation.bare handler := by
  cases mutation with
  | updateEnvironment envId patch =>
      obtain ⟨id, _, built⟩ := bind_ok built
      cases built
      exact engineMutation_honors pinned (.inr fun _ _ _ => nofun)
  | reconcileEnvironment envId => exact reconcileEnvironment_honors pinned built
  | migrateBindings envId payload => exact migrateBindings_honors pinned built
  | stageRevision envId payload =>
      obtain ⟨id, _, built⟩ := bind_ok built
      cases built
      exact engineMutation_honors pinned (.inr fun _ _ => writeOk_writes)
  | warmRevision envId revisionId payload =>
      obtain ⟨_, _, built⟩ := bind_ok built
      obtain ⟨_, _, built⟩ := bind_ok built
      exact revisionTransition_honors pinned built
  | drainRevision envId revisionId =>
      obtain ⟨_, _, built⟩ := bind_ok built
      exact revisionTransition_honors pinned built
  | archiveRevision envId revisionId =>
      obtain ⟨_, _, built⟩ := bind_ok built
      exact revisionTransition_honors pinned built
  | setTrafficSplit envId payload =>
      obtain ⟨id, _, built⟩ := bind_ok built
      cases built
      exact engineMutation_honors pinned (.inl rfl)
  | rollbackTrafficSplit envId deploymentId =>
      obtain ⟨id, _, built⟩ := bind_ok built
      cases built
      exact engineMutation_honors pinned (.inr fun _ _ => writeOk_writes)
  | addPackBinding envId binding => exact bindingMutation_honors pinned built
  | updatePackBinding envId slot binding =>
      obtain ⟨_, _, built⟩ := bind_ok built
      exact bindingMutation_honors pinned built
  | removePackBinding envId slot =>
      obtain ⟨_, _, built⟩ := bind_ok built
      exact bindingMutation_honors pinned built
  | rollbackPackBinding envId slot =>
      obtain ⟨_, _, built⟩ := bind_ok built
      exact bindingMutation_honors pinned built
  | addExtensionBinding envId binding => exact bindingMutation_honors pinned built
  | updateExtensionBinding envId key binding =>
      cases binding with
      | none => cases built
      | some binding => exact bindingMutation_honors pinned built
  | removeExtensionBinding envId key => exact bindingMutation_honors pinned built
  | rollbackExtensionBinding envId key => exact bindingMutation_honors pinned built
  | addMessagingEndpoint envId payload => exact messagingMutation_honors pinned built
  | linkMessagingBundle envId endpointId bundleId updatedBy =>
      obtain ⟨_, _, built⟩ := bind_ok built
      exact messagingMutation_honors pinned built
  | unlinkMessagingBundle envId endpointId bundleId updatedBy =>
      obtain ⟨_, _, built⟩ := bind_ok built
      exact messagingMutation_honors pinned built
  | setMessagingWelcomeFlow envId endpointId payload =>
      obtain ⟨_, _, built⟩ := bind_ok built
      obtain ⟨_, _, built⟩ := bind_ok built
      exact messagingMutation_honors pinned built
  | removeMessagingEndpoint envId endpointId =>
      obtain ⟨_, _, built⟩ := bind_ok built
      exact messagingMutation_honors pinned built
  | rotateMessagingWebhookSecret envId endpointId updatedBy newRef =>
      obtain ⟨_, _, built⟩ := bind_ok built
      exact messagingMutation_honors pinned built
  | addBundle envId payload => exact addBundle_honors pinned built
  | updateBundle envId deploymentId payload => exact updateBundle_honors pinned built
  | removeBundle envId deploymentId => exact removeBundle_honors pinned built
  | _ => cases reads

end Handlers

theorem serve_heeds {etag : StateEtag} (admitted : request.admission cfg = some ctx)
    (carried : request.ifMatch = some etag) :
    Heeds etag request.bare (failedOrReplayed ctx) Known.nothing (serve cfg request) := by
  obtain ⟨mutation, handler, body, routed, built, admits, served⟩ := Request.admission_some admitted
  obtain ⟨-, own, entered, shape⟩ := Handler.run_admitted cfg admits
  have asked : request.mutation = some mutation := by
    simp only [Request.mutation, routed]
  have bare : request.bare = mutation.bare := by
    simp only [Request.bare, asked, Option.map_some, Option.getD_some]
  simp only [Request.ifMatch, asked] at carried
  split at carried
  · rename_i reads
    have pinned : parseIfMatch request.head.headers = .ok (some etag) := by
      cases parsed : parseIfMatch request.head.headers with
      | error e => simp [parsed, Except.toOption] at carried
      | ok found => simpa [parsed, Except.toOption] using carried
    rw [served, shape, bare]
    refine ⟨.lookup _ _, fun writes => (by cases writes), ?_⟩
    intro reply
    cases reply with
    | error e => trivial
    | ok found =>
        cases found with
        | none => exact handler_honors reads pinned built ctx body entered
        | some record =>
            dsimp only
            split <;> trivial
  · cases carried

variable {db mid : Db V (ResponseBody V)} {call : Call V} {etag : StateEtag} {bare : Bare}

def Storable (cfg : Config V) (env : Environment) : Prop :=
  validateEnvironment cfg.ext env = .ok () ∧ ∃ data, cfg.json.environment.toValue env = .ok data

/-- The checks a conditional write makes in front of its precondition. -/
def PassesChecks (cfg : Config V) (db : Db V (ResponseBody V)) : Call V → Prop
  | .updateEnv env _ _ => Storable cfg env
  | .updateEnvWithRevenuePolicy env _ artifact trustRootPin _ =>
    (db.trustRoots.lookup env.environmentId).map DocRow.revision = trustRootPin ∧
      checkVersion artifact.version = .ok () ∧ Storable cfg env
  | _ => True

theorem Remembers.own {loaded : Loaded Environment} {env : Environment} {admits : Verb → Prop}
    (remembers : Remembers cfg request k db) (admitted : request.admission cfg = some ctx)
    (known : k.loaded = some loaded)
    (transforms : Transforms cfg request ctx loaded.value env admits) :
    env.environmentId = ctx.envId ∧ ∃ row, db.environments.lookup ctx.envId = some row := by
  have held := remembers.loaded ctx loaded admitted known
  exact ⟨transforms.environmentId.trans held.named, Option.ne_none_iff_exists'.mp held.present⟩

theorem currentEtag_of_check {envId : EnvId} {precondition : Precondition} {row : DocRow V}
    (current : db.environments.lookup envId = some row)
    (checked : precondition.check row.etag row.generation = .ok ())
    (pinned : precondition.ifMatch = some etag) : currentEtag db envId = some etag := by
  obtain ⟨-, etags, -⟩ := Precondition.check_ok checked
  rw [currentEtag, current, Option.map_some, etags etag pinned]

theorem conditional_checked {input : StoreInput} {journal : Option (Journal V)}
    (admitted : request.admission cfg = some ctx) (remembers : Remembers cfg request k db)
    (permitted : Permits cfg request ctx k call) (minds : Minds etag bare k call)
    (guarded : conditional call = true)
    (writes : Writes cfg.json cfg.ext input db call mid journal) :
    currentEtag db ctx.envId = some etag := by
  cases permitted with
  | update known pinned transforms journaled =>
      obtain ⟨own, -⟩ := remembers.own admitted known transforms
      cases minds with
      | update pinned =>
          cases writes with
          | update encoded current checked valid =>
              exact currentEtag_of_check (own ▸ current) checked pinned
  | policy known pinned transforms priced journaled =>
      obtain ⟨own, -⟩ := remembers.own admitted known transforms
      cases minds with
      | policy pinned =>
          cases writes with
          | policy root encoded current checked valid =>
              exact currentEtag_of_check (own ▸ current) checked pinned
  | _ => cases guarded

theorem conditional_stale (input : StoreInput) (admitted : request.admission cfg = some ctx)
    (remembers : Remembers cfg request k db) (permitted : Permits cfg request ctx k call)
    (minds : Minds etag bare k call) (guarded : conditional call = true)
    (stale : currentEtag db ctx.envId ≠ some etag) (passes : PassesChecks cfg db call) :
    ∃ conflict, (execute cfg.json cfg.ext input db call).1 =
        .error (.preconditionFailed ctx.envId conflict) ∧
      conflict.expectedEtag = some etag.value := by
  have differs : ∀ {row : DocRow V}, db.environments.lookup ctx.envId = some row →
      row.etag ≠ etag := by
    intro row current same
    rw [currentEtag, current, Option.map_some, same] at stale
    exact stale rfl
  cases permitted with
  | @update env precondition loaded journal known pinned transforms journaled =>
      obtain ⟨own, row, current⟩ := remembers.own admitted known transforms
      cases minds with
      | update pinned =>
          obtain ⟨valid, data, encoded⟩ := passes
          have refused := updateEnvInTx_stale valid encoded (own ▸ current) pinned (differs current)
          rw [own] at refused
          have replied : (execute cfg.json cfg.ext input db (.updateEnv env precondition
              (some journal))).1 = .error (.preconditionFailed ctx.envId ⟨some etag.value,
                row.etag.value, precondition.expectedGeneration, row.generation⟩) := by
            simp only [execute, transaction, updateEnv, refused, bind, Except.bind]
          exact ⟨_, replied, rfl⟩
  | @policy env precondition loaded position deployment artifact trustRootPin journal known pinned
      transforms priced journaled =>
      obtain ⟨own, row, current⟩ := remembers.own admitted known transforms
      cases minds with
      | policy pinned =>
          obtain ⟨root, version, valid, data, encoded⟩ := passes
          have there : (db.putPolicy (artifact.key env.environmentId) artifact).environments.lookup
              env.environmentId = some row := own ▸ current
          have refused := updateEnvInTx_stale valid encoded there pinned (differs current)
          have present : env.environmentId ∈ db.environments := by
            rw [own, ← AList.lookup_isSome, current]
            rfl
          have replied : (execute cfg.json cfg.ext input db (.updateEnvWithRevenuePolicy env
              precondition artifact trustRootPin (some journal))).1 =
                .error (.preconditionFailed env.environmentId ⟨some etag.value, row.etag.value,
                  precondition.expectedGeneration, row.generation⟩) := by
            simp only [execute, transaction, updateEnvWithRevenuePolicy, root, ensure, if_true,
              version, requireEnv, present, refused, bind, Except.bind]
          rw [own] at replied
          exact ⟨_, replied, rfl⟩
  | _ => cases guarded

/-- What the turn of an admitted request that carries an etag may do. -/
structure IfMatchKept (cfg : Config V) (pool : ServerPool V) (index : Nat) (now : Timestamp)
    (task : ServerTask V) (call : Call V) (ctx : Context) (etag : StateEtag) : Prop where
  /-- A success is a replay, or the response journaled in this very turn. -/
  answered : ∀ known response, ((server cfg).step pool (.advance index now)).tasks[index]? =
      some ⟨task.tag, known, .done (.ok response)⟩ →
    (∃ record, known.found = some record ∧ response = replay record) ∨
    ∃ journal, known.committed = some journal ∧ response = respond journal ∧
      ((server cfg).step pool (.advance index now)).shared.db.idempotencyLedger =
        evictLedger journal.envId (pool.shared.db.idempotencyLedger ++ [journal.ledgerRow])
  /-- A turn that journals has met the etag in the same transaction, or writes no
  document: by a reconcile that loaded it at that etag, or a verb that had
  nothing to write. -/
  committed : ∀ known program journal, ((server cfg).step pool (.advance index now)).tasks[index]? =
      some ⟨task.tag, known, program⟩ → known.committed = some journal →
    currentEtag pool.shared.db ctx.envId = some etag ∨
    ((server cfg).step pool (.advance index now)).shared.db.environments =
      pool.shared.db.environments ∧
      (task.tag.bare = .always ∨ task.tag.bare = .reviewed ∧
        ∃ loaded, task.known.loaded = some loaded ∧ loaded.revision.etag = etag)
  /-- With the etag stale a conditional write changes nothing, and its failure is
  all the request has left to answer, or to replay. -/
  stale : conditional call = true → currentEtag pool.shared.db ctx.envId ≠ some etag →
    ((server cfg).step pool (.advance index now)).shared.db = pool.shared.db ∧
    ∃ e, ((server cfg).step pool (.advance index now)).tasks[index]? =
        some ⟨task.tag, task.known, failedOrReplayed ctx (mapStorageError e)⟩ ∧
      (PassesChecks cfg pool.shared.db call → ∃ conflict,
        e = .preconditionFailed ctx.envId conflict ∧ conflict.expectedEtag = some etag.value)

theorem Effect.inserts {now : Timestamp} {state : ServerState V} {reply : call.Reply}
    {after : Db V (ResponseBody V)} {journal : Journal V}
    (effect : Effect cfg request k now state call reply after)
    (admitted : request.admission cfg = some ctx)
    (committed : (learn k call reply).committed = some journal) :
    after.idempotencyLedger =
      evictLedger journal.envId (state.db.idempotencyLedger ++ [journal.ledgerRow]) := by
  obtain ⟨mid, drafts, journaled, wrote⟩ := effect.drafted admitted committed
  obtain ⟨ledger, audit, inserted, _, written⟩ := journalInTx_ok wrote
  rw [drafts_ledger drafts] at inserted
  rw [written]
  exact (insertLedger_ok inserted).2

theorem Minds.commits {reply : call.Reply} {journal : Journal V} (minds : Minds etag bare k call)
    (free : k.committed = none) (committed : (learn k call reply).committed = some journal) :
    conditional call = true ∨ ∃ own, call = .recordJournal own := by
  cases minds with
  | update pinned => exact .inl rfl
  | policy pinned => exact .inl rfl
  | record may => exact .inr ⟨_, rfl⟩
  | lookup envId key =>
      have kept : (learn k (.lookupIdempotency envId key) reply).committed = none := by
        rcases reply with e | _ | record <;> exact free
      rw [kept] at committed
      cases committed
  | loadEnv envId =>
      have kept : (learn k (.loadEnv envId) reply).committed = none := by
        cases reply <;> exact free
      rw [kept] at committed
      cases committed
  | loadRoot envId =>
      have kept : (learn k (.loadTrustRoot envId) reply).committed = none := by
        cases reply <;> exact free
      rw [kept] at committed
      cases committed

theorem minds_committed {now : Timestamp} {state : ServerState V} {journal : Journal V}
    (admitted : request.admission cfg = some ctx) (remembers : Remembers cfg request k state.db)
    (permitted : permits cfg request k call) (minds : Minds etag bare k call)
    (committed : (learn k call
      (execute cfg.json cfg.ext ⟨state.auditCap, now⟩ state.db call).1).committed = some journal) :
    currentEtag state.db ctx.envId = some etag ∨
    (execute cfg.json cfg.ext ⟨state.auditCap, now⟩ state.db call).2.environments =
      state.db.environments ∧ (bare = .always ∨
        bare = .reviewed ∧ ∃ loaded, k.loaded = some loaded ∧ loaded.revision.etag = etag) := by
  have allowed := permits_of_admission permitted admitted
  rcases execute_cases cfg.json cfg.ext ⟨state.auditCap, now⟩ state.db call with
    ⟨result, done, -⟩ | ⟨e, replied, -⟩
  · obtain ⟨mid, own, writes, wrote⟩ := transaction_writes done
    rcases minds.commits permitted.2.1 committed with guarded | ⟨journal, rfl⟩
    · exact .inl (conditional_checked admitted remembers allowed minds guarded writes)
    · cases minds with
      | record may =>
          refine .inr ⟨?_, may⟩
          cases writes
          exact (journalInTx_sameTables wrote).environments
  · rw [replied, learn_error, permitted.2.1] at committed
    cases committed

/-- Behind the gate a success is a replay or the request's own commit. -/
theorem Ends.own {response : Response V} (ends : Ends cfg request k (.ok response))
    (admitted : request.admission cfg = some ctx) :
    (∃ record, k.found = some record ∧ response = replay record) ∨
      ∃ journal, k.committed = some journal ∧ response = respond journal := by
  rcases ends.answered ctx response admitted rfl with committed | replayed
  · obtain ⟨journal, committed⟩ := Option.ne_none_iff_exists'.mp committed
    exact .inr ⟨journal, committed, Except.ok.inj (ends.committed journal committed)⟩
  · obtain ⟨record, replayed⟩ := Option.ne_none_iff_exists'.mp replayed
    by_cases own : record.requestFingerprint = request.head.fingerprint
    · exact .inl ⟨record, replayed, Except.ok.inj (ends.replayed record replayed own)⟩
    · obtain ⟨e, refused, -⟩ := ends.reused record replayed own
      cases refused

/-- A client's If-Match, whatever the interleaving. Every turn of an admitted
request that carries an etag: a success is a replay, or journaled in that turn;
a turn that journals has met the etag in its transaction wherever it writes the
document; a conditional write under a stale etag changes nothing and fails. -/
theorem if_match_enforced (cfg : Config V) (maxRows : Option UInt32)
    (actions : List (ServerAction V)) (index : Nat) (now : Timestamp) (task : ServerTask V)
    (call : Call V) (next : call.Reply → Serving V) (ctx : Context) (etag : StateEtag)
    (found : ((serverRuns cfg).run (boot maxRows) actions).tasks[index]? = some task)
    (program : task.program = .call call next) (admitted : task.tag.admission cfg = some ctx)
    (carried : task.tag.ifMatch = some etag) :
    IfMatchKept cfg ((serverRuns cfg).run (boot maxRows) actions) index now task call ctx etag := by
  have sound := updates_sound cfg maxRows actions
  have heeding := (server cfg).tasks_run
    (fun request k program => ∀ ctx etag, request.admission cfg = some ctx →
      request.ifMatch = some etag → Heeds etag request.bare (failedOrReplayed ctx) k program)
    (fun request ctx etag admitted carried => serve_heeds admitted carried)
    (fun request k call next reply held ctx etag admitted carried =>
      (held ctx etag admitted carried).2.2 reply)
    (boot maxRows).shared actions
  change ∀ task ∈ ((serverRuns cfg).run (boot maxRows) actions).tasks, _ at heeding
  generalize (serverRuns cfg).run (boot maxRows) actions = pool at sound heeding found
  have member := List.mem_of_getElem? found
  have heeds := heeding task member ctx etag admitted carried
  rw [program] at heeds
  obtain ⟨minds, fails, -⟩ := heeds
  obtain ⟨permitted, remembers⟩ := sound.acting found program
  have obeys : (Program.call call next).Obeys (permits cfg task.tag) learn (Ends cfg task.tag)
      task.known := program ▸ sound.obeys task member
  have effect := effect_of_permitted now pool.shared permitted
  have turned : ((server cfg).step pool (.advance index now)).tasks[index]? =
      some ⟨task.tag, learn task.known call ((server cfg).exec now pool.shared call).1,
        next ((server cfg).exec now pool.shared call).1⟩ :=
    (server cfg).turned found program now
  have after : ((server cfg).step pool (.advance index now)).shared.db =
      (execute cfg.json cfg.ext ⟨pool.shared.auditCap, now⟩ pool.shared.db call).2 := by
    rw [(server cfg).step_call found program]
    rfl
  refine ⟨?_, ?_, ?_⟩
  · intro known response ended
    rw [turned] at ended
    have ends := obeys.2 ((server cfg).exec now pool.shared call).1
    have finished := congrArg Task.program (Option.some.inj ended)
    have learned := congrArg Task.known (Option.some.inj ended)
    simp only at finished learned
    rw [finished, learned] at ends
    rcases Ends.own ends admitted with replayed | ⟨journal, committed, own⟩
    · exact .inl replayed
    · refine .inr ⟨journal, committed, own, ?_⟩
      rw [after]
      exact effect.inserts admitted (learned ▸ committed)
  · intro known program journal ended committed
    rw [turned] at ended
    have learned := congrArg Task.known (Option.some.inj ended)
    simp only at learned
    rw [after]
    exact minds_committed admitted remembers permitted minds (learned ▸ committed)
  · intro guarded stale
    rw [after]
    rcases execute_cases cfg.json cfg.ext ⟨pool.shared.auditCap, now⟩ pool.shared.db call with
      ⟨result, done, -⟩ | ⟨e, replied, same⟩
    · obtain ⟨mid, own, writes, -⟩ := transaction_writes done
      have allowed := permits_of_admission permitted admitted
      exact absurd (conditional_checked admitted remembers allowed minds guarded writes) stale
    · refine ⟨same, e, ?_, fun passes => ?_⟩
      · have replied : ((server cfg).exec now pool.shared call).1 = .error e := replied
        rw [turned, replied, learn_error, fails guarded e]
      · have allowed := permits_of_admission permitted admitted
        obtain ⟨conflict, refused, expected⟩ := conditional_stale
          ⟨pool.shared.auditCap, now⟩ admitted remembers allowed minds guarded stale passes
        exact ⟨conflict, Except.error.inj (replied.symm.trans refused), expected⟩

def pinnedRequest (etag key : String) (mutation : Mutation PlainValue) : Request PlainValue :=
  let request := demoRequest none key mutation
  { request with head.headers.ifMatch := some (.ascii etag) }

/-- A request has done all but its last call when a rename commits. -/
def lateRename (mutation : Mutation PlainValue) : List (ServerAction PlainValue) :=
  served 0 (demoRequest none "a" demoCreate) ++
    [.arrive (pinnedRequest "local/local" "b" mutation)] ++ turns 1 2 ++
    served 2 (demoRequest none "c" (demoRename "renamed"))

def lateRemoval : Mutation PlainValue := .removeMessagingEndpoint (.ok ⟨"local"⟩) (.ok ⟨9⟩)

def lateReconcile : Mutation PlainValue := .reconcileEnvironment (.ok ⟨"local"⟩)

/-- A document without a public URL where one is set. -/
def lateBlankUrl : Mutation PlainValue :=
  .updateEnvironment (.ok ⟨"local"⟩) ⟨none, .keep, .keep, .keep, .set "", .keep, .keep⟩

/-- A rename that comes late under the etag it was sent with. -/
theorem late_rename_refused :
    let pool := (serverRuns (demoConfig .openDev)).run (boot none) (lateRename (demoRename "again"))
    ∃ task call ctx, pool.tasks[1]? = some task ∧ conditional call = true ∧
      currentEtag pool.shared.db ctx.envId ≠ some ⟨"local/local"⟩ ∧
      IfMatchKept (demoConfig .openDev) pool 1 "2026-01-01 00:00:00" task call ctx
        ⟨"local/local"⟩ := by
  intro pool
  have kept := if_match_enforced (demoConfig .openDev) none (lateRename (demoRename "again")) 1
    "2026-01-01 00:00:00" (pool.tasks[1]?.get rfl) _ _ _ _ (Option.some_get _).symm rfl rfl rfl
  exact ⟨_, _, _, (Option.some_get _).symm, rfl, by decide, kept⟩

/-- That a request with a stale etag fails its precondition wherever it writes on
it, and succeeds by a replay alone. -/
def IfMatchAlways (cfg : Config V) (bare : Bare) : Prop :=
  ∀ maxRows actions index now task call next ctx etag,
    ((serverRuns cfg).run (boot maxRows) actions).tasks[index]? = some task →
    task.program = .call call next → task.tag.admission cfg = some ctx →
    task.tag.ifMatch = some etag → task.tag.bare = bare →
    currentEtag ((serverRuns cfg).run (boot maxRows) actions).shared.db ctx.envId ≠ some etag →
    (conditional call = true → ∃ conflict, ((server cfg).exec now
      ((serverRuns cfg).run (boot maxRows) actions).shared call).1 =
        .error (.preconditionFailed ctx.envId conflict)) ∧
    ∀ known response, ((server cfg).step ((serverRuns cfg).run (boot maxRows) actions)
        (.advance index now)).tasks[index]? = some ⟨task.tag, known, .done (.ok response)⟩ →
      known.found ≠ none

theorem etag_not_always_asked :
    ¬ IfMatchAlways (demoConfig .openDev) .always ∧ ¬ IfMatchAlways (demoConfig .openDev) .reviewed ∧
      ¬ IfMatchAlways (demoConfig .openDev) .never := by
  refine ⟨?_, ?_, ?_⟩
  · intro claim
    have replays := (claim none (lateRename lateRemoval) 1 "2026-01-01 00:00:00"
      (((serverRuns (demoConfig .openDev)).run (boot none) (lateRename lateRemoval)).tasks[1]?.get rfl)
      _ _ _ _ (Option.some_get _).symm rfl rfl rfl rfl (by decide)).2
    exact replays _ _ rfl rfl
  · intro claim
    have replays := (claim none (lateRename lateReconcile) 1 "2026-01-01 00:00:00"
      (((serverRuns (demoConfig .openDev)).run (boot none) (lateRename lateReconcile)).tasks[1]?.get rfl)
      _ _ _ _ (Option.some_get _).symm rfl rfl rfl rfl (by decide)).2
    exact replays _ _ rfl rfl
  · intro claim
    obtain ⟨conflict, refused⟩ := (claim none (lateRename lateBlankUrl) 1 "2026-01-01 00:00:00"
      (((serverRuns (demoConfig .openDev)).run (boot none) (lateRename lateBlankUrl)).tasks[1]?.get rfl)
      _ _ _ _ (Option.some_get _).symm rfl rfl rfl rfl (by decide)).1 rfl
    cases refused

end GreenticDeployer.Server
