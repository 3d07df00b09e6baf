import GreenticDeployer.Server.Routes

/-!
# The calls of each handler

Which storage calls a mutation makes at all, whatever it is answered. Rules for
the statements handlers are made of, then one lemma for each shape of handler.
-/

set_option maxHeartbeats 200000

namespace GreenticDeployer.Server

open Spec Engine Store Trust Lib

variable {V : Type}

def Mutation.rooted : Mutation V → Bool
  | .addBundle .. => true
  | .updateBundle .. => true
  | .bootstrapTrustRoot _ => true
  | .seedTrustRoot _ => true
  | .addTrustedKey .. => true
  | .removeTrustedKey .. => true
  | _ => false

def common : Call V → Prop
  | .lookupIdempotency .. => True
  | .loadEnv _ => True
  | .recordJournal _ => True
  | .createEnv .. => True
  | .updateEnv .. => True
  | _ => False

/-- The calls a mutation makes behind its gate. A backup is stored under the
digest of the state it holds. -/
def Mutation.makes (cfg : Config V) (mutation : Mutation V) : Call V → Prop
  | .loadEnvSnapshot _ => ∃ envId, mutation = .createBackup envId
  | .createBackup backup _ => (∃ envId, mutation = .createBackup envId) ∧
      backup.snapshotDigest = cfg.json.sha256Of backup.state
  | .deleteBackup _ id _ => ∃ envId, mutation = .deleteBackup envId id
  | .importEnv .. => ∃ envId artifact, mutation = .importEnvironment envId artifact
  | .loadBackup _ id => ∃ envId pin, mutation = .restoreEnvironment envId id pin
  | .restoreEnv .. => ∃ envId id pin, mutation = .restoreEnvironment envId id pin
  | .loadTrustRoot _ => mutation.rooted = true
  | .upsertTrustRoot .. => mutation.rooted = true
  | .updateEnvWithRevenuePolicy .. => mutation.rooted = true
  | call => common call

theorem Mutation.makes_common {cfg : Config V} {mutation : Mutation V} {call : Call V}
    (shared : common call) : mutation.makes cfg call := by
  cases call <;> first | exact trivial | exact shared.elim

/-- A journal under an event id of the request it commits. -/
def MintedBy (head : Head) (journal : Journal V) : Prop :=
  ∃ attempt, journal.auditEventId = head.eventId attempt

/-- A journal whose event tells of the step from one generation of the environment
to the next. -/
def Records (cfg : Config V) (ctx : Context) (previous : Option Nat) (generation : Nat)
    (journal : Journal V) : Prop :=
  ∃ attempt result, journal.auditEventId = ctx.head.eventId attempt ∧
    journal.auditEvent =
      cfg.json.auditEvent (auditEventFor ctx attempt previous (some generation) result)

/-- The same, of the generation a write is pinned to. -/
def Advances (cfg : Config V) (ctx : Context) (pin : Precondition) (journal : Journal V) : Prop :=
  ∃ generation, pin.expectedGeneration = some generation ∧
    Records cfg ctx (some generation) (generation + 1) journal

/-- The calls every mutation may make behind its gate. -/
def usual (cfg : Config V) (ctx : Context) : Call V → Prop
  | .loadEnv _ => True
  | .recordJournal journal => MintedBy ctx.head journal
  | .createEnv _ (some journal) => Records cfg ctx none 1 journal
  | .updateEnv _ pin (some journal) => Advances cfg ctx pin journal
  | _ => False

theorem common_of_usual {cfg : Config V} {ctx : Context} {call : Call V}
    (made : usual cfg ctx call) : common call := by
  cases call <;> first | exact trivial | exact made.elim

theorem createdRevision_generation {cfg : Config V} {env : Environment} {created : EnvRevision}
    (computed : createdRevision cfg env = .ok created) : created.generation = 1 := by
  obtain ⟨etag, _, rfl⟩ := map_ok computed
  rfl

theorem nextRevision_generation {cfg : Config V} {env : Environment} {loaded next : EnvRevision}
    (computed : nextRevision cfg env loaded = .ok next) :
    next.generation = loaded.generation + 1 := by
  obtain ⟨etag, _, rfl⟩ := map_ok computed
  rfl

theorem Records.first {cfg : Config V} {ctx : Context} {env : Environment} {created : EnvRevision}
    {result : MutationResult} (computed : createdRevision cfg env = .ok created) :
    Records cfg ctx none 1 (prepareMutation cfg ctx result none created).journal :=
  createdRevision_generation computed ▸ ⟨0, .ok, rfl, rfl⟩

theorem Advances.next {cfg : Config V} {ctx : Context} {clientEtag : Option StateEtag}
    {env : Environment} {loaded next : EnvRevision} {result : MutationResult}
    (computed : nextRevision cfg env loaded = .ok next) :
    Advances cfg ctx (resolvePrecondition clientEtag loaded)
      (prepareMutation cfg ctx result (some loaded.generation) next).journal :=
  ⟨loaded.generation, rfl, nextRevision_generation computed ▸ ⟨0, .ok, rfl, rfl⟩⟩

/-- Reads, if any, and then the part whose failure consults the ledger again. -/
inductive Gated (fine : Call V → Prop) (ctx : Context) : Handling V (Response V) → Prop
  | gated {body} (inner : body.run.Only fine) : Gated fine ctx (withReplay ctx body)
  | reads {α call} {sort : call.Reply → Except RemoteStoreError α}
      {rest : α → Handling V (Response V)} (made : fine call)
      (gated : ∀ a, Gated fine ctx (rest a)) : Gated fine ctx (Program.ask call sort >>= rest)

section Statements

variable {fine : Call V → Prop} {ctx : Context}

theorem only_lift {α β : Type} {outcome : Except RemoteStoreError α} {f : α → Handling V β}
    (rest : ∀ a, outcome = .ok a → (f a).run.Only fine) :
    (Program.lift outcome >>= f).run.Only fine := by
  cases outcome with
  | ok a => exact rest a rfl
  | error e => exact trivial

theorem only_ask {α β : Type} {call : Call V} {sort : call.Reply → Except RemoteStoreError α}
    {f : α → Handling V β} (made : fine call) (rest : ∀ a, (f a).run.Only fine) :
    (Program.ask call sort >>= f).run.Only fine :=
  .andThen ⟨made, fun _ => trivial⟩ rest

theorem only_replayGate {envId : EnvId} {idemKey fingerprint : String}
    (looks : ∀ envId key, fine (.lookupIdempotency envId key)) :
    (replayGate envId idemKey fingerprint : Handling V (Option (Response V))).run.Only fine :=
  ⟨looks _ _, fun _ => trivial⟩

theorem only_withReplay {body : Handling V (Response V)}
    (looks : ∀ envId key, fine (.lookupIdempotency envId key)) (inner : body.run.Only fine) :
    (withReplay ctx body).run.Only fine := by
  refine .rescue inner fun e => ?_
  refine Program.Only.bind (only_replayGate looks) ?_
  intro outcome
  split <;> exact trivial

theorem Gated.only {body : Handling V (Response V)} (gated : Gated fine ctx body)
    (looks : ∀ envId key, fine (.lookupIdempotency envId key)) : body.run.Only fine := by
  induction gated with
  | gated inner => exact only_withReplay looks inner
  | reads made _ ih => exact only_ask made ih

theorem only_commitUpdate {clientEtag : Option StateEtag} {loaded : EnvRevision}
    {env : Environment} {prepared : PreparedMutation V}
    (shared : ∀ call, usual cfg ctx call → fine call)
    (advances : Advances cfg ctx (resolvePrecondition clientEtag loaded) prepared.journal) :
    (commitUpdate clientEtag loaded env prepared).run.Only fine :=
  only_ask (shared _ advances) fun _ => trivial

theorem only_commitJournal {prepared : PreparedMutation V}
    (shared : ∀ call, usual cfg ctx call → fine call)
    (minted : MintedBy ctx.head prepared.journal) : (commitJournal prepared).run.Only fine :=
  only_ask (shared _ minted) fun _ => trivial

theorem only_commitCreate {env : Environment} {prepared : PreparedMutation V}
    (shared : ∀ call, usual cfg ctx call → fine call)
    (records : Records cfg ctx none 1 prepared.journal) :
    (commitCreate env prepared).run.Only fine :=
  only_ask (shared _ records) fun _ => trivial

theorem only_loadEnvironment {β : Type} {f : Loaded Environment → Handling V β}
    (shared : ∀ call, usual cfg ctx call → fine call) (rest : ∀ loaded, (f loaded).run.Only fine) :
    (loadEnvironment ctx >>= f).run.Only fine :=
  only_ask (shared _ trivial) rest

theorem only_mutateLoaded {cfg : Config V} {clientEtag : Option StateEtag}
    {apply : Environment → Except RemoteStoreError Change}
    (shared : ∀ call, usual cfg ctx call → fine call) :
    (mutateLoaded cfg ctx clientEtag apply).run.Only fine := by
  refine only_loadEnvironment shared fun loaded => only_lift fun change _ => ?_
  cases change with
  | write env result => exact only_lift fun _ computed => only_commitUpdate shared (.next computed)
  | keep result => exact only_commitJournal shared ⟨0, rfl⟩

end Statements

def Handler.Makes (fine : Call V → Prop) (handler : Handler V) : Prop :=
  ∀ headers body, handler.enter headers = .ok body → ∀ ctx, (body ctx).run.Only fine

/-- A handler whose every body makes fine calls alone, those of the ledger aside. -/
def Handler.Guards (fine : Context → Call V → Prop) (handler : Handler V) : Prop :=
  ∀ headers body, handler.enter headers = .ok body → ∀ ctx, Gated (fine ctx) ctx (body ctx)

section Handlers

variable {cfg : Config V} {head : Head} {handler : Handler V} {fine : Context → Call V → Prop}

theorem engineMutation_guards {envId : EnvId} {noun verb : String}
    {apply : IdempotencyKey → Environment → Except RemoteStoreError Change}
    (shared : ∀ ctx call, usual cfg ctx call → fine ctx call) :
    (engineMutation cfg envId noun verb apply).Guards fine := by
  intro headers body entered ctx
  obtain ⟨clientEtag, _, entered⟩ := bind_ok entered
  cases entered
  exact .gated (only_mutateLoaded (shared ctx))

theorem revisionTransition_guards {envId : Segment EnvId} {verb : String}
    {apply : Environment → Outcome RevisionLifecycleError RevisionTransition}
    (shared : ∀ ctx call, usual cfg ctx call → fine ctx call)
    (built : revisionTransition cfg envId verb apply = .ok handler) : handler.Guards fine := by
  obtain ⟨id, _, built⟩ := bind_ok built
  cases built
  intro headers body entered ctx
  obtain ⟨clientEtag, _, entered⟩ := bind_ok entered
  cases entered
  refine .gated (only_loadEnvironment (shared ctx) fun loaded => ?_)
  split
  · exact only_lift fun _ computed => only_commitUpdate (shared ctx) (.next computed)
  · exact only_lift fun _ computed => only_commitUpdate (shared ctx)
      ⟨_, rfl, nextRevision_generation computed ▸ ⟨0, _, rfl, rfl⟩⟩
  · exact trivial

theorem bindingMutation_guards {τ : Type} {envId : Segment EnvId} {noun verb : String}
    {result : τ → MutationResult} {apply : Environment → Outcome BindingError τ}
    (shared : ∀ ctx call, usual cfg ctx call → fine ctx call)
    (built : bindingMutation cfg envId noun verb result apply = .ok handler) :
    handler.Guards fine := by
  obtain ⟨id, _, built⟩ := bind_ok built
  cases built
  exact engineMutation_guards shared

theorem messagingMutation_guards {envId : Segment EnvId} {verb : String}
    {apply : IdempotencyKey → Environment → Except RemoteStoreError Change}
    (shared : ∀ ctx call, usual cfg ctx call → fine ctx call)
    (built : messagingMutation cfg envId verb apply = .ok handler) : handler.Guards fine := by
  obtain ⟨id, _, built⟩ := bind_ok built
  cases built
  exact engineMutation_guards shared

theorem reconcileEnvironment_guards {envId : Segment EnvId}
    (shared : ∀ ctx call, usual cfg ctx call → fine ctx call)
    (built : reconcileEnvironment cfg envId = .ok handler) : handler.Guards fine := by
  obtain ⟨id, _, built⟩ := bind_ok built
  cases built
  intro headers body entered ctx
  obtain ⟨pin, _, entered⟩ := bind_ok entered
  cases pin with
  | none => cases entered
  | some clientEtag =>
      cases entered
      exact .gated (only_loadEnvironment (shared ctx) fun loaded =>
        only_lift fun _ _ => only_commitJournal (shared ctx) ⟨0, rfl⟩)

theorem completeReconcile_guards {envId : Segment EnvId} {completion : ReconcileCompletion}
    (shared : ∀ ctx call, usual cfg ctx call → fine ctx call)
    (built : completeReconcile cfg envId completion = .ok handler) : handler.Guards fine := by
  obtain ⟨id, _, built⟩ := bind_ok built
  cases built
  rintro headers body ⟨⟩ ctx
  exact .gated (only_loadEnvironment (shared ctx) fun loaded =>
    only_commitJournal (shared ctx) ⟨0, rfl⟩)

theorem migrateBindings_guards {envId : Segment EnvId} {payload : MigrateMergePayload}
    (shared : ∀ ctx call, usual cfg ctx call → fine ctx call)
    (built : migrateBindings cfg envId payload = .ok handler) : handler.Guards fine := by
  obtain ⟨id, _, built⟩ := bind_ok built
  cases built
  intro headers body entered ctx
  obtain ⟨clientEtag, _, entered⟩ := bind_ok entered
  cases entered
  refine .gated (only_ask (shared ctx _ trivial) fun reply => ?_)
  split
  · exact only_lift fun _ computed => only_commitUpdate (shared ctx) (.next computed)
  · exact only_lift fun seeded _ => only_lift fun _ _ => only_lift fun _ computed =>
      only_commitCreate (shared ctx) (.first computed)
  · exact trivial

theorem removeBundle_guards {envId : Segment EnvId} {deploymentId : Segment DeploymentId}
    (shared : ∀ ctx call, usual cfg ctx call → fine ctx call)
    (built : removeBundle cfg envId deploymentId = .ok handler) : handler.Guards fine := by
  obtain ⟨id, _, built⟩ := bind_ok built
  cases built
  intro headers body entered ctx
  obtain ⟨clientEtag, _, entered⟩ := bind_ok entered
  obtain ⟨deployment, _, entered⟩ := bind_ok entered
  cases entered
  exact .gated (only_mutateLoaded (shared ctx))

theorem createBackup_guards {envId : Segment EnvId} (captures : ∀ ctx envId,
      fine ctx (.loadEnvSnapshot envId))
    (stores : ∀ ctx backup journal, backup.snapshotDigest = cfg.json.sha256Of backup.state →
      fine ctx (.createBackup backup journal))
    (built : createBackup cfg head envId = .ok handler) : handler.Guards fine := by
  obtain ⟨id, _, built⟩ := bind_ok built
  cases built
  rintro headers body ⟨⟩ ctx
  exact .gated (only_ask (captures ctx _) fun captured => only_lift fun state _ =>
    only_ask (stores ctx _ _ rfl) fun _ => trivial)

theorem deleteBackup_guards {envId : Segment EnvId} {backupId : String}
    (shared : ∀ ctx call, usual cfg ctx call → fine ctx call)
    (deletes : ∀ ctx envId journal, MintedBy ctx.head journal →
      fine ctx (.deleteBackup envId backupId (some journal)))
    (built : deleteBackup cfg envId backupId = .ok handler) : handler.Guards fine := by
  obtain ⟨id, _, built⟩ := bind_ok built
  cases built
  rintro headers body ⟨⟩ ctx
  exact .gated (only_loadEnvironment (shared ctx) fun loaded =>
    only_ask (deletes ctx _ _ ⟨0, rfl⟩) fun _ => trivial)

theorem verifiedSnapshot_decodes {source digest : String} {state : V}
    {verified : EnvSnapshot V × Environment}
    (unpacked : verifiedSnapshot cfg source state digest = .ok verified) :
    cfg.json.snapshot.fromValue state = .ok verified.1 := by
  obtain ⟨_, _, unpacked⟩ := bind_ok unpacked
  obtain ⟨snapshot, decoded, unpacked⟩ := bind_ok unpacked
  obtain ⟨env, _, unpacked⟩ := bind_ok unpacked
  cases unpacked
  exact mapError_ok decoded

theorem importEnvironment_guards {envId : Segment EnvId} {artifact : BackupArtifact V}
    (imports : ∀ ctx snapshot journal, cfg.json.snapshot.fromValue artifact.snapshot = .ok snapshot →
      Records cfg ctx none 1 journal → fine ctx (.importEnv ctx.envId snapshot (some journal)))
    (built : importEnvironment cfg envId artifact = .ok handler) : handler.Guards fine := by
  obtain ⟨id, _, built⟩ := bind_ok built
  cases built
  rintro headers body ⟨⟩ ctx
  exact .gated (only_lift fun _ _ => only_lift fun verified unpacked => only_lift fun _ computed =>
    only_ask (imports ctx _ _ (verifiedSnapshot_decodes unpacked) (.first computed))
      fun _ => trivial)

theorem restoreEnvironment_guards {envId : Segment EnvId} {backupId : String}
    {precondition : Precondition} (shared : ∀ ctx call, usual cfg ctx call → fine ctx call)
    (loads : ∀ ctx envId, fine ctx (.loadBackup envId backupId))
    (restores : ∀ ctx envId snapshot pin journal, Advances cfg ctx pin journal →
      fine ctx (.restoreEnv envId snapshot pin (some journal)))
    (built : restoreEnvironment cfg envId backupId precondition = .ok handler) :
    handler.Guards fine := by
  obtain ⟨id, _, built⟩ := bind_ok built
  cases built
  rintro headers body ⟨⟩ ctx
  exact .gated (only_lift fun _ _ => only_ask (loads ctx _) fun backup =>
    only_lift fun _ _ => only_loadEnvironment (shared ctx) fun loaded => only_lift fun _ _ =>
    only_lift fun _ computed => only_ask (restores ctx _ _ _ _ (.next computed)) fun _ => trivial)

theorem trustRootMutation_guards {segment : Segment EnvId} {verb : String}
    {inner : Context → EnvRevision → Option (Loaded TrustRootDocument) → Handling V (Response V)}
    (shared : ∀ ctx call, usual cfg ctx call → fine ctx call)
    (reads : ∀ ctx envId, fine ctx (.loadTrustRoot envId))
    (made : ∀ ctx revision current, (inner ctx revision current).run.Only (fine ctx))
    (built : trustRootMutation segment verb inner = .ok handler) : handler.Guards fine := by
  obtain ⟨id, _, built⟩ := bind_ok built
  cases built
  rintro headers body ⟨⟩ ctx
  exact .reads (shared ctx _ trivial) fun env => .reads (reads ctx _) fun current =>
    .gated (made ctx env.revision current)

section Grants

variable {ctx : Context} {onRace : FirstWriteRace}

theorem only_expectPersisted (granted : Option (PreparedMutation V)) :
    (expectPersisted granted : Handling V (Response V)).run.Only (fine ctx) := by
  cases granted <;> exact trivial

variable (reads : ∀ ctx envId, fine ctx (.loadTrustRoot envId))
variable (writes : ∀ ctx doc pin journal, MintedBy ctx.head journal →
  fine ctx (.upsertTrustRoot ctx.envId doc pin (some journal)))
include reads writes

theorem only_persistTrustRootMutation {mutate : TrustRootDocument → TrustRootDocument}
    {prepare : Nat → TrustRootDocument → PreparedMutation V}
    (minted : ∀ attempt doc, MintedBy ctx.head (prepare attempt doc).journal)
    (attempts : Nat) (current : Option (Loaded TrustRootDocument)) :
    (persistTrustRootMutation ctx onRace mutate prepare attempts current).run.Only (fine ctx) := by
  induction attempts generalizing current with
  | zero => exact trivial
  | succ attempts ih =>
      refine only_ask (writes ctx _ _ _ (minted _ _)) fun reply => ?_
      split
      · exact trivial
      · split
        · exact trivial
        · exact only_ask (reads ctx _) fun reloaded => ih reloaded
        · exact trivial
      · exact trivial

theorem only_grantOperatorKey {current : Option (Loaded TrustRootDocument)}
    {prepare : Nat → TrustRootSeed → PreparedMutation V}
    (minted : ∀ attempt seed, MintedBy ctx.head (prepare attempt seed).journal) :
    (grantOperatorKey cfg ctx current onRace prepare).run.Only (fine ctx) :=
  only_lift fun _ _ => only_lift fun _ _ =>
    only_persistTrustRootMutation reads writes (fun _ _ => minted _ _) 2 current

variable (shared : ∀ ctx call, usual cfg ctx call → fine ctx call)
include shared

theorem bootstrapTrustRoot_guards {segment : Segment EnvId}
    (built : bootstrapTrustRoot cfg segment = .ok handler) : handler.Guards fine :=
  trustRootMutation_guards shared reads (fun _ _ _ =>
    .andThen (only_grantOperatorKey reads writes fun attempt _ => ⟨attempt, rfl⟩)
      only_expectPersisted) built

theorem seedTrustRoot_guards {segment : Segment EnvId}
    (built : seedTrustRoot cfg segment = .ok handler) : handler.Guards fine := by
  refine trustRootMutation_guards shared reads (fun ctx revision current => ?_) built
  have seeded : (seedOperatorKey cfg ctx revision current).run.Only (fine ctx) := by
    unfold seedOperatorKey
    cases current with
    | some loaded => exact trivial
    | none => exact only_grantOperatorKey reads writes fun attempt _ => ⟨attempt, rfl⟩
  refine .andThen seeded fun granted => ?_
  cases granted with
  | some prepared => exact trivial
  | none => exact only_commitJournal (shared ctx) ⟨2, rfl⟩

theorem addTrustedKey_guards {segment : Segment EnvId} {key : TrustedKey}
    (built : addTrustedKey cfg segment key = .ok handler) : handler.Guards fine :=
  trustRootMutation_guards shared reads (fun _ _ current => only_lift fun _ _ =>
    .andThen (only_persistTrustRootMutation reads writes (fun attempt _ => ⟨attempt, rfl⟩) 2 current)
      only_expectPersisted) built

theorem removeTrustedKey_guards {segment : Segment EnvId} {keyId : String}
    (built : removeTrustedKey cfg segment keyId = .ok handler) : handler.Guards fine := by
  refine trustRootMutation_guards shared reads (fun ctx revision current => ?_) built
  dsimp only
  split
  · exact only_ask (writes ctx _ _ _ ⟨0, rfl⟩) fun _ => trivial
  · exact only_commitJournal (shared ctx) ⟨0, rfl⟩

end Grants

section Policies

variable (reads : ∀ ctx envId, fine ctx (.loadTrustRoot envId))
variable (prices : ∀ ctx env pin artifact root journal, Advances cfg ctx pin journal →
  fine ctx (.updateEnvWithRevenuePolicy env pin artifact root (some journal)))
include reads prices

theorem only_commitPolicy {ctx : Context} {clientEtag : Option StateEtag} {loaded : EnvRevision}
    {env : Environment} {index : Nat} :
    (commitPolicy cfg ctx clientEtag loaded env index).run.Only (fine ctx) := by
  refine only_lift fun deployment _ => ?_
  have built : (buildRevenuePolicy cfg ctx deployment).run.Only (fine ctx) :=
    only_ask (reads ctx _) fun loadedRoot => only_lift fun _ _ => only_lift fun _ _ =>
      only_lift fun _ _ => trivial
  exact .andThen built fun pending => only_lift fun _ computed =>
    only_ask (prices ctx _ _ _ _ _ (.next computed)) fun _ => trivial

variable (shared : ∀ ctx call, usual cfg ctx call → fine ctx call)
include shared

theorem addBundle_guards {segment : Segment EnvId} {payload : AddBundlePayload}
    (built : addBundle cfg head segment payload = .ok handler) : handler.Guards fine := by
  obtain ⟨id, _, built⟩ := bind_ok built
  cases built
  intro headers body entered ctx
  obtain ⟨clientEtag, _, entered⟩ := bind_ok entered
  cases entered
  refine .gated (only_loadEnvironment (shared ctx) fun loaded => ?_)
  split
  · exact trivial
  · exact only_commitPolicy reads prices

theorem updateBundle_guards {segment : Segment EnvId} {deploymentId : Segment DeploymentId}
    {payload : UpdateBundlePayload}
    (built : updateBundle cfg segment deploymentId payload = .ok handler) :
    handler.Guards fine := by
  obtain ⟨id, _, built⟩ := bind_ok built
  cases built
  intro headers body entered ctx
  obtain ⟨clientEtag, _, entered⟩ := bind_ok entered
  obtain ⟨_, _, entered⟩ := bind_ok entered
  obtain ⟨_, _, entered⟩ := bind_ok entered
  cases entered
  refine .gated (only_loadEnvironment (shared ctx) fun loaded => ?_)
  split
  · exact trivial
  · split
    · exact only_commitPolicy reads prices
    · exact only_lift fun deployment _ => only_lift fun _ computed =>
        only_commitUpdate (shared ctx) (.next computed)

end Policies

/-- The verbs that write a trust root. -/
def Mutation.keeper : Mutation V → Bool
  | .bootstrapTrustRoot _ => true
  | .seedTrustRoot _ => true
  | .addTrustedKey .. => true
  | .removeTrustedKey .. => true
  | _ => false

structure Mutation.Allows (cfg : Config V) (mutation : Mutation V)
    (fine : Context → Call V → Prop) : Prop where
  shared : ∀ ctx call, usual cfg ctx call → fine ctx call
  reads : mutation.rooted = true → ∀ ctx envId, fine ctx (.loadTrustRoot envId)
  writes : mutation.keeper = true → ∀ ctx doc pin journal, MintedBy ctx.head journal →
    fine ctx (.upsertTrustRoot ctx.envId doc pin (some journal))
  prices : mutation.rooted = true → ∀ ctx env pin artifact root journal,
    Advances cfg ctx pin journal →
    fine ctx (.updateEnvWithRevenuePolicy env pin artifact root (some journal))
  captures : ∀ segment, mutation = .createBackup segment → ∀ ctx envId,
    fine ctx (.loadEnvSnapshot envId)
  stores : ∀ segment, mutation = .createBackup segment → ∀ ctx backup journal,
    backup.snapshotDigest = cfg.json.sha256Of backup.state → fine ctx (.createBackup backup journal)
  deletes : ∀ segment id, mutation = .deleteBackup segment id → ∀ ctx envId journal,
    MintedBy ctx.head journal → fine ctx (.deleteBackup envId id (some journal))
  imports : ∀ segment artifact, mutation = .importEnvironment segment artifact →
    ∀ ctx snapshot journal, cfg.json.snapshot.fromValue artifact.snapshot = .ok snapshot →
    Records cfg ctx none 1 journal → fine ctx (.importEnv ctx.envId snapshot (some journal))
  loads : ∀ segment id pin, mutation = .restoreEnvironment segment id pin → ∀ ctx envId,
    fine ctx (.loadBackup envId id)
  restores : ∀ segment id pin, mutation = .restoreEnvironment segment id pin →
    ∀ ctx envId snapshot pin journal, Advances cfg ctx pin journal →
    fine ctx (.restoreEnv envId snapshot pin (some journal))

theorem handler_guards {mutation : Mutation V} (allows : mutation.Allows cfg fine)
    (built : mutation.handler cfg head = .ok handler) : handler.Guards fine := by
  have shared := allows.shared
  cases mutation with
  | createEnvironment payload =>
      cases built
      rintro headers body ⟨⟩ ctx
      exact .gated (only_lift fun _ computed => only_commitCreate (shared ctx) (.first computed))
  | updateEnvironment envId patch =>
      obtain ⟨id, _, built⟩ := bind_ok built
      cases built
      exact engineMutation_guards shared
  | reconcileEnvironment envId => exact reconcileEnvironment_guards shared built
  | completeReconcile envId completion => exact completeReconcile_guards shared built
  | migrateBindings envId payload => exact migrateBindings_guards shared built
  | stageRevision envId payload =>
      obtain ⟨id, _, built⟩ := bind_ok built
      cases built
      exact engineMutation_guards shared
  | warmRevision envId revisionId payload =>
      obtain ⟨_, _, built⟩ := bind_ok built
      obtain ⟨_, _, built⟩ := bind_ok built
      exact revisionTransition_guards shared built
  | drainRevision envId revisionId =>
      obtain ⟨_, _, built⟩ := bind_ok built
      exact revisionTransition_guards shared built
  | archiveRevision envId revisionId =>
      obtain ⟨_, _, built⟩ := bind_ok built
      exact revisionTransition_guards shared built
  | setTrafficSplit envId payload =>
      obtain ⟨_, _, built⟩ := bind_ok built
      cases built
      exact engineMutation_guards shared
  | rollbackTrafficSplit envId deploymentId =>
      obtain ⟨_, _, built⟩ := bind_ok built
      cases built
      exact engineMutation_guards shared
  | addPackBinding envId binding => exact bindingMutation_guards shared built
  | updatePackBinding envId slot binding =>
      obtain ⟨_, _, built⟩ := bind_ok built
      exact bindingMutation_guards shared built
  | removePackBinding envId slot =>
      obtain ⟨_, _, built⟩ := bind_ok built
      exact bindingMutation_guards shared built
  | rollbackPackBinding envId slot =>
      obtain ⟨_, _, built⟩ := bind_ok built
      exact bindingMutation_guards shared built
  | addExtensionBinding envId binding => exact bindingMutation_guards shared built
  | updateExtensionBinding envId key binding =>
      cases binding with
      | none => cases built
      | some binding => exact bindingMutation_guards shared built
  | removeExtensionBinding envId key => exact bindingMutation_guards shared built
  | rollbackExtensionBinding envId key => exact bindingMutation_guards shared built
  | addMessagingEndpoint envId payload => exact messagingMutation_guards shared built
  | linkMessagingBundle envId endpointId bundleId updatedBy =>
      obtain ⟨_, _, built⟩ := bind_ok built
      exact messagingMutation_guards shared built
  | unlinkMessagingBundle envId endpointId bundleId updatedBy =>
      obtain ⟨_, _, built⟩ := bind_ok built
      exact messagingMutation_guards shared built
  | setMessagingWelcomeFlow envId endpointId payload =>
      obtain ⟨_, _, built⟩ := bind_ok built
      obtain ⟨_, _, built⟩ := bind_ok built
      exact messagingMutation_guards shared built
  | removeMessagingEndpoint envId endpointId =>
      obtain ⟨_, _, built⟩ := bind_ok built
      exact messagingMutation_guards shared built
  | rotateMessagingWebhookSecret envId endpointId updatedBy newRef =>
      obtain ⟨_, _, built⟩ := bind_ok built
      exact messagingMutation_guards shared built
  | addBundle envId payload =>
      exact addBundle_guards (allows.reads rfl) (allows.prices rfl) shared built
  | updateBundle envId deploymentId payload =>
      exact updateBundle_guards (allows.reads rfl) (allows.prices rfl) shared built
  | removeBundle envId deploymentId => exact removeBundle_guards shared built
  | bootstrapTrustRoot envId =>
      exact bootstrapTrustRoot_guards (allows.reads rfl) (allows.writes rfl) shared built
  | seedTrustRoot envId =>
      exact seedTrustRoot_guards (allows.reads rfl) (allows.writes rfl) shared built
  | addTrustedKey envId key =>
      exact addTrustedKey_guards (allows.reads rfl) (allows.writes rfl) shared built
  | removeTrustedKey envId keyId =>
      exact removeTrustedKey_guards (allows.reads rfl) (allows.writes rfl) shared built
  | createBackup envId =>
      exact createBackup_guards (allows.captures envId rfl) (allows.stores envId rfl) built
  | deleteBackup envId backupId =>
      exact deleteBackup_guards shared (allows.deletes envId backupId rfl) built
  | importEnvironment envId artifact =>
      exact importEnvironment_guards (allows.imports envId artifact rfl) built
  | restoreEnvironment envId backupId precondition =>
      exact restoreEnvironment_guards shared (allows.loads envId backupId precondition rfl)
        (allows.restores envId backupId precondition rfl) built

theorem Mutation.keeper_rooted {mutation : Mutation V} (keeper : mutation.keeper = true) :
    mutation.rooted = true := by
  cases mutation <;> first | rfl | cases keeper

theorem handler_makes {mutation : Mutation V} (built : mutation.handler cfg head = .ok handler) :
    handler.Makes (mutation.makes cfg) := by
  have allows : mutation.Allows cfg fun _ => mutation.makes cfg := {
    shared := fun _ _ made => Mutation.makes_common (common_of_usual made)
    reads := fun rooted _ _ => rooted
    writes := fun keeper _ _ _ _ _ => Mutation.keeper_rooted keeper
    prices := fun rooted _ _ _ _ _ _ _ => rooted
    captures := fun segment same _ _ => ⟨segment, same⟩
    stores := fun segment same _ _ _ sealed => ⟨⟨segment, same⟩, sealed⟩
    deletes := fun segment _ same _ _ _ _ => ⟨segment, same⟩
    imports := fun segment artifact same _ _ _ _ _ => ⟨segment, artifact, same⟩
    loads := fun segment _ pin same _ _ => ⟨segment, pin, same⟩
    restores := fun segment id pin same _ _ _ _ _ _ => ⟨segment, id, pin, same⟩ }
  exact fun headers body entered ctx =>
    (handler_guards allows built headers body entered ctx).only fun _ _ =>
      Mutation.makes_common trivial

end Handlers

/-- The audit row of a refusal: what the policy denies this request, on an
environment it names. -/
structure Denied (cfg : Config V) (request : Request V) (envId : EnvId) (eventId : String)
    (event : V) : Prop where
  minted : eventId = request.head.eventId 0
  denied : ∃ noun verb denial, cfg.rbac.authorizeMutation (bearerToken request.head.headers) envId
      noun verb = .error denial ∧ denial.authenticated = true ∧
    event = cfg.json.auditEvent (denialEvent request.head envId noun verb denial)

/-- The calls a request makes: the audit of its denial, the read of an export, and
those of its mutation. -/
inductive Request.Makes (cfg : Config V) (request : Request V) : Call V → Prop
  | denial {envId eventId event} (denied : Denied cfg request envId eventId event) :
      Makes cfg request (.recordAudit envId eventId event)
  | read {envId id} (routed : request.route = .exportBackup (.ok envId) id) :
      Makes cfg request (.loadBackup envId id)
  | behind {mutation call} (routed : request.route = .mutate mutation)
      (made : mutation.makes cfg call) : Makes cfg request call

variable {cfg : Config V} {request : Request V}

theorem only_authorizeMutation {β : Type} {envId : EnvId} {noun verb : String}
    {f : AuthContext → Handling V β}
    (rest : ∀ auth, (f auth).run.Only (request.Makes cfg)) :
    (authorizeMutation cfg request.head envId noun verb >>= f).run.Only (request.Makes cfg) := by
  unfold authorizeMutation
  split
  · exact only_lift fun auth _ => rest auth
  · rename_i denial decided
    dsimp only
    split
    · rename_i known
      exact only_ask (.denial ⟨rfl, noun, verb, denial, decided, known, rfl⟩) rest
    · exact trivial

theorem serve_makes (cfg : Config V) (request : Request V) :
    (serve cfg request).Only (request.Makes cfg) := by
  unfold serve
  cases routed : request.route with
  | exportBackup segment id =>
      refine only_lift fun envId parsed => only_authorizeMutation fun auth => ?_
      have named : segment = .ok envId := mapError_ok parsed
      exact .andThen ⟨.read (named ▸ routed), fun _ => trivial⟩ fun _ => trivial
  | mutate mutation =>
      dsimp only
      have looks : ∀ envId key, request.Makes cfg (.lookupIdempotency envId key) := fun _ _ =>
        .behind routed (mutation.makes_common trivial)
      cases built : mutation.handler cfg request.head with
      | error e => exact trivial
      | ok handler =>
          refine only_authorizeMutation fun auth => only_lift fun idemKey _ =>
            only_lift fun body entered => .andThen (only_replayGate looks) fun gate => ?_
          cases gate with
          | some replay => exact trivial
          | none =>
              exact (handler_makes built _ body entered _).mono fun _ made => .behind routed made

end GreenticDeployer.Server
