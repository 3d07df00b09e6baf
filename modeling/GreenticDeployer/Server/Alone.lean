import GreenticDeployer.Server.IfMatch
import GreenticDeployer.Store.Preconditions

/-!
# A request with the store to itself

While no other request makes a call, what a handler loads is what its write meets.
A request that carries no etag, or the current one, then fails no precondition.
-/

set_option maxHeartbeats 200000

namespace GreenticDeployer.Server

open Spec Engine Store Trust Lib

variable {V : Type} {cfg : Config V} {request : Request V} {cap : Option Nat}

def RemoteStoreError.stale : RemoteStoreError → Bool
  | .preconditionFailed _ => true
  | _ => false

/-- The outcome of a request that failed no precondition. -/
def Passes {α : Type} (outcome : Except RemoteStoreError α) : Prop :=
  ∀ e, outcome = .error e → e.stale = false

theorem mapStorageError_stale (e : StorageError) : (mapStorageError e).stale = e.stale := by
  cases e <;> rfl

theorem loadStorageError_stale (e : StorageError) (fresh : e.stale = false) :
    (loadStorageError e).stale = false := by
  cases e <;> first | rfl | cases fresh

section Outcomes

variable {α β : Type}

theorem Passes.ok (a : α) : Passes (.ok a) := fun _ failed => by cases failed

theorem Passes.error {e : RemoteStoreError} (other : e.stale = false) :
    Passes (.error e : Except RemoteStoreError α) := fun _ failed => by
  cases failed
  exact other

theorem Passes.retype {e : RemoteStoreError} (passes : Passes (.error e : Except _ α)) :
    Passes (.error e : Except RemoteStoreError β) := .error (passes e rfl)

theorem Passes.bind {x : Except RemoteStoreError α} {f : α → Except RemoteStoreError β}
    (first : Passes x) (rest : ∀ a, Passes (f a)) : Passes (x >>= f) := by
  intro e failed
  rcases bind_error failed with early | ⟨a, _, late⟩
  · exact first e early
  · exact rest a e late

theorem Passes.mapError {ε : Type} {x : Except ε α} {onError : ε → RemoteStoreError}
    (others : ∀ e, (onError e).stale = false) : Passes (x.mapError onError) := by
  cases x with
  | ok a => exact .ok a
  | error e => exact .error (others e)

theorem Passes.ensure {condition : Prop} [Decidable condition] {e : RemoteStoreError}
    (other : e.stale = false) : Passes (Lib.ensure condition e) := by
  unfold Lib.ensure
  split
  · exact .ok ()
  · exact .error other

end Outcomes

/-- The rest of the request, from here on with no other in between, fails no
precondition. -/
abbrev Unrefused {α : Type} (cfg : Config V) (request : Request V) (cap : Option Nat)
    (k : Known V) (db : Db V (ResponseBody V)) (program : Handling V α) : Prop :=
  program.run.Alone (permits cfg request) learn
    (fun now db call => execute cfg.json cfg.ext ⟨cap, now⟩ db call)
    (fun _ _ outcome => Passes outcome) k db

section Statements

variable {α β : Type} {ctx : Context} {k : Known V} {db : Db V (ResponseBody V)}

theorem unrefused_lift {outcome : Except RemoteStoreError α} {f : α → Handling V β}
    (passes : Passes outcome) (rest : ∀ a, outcome = .ok a → Unrefused cfg request cap k db (f a)) :
    Unrefused cfg request cap k db (Program.lift outcome >>= f) :=
  Program.Alone.liftThen (fun e failed => .error (passes e failed)) rest

theorem unrefused_ask {call : Call V} {sort : call.Reply → Except RemoteStoreError α}
    {f : α → Handling V β}
    (passes : permits cfg request k call → ∀ now,
      Passes (sort (execute cfg.json cfg.ext ⟨cap, now⟩ db call).1))
    (rest : permits cfg request k call → ∀ now a,
      sort (execute cfg.json cfg.ext ⟨cap, now⟩ db call).1 = .ok a →
        Unrefused cfg request cap (learn k call (execute cfg.json cfg.ext ⟨cap, now⟩ db call).1)
          (execute cfg.json cfg.ext ⟨cap, now⟩ db call).2 (f a)) :
    Unrefused cfg request cap k db (Program.ask call sort >>= f) := by
  intro may now
  show Program.Alone _ _ _ _ _ _ (Program.bind (.done (sort _)) (ExceptT.bindCont f))
  cases sorted : sort (execute cfg.json cfg.ext ⟨cap, now⟩ db call).1 with
  | ok a => exact rest may now a sorted
  | error e => exact .error (passes may now e sorted)

theorem unrefused_attempt {call : Call V} {f : call.Reply → Handling V β}
    (fails : ∀ now e, (execute cfg.json cfg.ext ⟨cap, now⟩ db call).1 = .error e →
      Unrefused cfg request cap k db (f (.error e)))
    (succeeds : ∀ now result mid, transaction cfg.json cfg.ext ⟨cap, now⟩ db call =
        .ok (result, mid) → Unrefused cfg request cap (learn k call (.ok result)) mid
          (f (.ok result))) :
    Unrefused cfg request cap k db (attempt call >>= f) := by
  intro may now
  show Unrefused cfg request cap (learn k call (execute cfg.json cfg.ext ⟨cap, now⟩ db call).1)
    (execute cfg.json cfg.ext ⟨cap, now⟩ db call).2
    (f (execute cfg.json cfg.ext ⟨cap, now⟩ db call).1)
  rcases execute_cases cfg.json cfg.ext ⟨cap, now⟩ db call with
    ⟨result, done, replied⟩ | ⟨e, replied, same⟩
  · rw [replied]
    exact succeeds now result _ done
  · rw [replied, same, learn_error]
    exact fails now e replied

theorem passes_reply {τ : Type} {reply : Except StorageError τ} (unstale : Unstale reply) :
    Passes (reply.mapError mapStorageError) := by
  cases reply with
  | ok value => exact .ok value
  | error e => exact .error ((mapStorageError_stale e).trans (unstale e rfl))

theorem passes_loaded {τ : Type} {reply : Except StorageError τ} (unstale : Unstale reply) :
    Passes (reply.mapError loadStorageError) := by
  cases reply with
  | ok value => exact .ok value
  | error e => exact .error (loadStorageError_stale e (unstale e rfl))

theorem unrefused_last {call : Call V} {prepared : PreparedMutation V}
    (unstale : permits cfg request k call → ∀ now,
      Unstale (execute cfg.json cfg.ext ⟨cap, now⟩ db call).1) :
    Unrefused cfg request cap k db (do
      let _ ← ask call mapStorageError
      return prepared.intoResponse) :=
  unrefused_ask (fun may now => passes_reply (unstale may now)) fun _ _ _ _ => .ok _

theorem unrefused_loadEnvironment {f : Loaded Environment → Handling V β}
    (rest : ∀ loaded, Store.loadEnv cfg.json cfg.ext db ctx.envId = .ok loaded →
      Unrefused cfg request cap { k with loaded := some loaded } db (f loaded)) :
    Unrefused cfg request cap k db (loadEnvironment ctx >>= f) := by
  refine unrefused_ask (fun _ now => passes_loaded (unstale_unpinned rfl)) ?_
  intro _ now loaded returned
  have replied := mapError_ok returned
  rcases execute_cases cfg.json cfg.ext ⟨cap, now⟩ db (.loadEnv ctx.envId) with
    ⟨result, done, value⟩ | ⟨e, failed, _⟩
  · obtain ⟨read, same⟩ := readOnly_ok done
    rw [value] at replied
    cases replied
    rw [value, same]
    exact rest _ read
  · rw [failed] at replied
    cases replied

theorem unrefused_loadTrustRoot {f : Option (Loaded TrustRootDocument) → Handling V β}
    (rest : ∀ current, Store.loadTrustRoot cfg.json db ctx.envId = .ok current →
      Unrefused cfg request cap k db (f current)) :
    Unrefused cfg request cap k db (loadTrustRootRow ctx >>= f) := by
  refine unrefused_ask (fun _ now => passes_loaded (unstale_unpinned rfl)) ?_
  intro _ now current returned
  have replied := mapError_ok returned
  rcases execute_cases cfg.json cfg.ext ⟨cap, now⟩ db (.loadTrustRoot ctx.envId) with
    ⟨result, done, value⟩ | ⟨e, failed, _⟩
  · obtain ⟨read, same⟩ := readOnly_ok done
    rw [value] at replied
    cases replied
    rw [value, same]
    exact rest _ read
  · rw [failed] at replied
    cases replied

/-- A body that passes leaves the ledger nothing stale to answer. -/
theorem unrefused_withReplay {body : Handling V (Response V)}
    (unrefused : Unrefused cfg request cap k db body) :
    Unrefused cfg request cap k db (withReplay ctx body) := by
  refine Program.Alone.rescue unrefused (fun _ _ _ passes => passes) ?_
  intro k later e passes _ now
  dsimp only [Program.bind]
  split
  · exact .ok _
  · exact passes

/-- An etag that is sent is the current one. -/
def UpToDate (db : Db V (ResponseBody V)) (envId : EnvId) (clientEtag : Option StateEtag) : Prop :=
  ∀ etag, clientEtag = some etag → currentEtag db envId = some etag

variable {loaded : Loaded Environment} {clientEtag : Option StateEtag}

theorem meets_loaded (read : Store.loadEnv cfg.json cfg.ext db ctx.envId = .ok loaded)
    (upToDate : UpToDate db ctx.envId clientEtag) :
    MeetsRow db ctx.envId (resolvePrecondition clientEtag loaded.revision) := by
  obtain ⟨-, row, current, revision⟩ := loadEnv_ok read
  intro other also
  cases current.symm.trans also
  have etag : clientEtag.getD loaded.revision.etag = row.etag := by
    cases clientEtag with
    | none =>
        rw [revision]
        rfl
    | some etag =>
        have now := upToDate etag rfl
        rw [currentEtag, current, Option.map_some] at now
        exact (Option.some.inj now).symm
  have generation : loaded.revision.generation = row.generation := by
    rw [revision]
    rfl
  simp [resolvePrecondition, Precondition.check, Precondition.isConditional, etag, generation]

/-- The document a verb commits is the one it loaded, under its name. -/
theorem update_named {env : Environment} {precondition : Precondition} {journal : Journal V}
    (admitted : request.admission cfg = some ctx) (known : k.loaded = some loaded)
    (read : Store.loadEnv cfg.json cfg.ext db ctx.envId = .ok loaded)
    (may : permits cfg request k (.updateEnv env precondition (some journal))) :
    env.environmentId = ctx.envId := by
  cases permits_of_admission may admitted with
  | update other pinned transforms journaled =>
      cases known.symm.trans other
      exact transforms.environmentId.trans (loadEnv_ok read).1

theorem policy_named {env : Environment} {precondition : Precondition}
    {artifact : RevenuePolicyArtifact} {trustRootPin : Option EnvRevision} {journal : Journal V}
    (admitted : request.admission cfg = some ctx) (known : k.loaded = some loaded)
    (read : Store.loadEnv cfg.json cfg.ext db ctx.envId = .ok loaded)
    (may : permits cfg request k
      (.updateEnvWithRevenuePolicy env precondition artifact trustRootPin (some journal))) :
    env.environmentId = ctx.envId := by
  cases permits_of_admission may admitted with
  | policy other pinned transforms priced journaled =>
      cases known.symm.trans other
      exact transforms.environmentId.trans (loadEnv_ok read).1

theorem unrefused_commitUpdate {env : Environment} {prepared : PreparedMutation V}
    (admitted : request.admission cfg = some ctx) (known : k.loaded = some loaded)
    (read : Store.loadEnv cfg.json cfg.ext db ctx.envId = .ok loaded)
    (upToDate : UpToDate db ctx.envId clientEtag) :
    Unrefused cfg request cap k db (commitUpdate clientEtag loaded.revision env prepared) := by
  refine unrefused_last fun may now => unstale_updateEnv ?_
  rw [update_named admitted known read may]
  exact meets_loaded read upToDate

theorem unrefused_commitJournal {prepared : PreparedMutation V} :
    Unrefused cfg request cap k db (commitJournal prepared) :=
  unrefused_last fun _ _ => unstale_unpinned rfl

theorem unrefused_commitCreate {env : Environment} {prepared : PreparedMutation V} :
    Unrefused cfg request cap k db (commitCreate env prepared) :=
  unrefused_last fun _ _ => unstale_unpinned rfl

theorem passes_contentEtag (env : Environment) : Passes (contentEtag cfg env) := by
  unfold contentEtag
  split
  · exact .error rfl
  · exact .ok _

theorem passes_nextRevision (env : Environment) (revision : EnvRevision) :
    Passes (nextRevision cfg env revision) := by
  have content : Passes (contentEtag cfg env) := passes_contentEtag env
  unfold nextRevision
  cases outcome : contentEtag cfg env with
  | ok etag => exact .ok _
  | error e => exact .error (content e outcome)

theorem passes_createdRevision (env : Environment) : Passes (createdRevision cfg env) := by
  have content : Passes (contentEtag cfg env) := passes_contentEtag env
  unfold createdRevision
  cases outcome : contentEtag cfg env with
  | ok etag => exact .ok _
  | error e => exact .error (content e outcome)

theorem unrefused_mutateLoaded {apply : Environment → Except RemoteStoreError Change}
    (admitted : request.admission cfg = some ctx) (upToDate : UpToDate db ctx.envId clientEtag)
    (passes : ∀ env, Passes (apply env)) :
    Unrefused cfg request cap k db (mutateLoaded cfg ctx clientEtag apply) := by
  refine unrefused_loadEnvironment fun loaded read => ?_
  refine unrefused_lift (passes loaded.value) fun change _ => ?_
  cases change with
  | write env result =>
      refine unrefused_lift (passes_nextRevision _ _) fun next _ => ?_
      exact unrefused_commitUpdate admitted rfl read upToDate
  | keep result => exact unrefused_commitJournal

theorem ofRevision_stale (e : RevisionLifecycleError) :
    (RemoteStoreError.ofRevision e).stale = false := by
  cases e <;> rfl

theorem unrefused_transitionLoaded
    {apply : Environment → Outcome RevisionLifecycleError RevisionTransition}
    (admitted : request.admission cfg = some ctx) (upToDate : UpToDate db ctx.envId clientEtag) :
    Unrefused cfg request cap k db (transitionLoaded cfg ctx clientEtag apply) := by
  refine unrefused_loadEnvironment fun loaded read => ?_
  split
  · refine unrefused_lift (passes_nextRevision _ _) fun next _ => ?_
    exact unrefused_commitUpdate admitted rfl read upToDate
  · refine unrefused_lift (passes_nextRevision _ _) fun next _ => ?_
    exact unrefused_commitUpdate admitted rfl read upToDate
  · exact .error (ofRevision_stale _)

theorem ofRevenuePolicy_stale (envId : EnvId) (e : RevenuePolicyError) :
    (RemoteStoreError.ofRevenuePolicy envId e).stale = false := by
  cases e <;> rfl

theorem ofTrustRoot_stale (e : TrustRootDocError) :
    (RemoteStoreError.ofTrustRoot e).stale = false := by
  cases e <;> rfl

theorem passes_trustRootOf (current : Option (Loaded TrustRootDocument)) :
    Passes (trustRootOf current) := by
  cases current with
  | none => exact .ok _
  | some current => exact .mapError ofTrustRoot_stale

theorem passes_operatorKey (head : Head) : Passes (loadServerOperatorKey head) := by
  unfold loadServerOperatorKey
  split
  · exact .ok _
  · exact .error rfl

theorem passes_deploymentAt (env : Environment) (index : Nat) :
    Passes (deploymentAt env index) := by
  unfold deploymentAt
  split
  · exact .ok _
  · exact .error rfl

/-- A read of the trust root leaves the store and what the request knows alone. -/
theorem execute_root_kept (cfg : Config V) (cap : Option Nat) (ctx : Context) (k : Known V)
    (db : Db V (ResponseBody V)) (now : Timestamp) :
    learn k (.loadTrustRoot ctx.envId)
        (execute cfg.json cfg.ext ⟨cap, now⟩ db (.loadTrustRoot ctx.envId)).1 = k ∧
      (execute cfg.json cfg.ext ⟨cap, now⟩ db (.loadTrustRoot ctx.envId)).2 = db := by
  rcases execute_cases cfg.json cfg.ext ⟨cap, now⟩ db (.loadTrustRoot ctx.envId) with
    ⟨result, done, value⟩ | ⟨e, failed, same⟩
  · rw [value]
    exact ⟨rfl, (readOnly_ok done).2⟩
  · rw [failed]
    exact ⟨rfl, same⟩

theorem unrefused_buildRevenuePolicy {deployment : BundleDeployment}
    {f : PendingRevenuePolicy → Handling V (Response V)}
    (rest : ∀ pending, Unrefused cfg request cap k db (f pending)) :
    Unrefused cfg request cap k db (buildRevenuePolicy cfg ctx deployment >>= f) := by
  have built : (buildRevenuePolicy cfg ctx deployment).run.Alone (permits cfg request) learn
      (fun now db call => execute cfg.json cfg.ext ⟨cap, now⟩ db call)
      (fun later mid outcome => later = k ∧ mid = db ∧ Passes outcome) k db := by
    intro _ now
    obtain ⟨same, unchanged⟩ := execute_root_kept cfg cap ctx k db now
    have unstale : Passes ((execute cfg.json cfg.ext ⟨cap, now⟩ db
        (.loadTrustRoot ctx.envId)).1.mapError loadStorageError) :=
      passes_loaded (unstale_unpinned rfl)
    rw [same, unchanged]
    generalize (execute cfg.json cfg.ext ⟨cap, now⟩ db (.loadTrustRoot ctx.envId)).1 = reply
      at unstale ⊢
    cases reply with
    | error e => exact ⟨rfl, rfl, .error (unstale _ rfl)⟩
    | ok root =>
        refine Program.Alone.liftThen (fun e failed => ⟨rfl, rfl, .error ?_⟩) fun trustRoot _ => ?_
        · exact passes_trustRootOf root e failed
        refine Program.Alone.liftThen (fun e failed => ⟨rfl, rfl, .error ?_⟩) fun operatorKey _ => ?_
        · exact passes_operatorKey ctx.head e failed
        refine Program.Alone.liftThen (fun e failed => ⟨rfl, rfl, .error ?_⟩) fun built _ =>
          ⟨rfl, rfl, .ok _⟩
        exact Passes.mapError (ofRevenuePolicy_stale ctx.envId) e failed
  refine Program.Alone.andThen built (fun _ _ _ reached => reached.2.2.retype) ?_
  rintro later mid pending ⟨same, unchanged, -⟩
  rw [same, unchanged]
  exact rest pending

theorem unrefused_commitPolicy {env : Environment} {index : Nat}
    (admitted : request.admission cfg = some ctx) (known : k.loaded = some loaded)
    (read : Store.loadEnv cfg.json cfg.ext db ctx.envId = .ok loaded)
    (upToDate : UpToDate db ctx.envId clientEtag) :
    Unrefused cfg request cap k db
      (commitPolicy cfg ctx clientEtag loaded.revision env index) := by
  refine unrefused_lift (passes_deploymentAt _ _) fun deployment _ => ?_
  refine unrefused_buildRevenuePolicy fun pending => ?_
  refine unrefused_lift (passes_nextRevision _ _) fun next _ => ?_
  refine unrefused_last fun may now => unstale_updatePolicy ?_
  rw [policy_named admitted known read may]
  exact meets_loaded read upToDate

theorem ofBundle_stale (e : BundleError) : (RemoteStoreError.ofBundle e).stale = false := by
  cases e <;> rfl

theorem unrefused_updateLoadedBundle {payload : UpdateBundlePayload}
    (admitted : request.admission cfg = some ctx) (upToDate : UpToDate db ctx.envId clientEtag) :
    Unrefused cfg request cap k db (updateLoadedBundle cfg ctx clientEtag payload) := by
  refine unrefused_loadEnvironment fun loaded read => ?_
  split
  · exact .error (ofBundle_stale _)
  · split
    · exact unrefused_commitPolicy admitted rfl read upToDate
    · refine unrefused_lift (passes_deploymentAt _ _) fun deployment _ => ?_
      refine unrefused_lift (passes_nextRevision _ _) fun next _ => ?_
      exact unrefused_commitUpdate admitted rfl read upToDate

theorem meets_loadedRoot {current : Option (Loaded TrustRootDocument)}
    (read : Store.loadTrustRoot cfg.json db ctx.envId = .ok current) :
    MeetsRoot db ctx.envId (docAndPrecondition current).2 := by
  have revision := loadTrustRoot_ok read
  intro row present pin pinned
  rw [present] at revision
  cases current with
  | none => cases pinned
  | some current =>
      cases pinned
      have own : current.revision = row.revision := Option.some.inj revision
      have etag : current.revision.etag = row.etag := congrArg EnvRevision.etag own
      have generation : current.revision.generation = row.generation :=
        congrArg EnvRevision.generation own
      simp [Precondition.pinning, Precondition.check, Precondition.isConditional, etag, generation]

/-- A first write that finds a row meanwhile reads it again before its second attempt. -/
theorem unrefused_persistTrustRootMutation {onRace : FirstWriteRace}
    {mutate : TrustRootDocument → TrustRootDocument}
    {prepare : Nat → TrustRootDocument → PreparedMutation V} (attempts : Nat)
    {current : Option (Loaded TrustRootDocument)}
    (read : Store.loadTrustRoot cfg.json db ctx.envId = .ok current) :
    Unrefused cfg request cap k db
      (persistTrustRootMutation ctx onRace mutate prepare attempts current) := by
  induction attempts generalizing current with
  | zero => exact .error rfl
  | succ attempts ih =>
      have again : Unrefused cfg request cap k db (loadTrustRootRow ctx >>=
          persistTrustRootMutation ctx onRace mutate prepare attempts) :=
        unrefused_loadTrustRoot fun reloaded reread => ih reread
      refine unrefused_attempt (fun now e failed => ?_) fun _ _ _ _ => .ok _
      have fresh := unstale_upsertTrustRoot (meets_loadedRoot read) e failed
      cases e with
      | preconditionFailed envId conflict => cases fresh
      | preconditionRequired =>
          cases current with
          | some loaded => exact .error rfl
          | none =>
              cases onRace with
              | noOp => exact .ok _
              | retry => exact again
      | _ => exact .error rfl

theorem passes_checkTrustedKey (key : TrustedKey) : Passes (checkTrustedKey cfg key) :=
  .mapError ofTrustRoot_stale

theorem unrefused_grantOperatorKey {onRace : FirstWriteRace}
    {prepare : Nat → TrustRootSeed → PreparedMutation V}
    {current : Option (Loaded TrustRootDocument)}
    (read : Store.loadTrustRoot cfg.json db ctx.envId = .ok current) :
    Unrefused cfg request cap k db (grantOperatorKey cfg ctx current onRace prepare) := by
  refine unrefused_lift (passes_operatorKey _) fun opKey _ => ?_
  refine unrefused_lift (passes_checkTrustedKey _) fun entry _ => ?_
  exact unrefused_persistTrustRootMutation 2 read

/-- What a handler makes of a trust-root write that passed. -/
theorem unrefused_persisted {granting : Handling V (Option (PreparedMutation V))}
    {f : Option (PreparedMutation V) → Handling V (Response V)}
    (grants : Unrefused cfg request cap k db granting)
    (rest : ∀ k db granted, Unrefused cfg request cap k db (f granted)) :
    Unrefused cfg request cap k db (granting >>= f) :=
  Program.Alone.andThen grants (fun _ _ _ passes => passes.retype)
    fun k db granted _ => rest k db granted

theorem unrefused_expectPersisted (granted : Option (PreparedMutation V)) :
    Unrefused cfg request cap k db (expectPersisted granted) := by
  cases granted with
  | some prepared => exact .ok _
  | none => exact .error rfl

end Statements

/-- An admitted request fails no precondition from the body of its handler on. -/
def Handler.Unrefused (cfg : Config V) (request : Request V) (handler : Handler V) : Prop :=
  ∀ ctx body (cap : Option Nat) k db, request.admission cfg = some ctx →
    handler.enter request.head.headers = .ok body →
    (∀ etag, parseIfMatch request.head.headers = .ok (some etag) →
      currentEtag db ctx.envId = some etag) →
    Server.Unrefused cfg request cap k db (body ctx)

section Handlers

variable {handler : Handler V} {segment : Segment EnvId}

theorem upToDate_of_parsed {headers : HeaderMap} {db : Db V (ResponseBody V)} {envId : EnvId}
    {clientEtag : Option StateEtag} (parsed : parseIfMatch headers = .ok clientEtag)
    (current : ∀ etag, parseIfMatch headers = .ok (some etag) → currentEtag db envId = some etag) :
    UpToDate db envId clientEtag := by
  intro etag carried
  exact current etag (carried ▸ parsed)

theorem engineMutation_unrefused {envId : EnvId} {noun verb : String}
    {apply : IdempotencyKey → Environment → Except RemoteStoreError Change}
    (passes : ∀ key env, Passes (apply key env)) :
    (engineMutation cfg envId noun verb apply).Unrefused cfg request := by
  intro ctx body cap k db admitted entered current
  obtain ⟨clientEtag, parsed, entered⟩ := bind_ok entered
  cases entered
  have upToDate := upToDate_of_parsed parsed current
  exact unrefused_withReplay (unrefused_mutateLoaded admitted upToDate (passes ctx.idemKey))

theorem writeOk_passes {ε τ : Type} {onError : ε → RemoteStoreError}
    {result : τ → Environment → MutationResult} (others : ∀ e, (onError e).stale = false)
    (outcome : Outcome ε τ) : Passes (writeOk onError result outcome) := by
  obtain ⟨value | e, env⟩ := outcome
  · exact .error (others _)
  · exact .ok _

theorem writeIfMutated_passes {ε τ : Type} {onError : ε → RemoteStoreError} {mutated : τ → Bool}
    {result : τ → Environment → MutationResult} (others : ∀ e, (onError e).stale = false)
    (outcome : Outcome ε τ) : Passes (writeIfMutated onError mutated result outcome) := by
  obtain ⟨value | e, env⟩ := outcome
  · exact .error (others _)
  · exact .ok _

theorem ofTraffic_stale (e : TrafficSplitError) :
    (RemoteStoreError.ofTraffic e).stale = false := by
  cases e <;> rfl

theorem ofBinding_stale (e : BindingError) : (RemoteStoreError.ofBinding e).stale = false := by
  cases e <;> rfl

theorem ofMessaging_stale (e : MessagingError) :
    (RemoteStoreError.ofMessaging e).stale = false := by
  cases e <;> rfl

theorem revisionTransition_unrefused {verb : String}
    {apply : Environment → Outcome RevisionLifecycleError RevisionTransition}
    (built : revisionTransition cfg segment verb apply = .ok handler) :
    handler.Unrefused cfg request := by
  obtain ⟨id, _, built⟩ := bind_ok built
  cases built
  intro ctx body cap k db admitted entered current
  obtain ⟨clientEtag, parsed, entered⟩ := bind_ok entered
  cases entered
  have upToDate := upToDate_of_parsed parsed current
  exact unrefused_withReplay (unrefused_transitionLoaded admitted upToDate)

theorem bindingMutation_unrefused {τ : Type} {noun verb : String} {result : τ → MutationResult}
    {apply : Environment → Outcome BindingError τ}
    (built : bindingMutation cfg segment noun verb result apply = .ok handler) :
    handler.Unrefused cfg request := by
  obtain ⟨id, _, built⟩ := bind_ok built
  cases built
  exact engineMutation_unrefused fun _ _ => writeOk_passes ofBinding_stale _

theorem messagingMutation_unrefused {verb : String}
    {apply : IdempotencyKey → Environment → Except RemoteStoreError Change}
    (passes : ∀ key env, Passes (apply key env))
    (built : messagingMutation cfg segment verb apply = .ok handler) :
    handler.Unrefused cfg request := by
  obtain ⟨id, _, built⟩ := bind_ok built
  cases built
  exact engineMutation_unrefused passes

theorem endpointChange_passes (outcome : Outcome MessagingError MessagingApplied) :
    Passes (endpointChange outcome) := writeIfMutated_passes ofMessaging_stale outcome

theorem createEnvironment_unrefused {payload : CreateEnvironmentPayload} :
    (createEnvironment cfg payload).Unrefused cfg request := by
  rintro ctx body cap k db _ ⟨⟩ _
  exact unrefused_withReplay (unrefused_lift (passes_createdRevision _) fun created _ =>
    unrefused_commitCreate)

theorem ofEngine_stale (e : EngineError) : (RemoteStoreError.ofEngine e).stale = false := by
  cases e
  rfl

theorem passes_seededEnvironment (envId : EnvId) (payload : MigrateMergePayload) :
    Passes (seededEnvironment envId payload) := by
  unfold seededEnvironment
  split
  · exact .error (ofEngine_stale _)
  · exact .ok _

/-- A migration with a current etag finds its document. -/
theorem migrateBindings_unrefused {payload : MigrateMergePayload}
    (built : migrateBindings cfg segment payload = .ok handler) :
    handler.Unrefused cfg request := by
  obtain ⟨id, _, built⟩ := bind_ok built
  cases built
  intro ctx body cap k db admitted entered current
  obtain ⟨clientEtag, parsed, entered⟩ := bind_ok entered
  cases entered
  have upToDate := upToDate_of_parsed parsed current
  refine unrefused_withReplay (unrefused_attempt ?_ ?_)
  · intro now e failed
    have fresh : e.stale = false := unstale_unpinned rfl e failed
    cases e with
    | notFound absent =>
        have missing := execute_loadEnv_notFound failed
        refine unrefused_lift (passes_seededEnvironment _ _) fun seeded _ => ?_
        cases clientEtag with
        | none =>
            exact unrefused_lift (.ok ()) fun _ _ =>
              unrefused_lift (passes_createdRevision _) fun created _ => unrefused_commitCreate
        | some etag =>
            have there := upToDate etag rfl
            rw [currentEtag, missing] at there
            cases there
    | preconditionFailed envId conflict => cases fresh
    | _ => exact .error rfl
  · intro now loaded mid done
    obtain ⟨read, same⟩ := readOnly_ok done
    rw [same]
    refine unrefused_lift (passes_nextRevision _ _) fun next _ => ?_
    exact unrefused_commitUpdate admitted rfl read upToDate

theorem addBundle_unrefused {head : Head} {payload : AddBundlePayload}
    (built : addBundle cfg head segment payload = .ok handler) :
    handler.Unrefused cfg request := by
  obtain ⟨id, _, built⟩ := bind_ok built
  cases built
  intro ctx body cap k db admitted entered current
  obtain ⟨clientEtag, parsed, entered⟩ := bind_ok entered
  cases entered
  have upToDate := upToDate_of_parsed parsed current
  refine unrefused_withReplay (unrefused_loadEnvironment fun loaded read => ?_)
  split
  · exact .error (ofBundle_stale _)
  · exact unrefused_commitPolicy admitted rfl read upToDate

theorem updateBundle_unrefused {deploymentId : Segment DeploymentId}
    {payload : UpdateBundlePayload}
    (built : updateBundle cfg segment deploymentId payload = .ok handler) :
    handler.Unrefused cfg request := by
  obtain ⟨id, _, built⟩ := bind_ok built
  cases built
  intro ctx body cap k db admitted entered current
  obtain ⟨clientEtag, parsed, entered⟩ := bind_ok entered
  obtain ⟨_, _, entered⟩ := bind_ok entered
  obtain ⟨_, _, entered⟩ := bind_ok entered
  cases entered
  have upToDate := upToDate_of_parsed parsed current
  exact unrefused_withReplay (unrefused_updateLoadedBundle admitted upToDate)

theorem removeBundle_unrefused {deploymentId : Segment DeploymentId}
    (built : removeBundle cfg segment deploymentId = .ok handler) :
    handler.Unrefused cfg request := by
  obtain ⟨id, _, built⟩ := bind_ok built
  cases built
  intro ctx body cap k db admitted entered current
  obtain ⟨clientEtag, parsed, entered⟩ := bind_ok entered
  obtain ⟨deployment, _, entered⟩ := bind_ok entered
  cases entered
  have upToDate := upToDate_of_parsed parsed current
  exact unrefused_withReplay (unrefused_mutateLoaded admitted upToDate fun env =>
    writeOk_passes ofBundle_stale _)

theorem trustRootMutation_unrefused {verb : String}
    {inner : Context → EnvRevision → Option (Loaded TrustRootDocument) → Handling V (Response V)}
    (unrefused : ∀ ctx (cap : Option Nat) k db revision current,
      Store.loadTrustRoot cfg.json db ctx.envId = .ok current →
        Unrefused cfg request cap k db (inner ctx revision current))
    (built : trustRootMutation segment verb inner = .ok handler) :
    handler.Unrefused cfg request := by
  obtain ⟨id, _, built⟩ := bind_ok built
  cases built
  rintro ctx body cap k db _ ⟨⟩ _
  refine unrefused_loadEnvironment fun loaded _ => unrefused_loadTrustRoot fun current read => ?_
  exact unrefused_withReplay (unrefused ctx cap _ db loaded.revision current read)

theorem bootstrapTrustRoot_unrefused (built : bootstrapTrustRoot cfg segment = .ok handler) :
    handler.Unrefused cfg request :=
  trustRootMutation_unrefused (fun _ _ _ _ _ _ read =>
    unrefused_persisted (unrefused_grantOperatorKey read)
      fun _ _ granted => unrefused_expectPersisted granted) built

theorem seedTrustRoot_unrefused (built : seedTrustRoot cfg segment = .ok handler) :
    handler.Unrefused cfg request := by
  refine trustRootMutation_unrefused (fun ctx cap k db revision current read => ?_) built
  have seeded : Unrefused cfg request cap k db (seedOperatorKey cfg ctx revision current) := by
    unfold seedOperatorKey
    cases current with
    | some loaded => exact .ok _
    | none => exact unrefused_grantOperatorKey read
  refine unrefused_persisted seeded fun later mid granted => ?_
  cases granted with
  | some prepared => exact .ok _
  | none => exact unrefused_commitJournal

theorem addTrustedKey_unrefused {key : TrustedKey}
    (built : addTrustedKey cfg segment key = .ok handler) : handler.Unrefused cfg request := by
  refine trustRootMutation_unrefused (fun ctx cap k db revision current read => ?_) built
  refine unrefused_lift (passes_checkTrustedKey _) fun entry _ => ?_
  exact unrefused_persisted (unrefused_persistTrustRootMutation 2 read)
    fun _ _ granted => unrefused_expectPersisted granted

theorem removeTrustedKey_unrefused {keyId : String}
    (built : removeTrustedKey cfg segment keyId = .ok handler) :
    handler.Unrefused cfg request := by
  refine trustRootMutation_unrefused (fun ctx cap k db revision current read => ?_) built
  dsimp only
  split
  · exact unrefused_last fun _ _ => unstale_upsertTrustRoot (meets_loadedRoot read)
  · exact unrefused_commitJournal

theorem createBackup_unrefused {head : Head}
    (built : createBackup cfg head segment = .ok handler) : handler.Unrefused cfg request := by
  obtain ⟨id, _, built⟩ := bind_ok built
  cases built
  rintro ctx body cap k db _ ⟨⟩ _
  refine unrefused_withReplay (unrefused_ask (fun _ _ => passes_loaded (unstale_unpinned rfl)) ?_)
  intro _ now captured _
  have encoded : Passes (encodeSnapshot cfg captured.1) := .mapError fun _ => rfl
  exact unrefused_lift encoded fun state _ => unrefused_last fun _ _ => unstale_unpinned rfl

theorem deleteBackup_unrefused {backupId : String}
    (built : deleteBackup cfg segment backupId = .ok handler) : handler.Unrefused cfg request := by
  obtain ⟨id, _, built⟩ := bind_ok built
  cases built
  rintro ctx body cap k db _ ⟨⟩ _
  refine unrefused_withReplay (unrefused_loadEnvironment fun loaded _ => ?_)
  refine unrefused_ask (fun _ _ => passes_reply (unstale_unpinned rfl)) fun _ now deleted _ => ?_
  cases deleted with
  | true => exact .ok _
  | false => exact .error rfl

/-- The mutations an environment is edited by: all but reconciles, imports and restores. -/
def Mutation.edits : Mutation V → Bool
  | .reconcileEnvironment _ | .completeReconcile .. => false
  | .importEnvironment .. | .restoreEnvironment .. => false
  | _ => true

theorem handler_unrefused {head : Head} {mutation : Mutation V} (edits : mutation.edits = true)
    (built : mutation.handler cfg head = .ok handler) : handler.Unrefused cfg request := by
  cases mutation with
  | createEnvironment payload =>
      cases built
      exact createEnvironment_unrefused
  | updateEnvironment envId patch =>
      obtain ⟨_, _, built⟩ := bind_ok built
      cases built
      exact engineMutation_unrefused fun _ _ => .ok _
  | migrateBindings envId payload => exact migrateBindings_unrefused built
  | stageRevision envId payload =>
      obtain ⟨_, _, built⟩ := bind_ok built
      cases built
      exact engineMutation_unrefused fun _ _ => writeOk_passes ofRevision_stale _
  | warmRevision envId revisionId payload =>
      obtain ⟨_, _, built⟩ := bind_ok built
      obtain ⟨_, _, built⟩ := bind_ok built
      exact revisionTransition_unrefused built
  | drainRevision envId revisionId =>
      obtain ⟨_, _, built⟩ := bind_ok built
      exact revisionTransition_unrefused built
  | archiveRevision envId revisionId =>
      obtain ⟨_, _, built⟩ := bind_ok built
      exact revisionTransition_unrefused built
  | setTrafficSplit envId payload =>
      obtain ⟨_, _, built⟩ := bind_ok built
      cases built
      exact engineMutation_unrefused fun _ _ => writeIfMutated_passes ofTraffic_stale _
  | rollbackTrafficSplit envId deploymentId =>
      obtain ⟨_, _, built⟩ := bind_ok built
      cases built
      exact engineMutation_unrefused fun _ _ => writeOk_passes ofTraffic_stale _
  | addPackBinding envId binding => exact bindingMutation_unrefused built
  | updatePackBinding envId slot binding =>
      obtain ⟨_, _, built⟩ := bind_ok built
      exact bindingMutation_unrefused built
  | removePackBinding envId slot =>
      obtain ⟨_, _, built⟩ := bind_ok built
      exact bindingMutation_unrefused built
  | rollbackPackBinding envId slot =>
      obtain ⟨_, _, built⟩ := bind_ok built
      exact bindingMutation_unrefused built
  | addExtensionBinding envId binding => exact bindingMutation_unrefused built
  | updateExtensionBinding envId key binding =>
      cases binding with
      | none => cases built
      | some binding => exact bindingMutation_unrefused built
  | removeExtensionBinding envId key => exact bindingMutation_unrefused built
  | rollbackExtensionBinding envId key => exact bindingMutation_unrefused built
  | addMessagingEndpoint envId payload =>
      exact messagingMutation_unrefused (fun _ _ => endpointChange_passes _) built
  | linkMessagingBundle envId endpointId bundleId updatedBy =>
      obtain ⟨_, _, built⟩ := bind_ok built
      exact messagingMutation_unrefused (fun _ _ => endpointChange_passes _) built
  | unlinkMessagingBundle envId endpointId bundleId updatedBy =>
      obtain ⟨_, _, built⟩ := bind_ok built
      exact messagingMutation_unrefused (fun _ _ => endpointChange_passes _) built
  | setMessagingWelcomeFlow envId endpointId payload =>
      obtain ⟨_, _, built⟩ := bind_ok built
      obtain ⟨_, _, built⟩ := bind_ok built
      exact messagingMutation_unrefused (fun _ _ => endpointChange_passes _) built
  | removeMessagingEndpoint envId endpointId =>
      obtain ⟨_, _, built⟩ := bind_ok built
      exact messagingMutation_unrefused (fun _ _ => .ok _) built
  | rotateMessagingWebhookSecret envId endpointId updatedBy newRef =>
      obtain ⟨_, _, built⟩ := bind_ok built
      exact messagingMutation_unrefused (fun _ _ => endpointChange_passes _) built
  | addBundle envId payload => exact addBundle_unrefused built
  | updateBundle envId deploymentId payload => exact updateBundle_unrefused built
  | removeBundle envId deploymentId => exact removeBundle_unrefused built
  | bootstrapTrustRoot envId => exact bootstrapTrustRoot_unrefused built
  | seedTrustRoot envId => exact seedTrustRoot_unrefused built
  | addTrustedKey envId key => exact addTrustedKey_unrefused built
  | removeTrustedKey envId keyId => exact removeTrustedKey_unrefused built
  | createBackup envId => exact createBackup_unrefused built
  | deleteBackup envId backupId => exact deleteBackup_unrefused built
  | _ => cases edits

theorem passes_parseSegment {α : Type} (segment : Segment α) : Passes (parseSegment segment) :=
  .mapError fun _ => rfl

theorem passes_capabilitySlot (raw : String) : Passes (parseCapabilitySlot raw) := by
  unfold parseCapabilitySlot
  split
  · exact .ok _
  · exact .error rfl

theorem passes_parseIfMatch (headers : HeaderMap) : Passes (parseIfMatch headers) := by
  unfold parseIfMatch
  split
  · exact .ok _
  · exact .error rfl
  · dsimp only
    split
    · exact .error rfl
    · split
      · exact .error rfl
      · exact .ok _

/-- Whatever a route refuses in its path, its body or the headers is no precondition. -/
def Enters (headers : HeaderMap) (built : Except RemoteStoreError (Handler V)) : Prop :=
  Passes (built >>= fun handler => handler.enter headers)

section Enters

variable {headers : HeaderMap}

theorem enters_bind {α : Type} {x : Except RemoteStoreError α}
    {f : α → Except RemoteStoreError (Handler V)} (first : Passes x)
    (rest : ∀ a, Enters headers (f a)) : Enters headers (x >>= f) := by
  cases x with
  | ok a => exact rest a
  | error e => exact .error (first e rfl)

theorem enters_parse {α : Type} {path : Segment α} {f : α → Except RemoteStoreError (Handler V)}
    (rest : ∀ a, Enters headers (f a)) : Enters headers (parseSegment path >>= f) :=
  enters_bind (passes_parseSegment path) rest

theorem engineMutation_enters {envId : EnvId} {noun verb : String}
    {apply : IdempotencyKey → Environment → Except RemoteStoreError Change} :
    Enters headers (pure (engineMutation cfg envId noun verb apply)) :=
  (passes_parseIfMatch headers).bind fun _ => .ok _

theorem bindingMutation_enters {τ : Type} {noun verb : String} {result : τ → MutationResult}
    {apply : Environment → Outcome BindingError τ} :
    Enters headers (bindingMutation cfg segment noun verb result apply) :=
  enters_parse fun _ => engineMutation_enters

theorem messagingMutation_enters {verb : String}
    {apply : IdempotencyKey → Environment → Except RemoteStoreError Change} :
    Enters headers (messagingMutation cfg segment verb apply) :=
  enters_parse fun _ => engineMutation_enters

theorem revisionTransition_enters {verb : String}
    {apply : Environment → Outcome RevisionLifecycleError RevisionTransition} :
    Enters headers (revisionTransition cfg segment verb apply) :=
  enters_parse fun _ => (passes_parseIfMatch headers).bind fun _ => .ok _

theorem trustRootMutation_enters {verb : String}
    {inner : Context → EnvRevision → Option (Loaded TrustRootDocument) →
      Handling V (Response V)} : Enters headers (trustRootMutation segment verb inner) :=
  enters_parse fun _ => .ok _

theorem handler_enters {head : Head} {mutation : Mutation V} (edits : mutation.edits = true) :
    Enters headers (mutation.handler cfg head) := by
  cases mutation with
  | createEnvironment payload => exact Passes.ok _
  | updateEnvironment envId patch => exact enters_parse fun _ => engineMutation_enters
  | migrateBindings envId payload =>
      exact enters_parse fun _ => (passes_parseIfMatch headers).bind fun _ => .ok _
  | stageRevision envId payload => exact enters_parse fun _ => engineMutation_enters
  | warmRevision envId revisionId payload =>
      exact enters_parse fun _ => enters_bind (.ensure rfl) fun _ => revisionTransition_enters
  | drainRevision envId revisionId => exact enters_parse fun _ => revisionTransition_enters
  | archiveRevision envId revisionId => exact enters_parse fun _ => revisionTransition_enters
  | setTrafficSplit envId payload => exact enters_parse fun _ => engineMutation_enters
  | rollbackTrafficSplit envId deploymentId => exact enters_parse fun _ => engineMutation_enters
  | addPackBinding envId binding => exact bindingMutation_enters
  | updatePackBinding envId slot binding =>
      exact enters_bind (passes_capabilitySlot slot) fun _ => bindingMutation_enters
  | removePackBinding envId slot =>
      exact enters_bind (passes_capabilitySlot slot) fun _ => bindingMutation_enters
  | rollbackPackBinding envId slot =>
      exact enters_bind (passes_capabilitySlot slot) fun _ => bindingMutation_enters
  | addExtensionBinding envId binding => exact bindingMutation_enters
  | updateExtensionBinding envId key binding =>
      cases binding with
      | none => exact Passes.error rfl
      | some binding => exact bindingMutation_enters
  | removeExtensionBinding envId key => exact bindingMutation_enters
  | rollbackExtensionBinding envId key => exact bindingMutation_enters
  | addMessagingEndpoint envId payload => exact messagingMutation_enters
  | linkMessagingBundle envId endpointId bundleId updatedBy =>
      exact enters_parse fun _ => messagingMutation_enters
  | unlinkMessagingBundle envId endpointId bundleId updatedBy =>
      exact enters_parse fun _ => messagingMutation_enters
  | setMessagingWelcomeFlow envId endpointId payload =>
      exact enters_parse fun _ => enters_bind (.ensure rfl) fun _ => messagingMutation_enters
  | removeMessagingEndpoint envId endpointId =>
      exact enters_parse fun _ => messagingMutation_enters
  | rotateMessagingWebhookSecret envId endpointId updatedBy newRef =>
      exact enters_parse fun _ => messagingMutation_enters
  | addBundle envId payload =>
      exact enters_parse fun _ => (passes_parseIfMatch headers).bind fun _ => .ok _
  | updateBundle envId deploymentId payload =>
      exact enters_parse fun _ => (passes_parseIfMatch headers).bind fun _ =>
        (passes_parseSegment deploymentId).bind fun _ => (Passes.ensure rfl).bind fun _ => .ok _
  | removeBundle envId deploymentId =>
      exact enters_parse fun _ => (passes_parseIfMatch headers).bind fun _ =>
        (passes_parseSegment deploymentId).bind fun _ => .ok _
  | bootstrapTrustRoot envId =>
      show Enters headers (Server.bootstrapTrustRoot cfg envId)
      unfold Server.bootstrapTrustRoot
      exact trustRootMutation_enters
  | seedTrustRoot envId =>
      show Enters headers (Server.seedTrustRoot cfg envId)
      unfold Server.seedTrustRoot
      exact trustRootMutation_enters
  | addTrustedKey envId key =>
      show Enters headers (Server.addTrustedKey cfg envId key)
      unfold Server.addTrustedKey
      exact trustRootMutation_enters
  | removeTrustedKey envId keyId =>
      show Enters headers (Server.removeTrustedKey cfg envId keyId)
      unfold Server.removeTrustedKey
      exact trustRootMutation_enters
  | createBackup envId => exact enters_parse fun _ => .ok _
  | deleteBackup envId backupId => exact enters_parse fun _ => .ok _
  | _ => cases edits

end Enters

theorem passes_requireIdempotencyKey (headers : HeaderMap) :
    Passes (requireIdempotencyKey headers) := by
  unfold requireIdempotencyKey
  split
  · exact .error rfl
  · split
    · split
      · exact .error rfl
      · exact .ok _
    · exact .error rfl

/-- What a request is refused in front of the gate is no precondition. -/
theorem unrefused_refused {head : Head} {k : Known V} {db : Db V (ResponseBody V)}
    (refused : handler.clears cfg head = none) (enters : Passes (handler.enter head.headers)) :
    Unrefused cfg request cap k db (handler.run cfg head) := by
  unfold Handler.run authorizeMutation
  cases decided : cfg.rbac.authorizeMutation (bearerToken head.headers) handler.envId handler.noun
      handler.verb with
  | ok auth =>
      refine unrefused_lift (.ok auth) fun _ _ => ?_
      refine unrefused_lift (passes_requireIdempotencyKey _) fun idemKey keyed => ?_
      refine unrefused_lift enters fun body entered => ?_
      simp [Handler.clears, decided, keyed, entered] at refused
  | error denial =>
      dsimp only
      split
      · exact unrefused_ask (fun _ _ => .error rfl) fun _ _ _ returned => by cases returned
      · exact unrefused_lift (.error rfl) fun _ returned => by cases returned

end Handlers

/-- An edit with the store to itself, its etag the current one where it carries one, fails
no precondition. -/
theorem serve_unrefused {mutation : Mutation V} {db : Db V (ResponseBody V)}
    (routed : request.route = .mutate mutation) (edits : mutation.edits = true)
    (current : ∀ ctx etag, request.admission cfg = some ctx →
      parseIfMatch request.head.headers = .ok (some etag) → currentEtag db ctx.envId = some etag) :
    Unrefused cfg request cap Known.nothing db (ExceptT.mk (serve cfg request)) := by
  show Program.Alone _ _ _ _ _ _ (serve cfg request)
  have enters : Enters request.head.headers (mutation.handler cfg request.head) :=
    handler_enters edits
  unfold Enters at enters
  unfold serve
  rw [routed]
  dsimp only
  cases built : mutation.handler cfg request.head with
  | error e =>
      rw [built] at enters
      exact .error (enters e rfl)
  | ok handler =>
      rw [built] at enters
      dsimp only
      cases admits : handler.clears cfg request.head with
      | none => exact unrefused_refused admits enters
      | some cleared =>
          obtain ⟨ctx, body⟩ := cleared
          have admitted : request.admission cfg = some ctx := by
            simp only [Request.admission, routed, built, admits, Option.map_some]
          obtain ⟨-, -, entered, shape⟩ := Handler.run_admitted cfg admits
          rw [shape]
          intro _ now
          dsimp only
          rw [execute_lookup]
          cases lookupIdempotency db ctx.envId ctx.idemKey.asStr with
          | none =>
              exact handler_unrefused edits built ctx body cap _ db admitted entered
                fun etag carried => current ctx etag admitted carried
          | some record =>
              by_cases differs : record.requestFingerprint ≠ request.head.fingerprint
              · simp only [if_pos differs]
                exact .error rfl
              · simp only [if_neg differs]
                exact .ok _

end GreenticDeployer.Server
