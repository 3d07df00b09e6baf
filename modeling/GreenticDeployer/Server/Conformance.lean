import GreenticDeployer.Server.Protocol

/-!
# Every handler obeys the protocol

Rules for the statements handlers are made of, then one lemma for each shape of
handler. The engine verb a commit stands for is read off the handler here.
-/

set_option maxHeartbeats 200000

namespace GreenticDeployer.Server

open Spec Engine Store Trust Lib

variable {V : Type} {cfg : Config V} {request : Request V} {ctx : Context} {k : Known V}

/-- A program that follows the request's protocol from knowledge `k` on. -/
abbrev Follows {α : Type} (cfg : Config V) (request : Request V)
    (post : Known V → Except RemoteStoreError α → Prop) (k : Known V)
    (program : Handling V α) : Prop :=
  program.run.Obeys (permits cfg request) learn post k

theorem Open.may {call : Call V} (isOpen : Open k) (admitted : request.admission cfg = some ctx)
    (permitted : Permits cfg request ctx k call) : permits cfg request k call := by
  refine ⟨isOpen.found, isOpen.committed, ?_⟩
  rw [admitted]
  exact permitted

/-- Without a commit and without a ledger row, any failure will do. -/
theorem Ends.failed (found : k.found = none) (committed : k.committed = none)
    (e : RemoteStoreError) : Ends cfg request k (.error e) := by
  refine ⟨?_, ?_, ?_, ?_⟩ <;> simp [found, committed]

theorem Ends.refused (refused : request.admission cfg = none) (found : k.found = none)
    (committed : k.committed = none) (result : Except RemoteStoreError (Response V)) :
    Ends cfg request k result := by
  refine ⟨?_, ?_, ?_, ?_⟩ <;> simp [found, committed, refused]

theorem Open.ends_error (isOpen : Open k) (e : RemoteStoreError) :
    Ends cfg request k (.error e) :=
  .failed isOpen.found isOpen.committed e

/-- A ledger row that was found decides the outcome. -/
theorem Ends.of_found (committed : k.committed = none) (record : Record V) (e : RemoteStoreError)
    (first : k.passed = false → ∃ ctx, request.admission cfg = some ctx ∧
      e = reusedKey ctx.envId ctx.idemKey.asStr record) :
    Ends cfg request { k with found := some record }
      (if record.requestFingerprint ≠ request.head.fingerprint then .error e
        else .ok (replay record)) := by
  refine ⟨by simp [committed], ?_, ?_, fun _ _ _ _ => .inr (Option.some_ne_none record)⟩
  · rintro other ⟨⟩ same
    rw [if_neg (not_not.mpr same)]
  · rintro other ⟨⟩ differs
    rw [if_pos differs]
    exact ⟨e, rfl, first⟩

theorem follows_lift {α β : Type} {post : Known V → Except RemoteStoreError β → Prop}
    {outcome : Except RemoteStoreError α} {f : α → Handling V β}
    (fails : ∀ e, outcome = .error e → post k (.error e))
    (rest : ∀ a, outcome = .ok a → Follows cfg request post k (f a)) :
    Follows cfg request post k (Program.lift outcome >>= f) := by
  cases outcome with
  | ok a => exact rest a rfl
  | error e => exact fails e rfl

/-- A read: what it learns on success, and that a failure leaves it open. -/
theorem follows_ask {α β : Type} {post : Known V → Except RemoteStoreError β → Prop}
    {call : Call V} {sort : call.Reply → Except RemoteStoreError α} {f : α → Handling V β}
    (isOpen : Open k) (admitted : request.admission cfg = some ctx)
    (permitted : Permits cfg request ctx k call)
    (fails : ∀ reply e, sort reply = .error e → post (learn k call reply) (.error e))
    (rest : ∀ reply a, sort reply = .ok a → Follows cfg request post (learn k call reply) (f a)) :
    Follows cfg request post k (Program.ask call sort >>= f) := by
  have asked : Follows cfg request (fun k' outcome => ∃ reply, k' = learn k call reply ∧
      sort reply = outcome) k (Program.ask call sort) :=
    Program.Obeys.ask (isOpen.may admitted permitted) fun reply => ⟨reply, rfl, rfl⟩
  refine Program.Obeys.andThen asked ?_ ?_
  · rintro k' e ⟨reply, rfl, failed⟩
    exact fails reply e failed
  · rintro k' a ⟨reply, rfl, returned⟩
    exact rest reply a returned

theorem follows_loadEnvironment {β : Type}
    {post : Known V → Except RemoteStoreError β → Prop} {f : Loaded Environment → Handling V β}
    (isOpen : Open k) (admitted : request.admission cfg = some ctx)
    (fails : ∀ e, post k (.error e))
    (rest : ∀ loaded, Open { k with loaded := some loaded } →
      Follows cfg request post { k with loaded := some loaded } (f loaded)) :
    Follows cfg request post k (loadEnvironment ctx >>= f) := by
  refine follows_ask isOpen admitted .loadEnv ?_ ?_
  · intro reply e failed
    obtain ⟨inner, rfl⟩ := mapError_error failed
    exact fails e
  · intro reply loaded returned
    rw [mapError_ok returned]
    exact rest loaded ⟨isOpen.found, isOpen.committed, isOpen.passed⟩

theorem follows_loadTrustRoot {β : Type}
    {post : Known V → Except RemoteStoreError β → Prop}
    {f : Option (Loaded TrustRootDocument) → Handling V β}
    (isOpen : Open k) (admitted : request.admission cfg = some ctx)
    (fails : ∀ e, post k (.error e))
    (rest : ∀ loaded, Follows cfg request post k (f loaded)) :
    Follows cfg request post k (loadTrustRootRow ctx >>= f) := by
  refine follows_ask isOpen admitted .loadRoot ?_ ?_
  · intro reply e failed
    obtain ⟨inner, rfl⟩ := mapError_error failed
    exact fails e
  · intro reply loaded returned
    rw [mapError_ok returned]
    exact rest loaded

theorem follows_commit {call : Call V} {prepared : PreparedMutation V}
    (isOpen : Open k) (admitted : request.admission cfg = some ctx)
    (permitted : Permits cfg request ctx k call)
    (commits : ∀ result, learn k call (.ok result) =
      { k with committed := some prepared.journal })
    (rollsBack : ∀ e, learn k call (.error e) = k)
    (responds : prepared.intoResponse = respond prepared.journal) :
    Follows cfg request Settles k (do
      let _ ← ask call mapStorageError
      return prepared.intoResponse) := by
  refine follows_ask isOpen admitted permitted ?_ ?_
  · intro reply e failed
    obtain ⟨inner, rfl⟩ := mapError_error failed
    rw [rollsBack]
    exact isOpen
  · intro reply result returned
    rw [mapError_ok returned, commits]
    exact ⟨isOpen.found, prepared.journal, rfl, responds⟩

/-- What is asked of the part of a handler behind its gate. -/
structure Behaves (cfg : Config V) (request : Request V) (k : Known V)
    (program : Handling V (Response V)) : Prop where
  follows : Follows cfg request (Ends cfg request) k program
  recourse : Recourse program.run

/-- A program with recourse that has not failed yet. -/
def Recovers (program : Handling V (Response V)) : Prop :=
  Recourse program.run ∧ ∀ e, program.run ≠ .done (.error e)

theorem recovers_withReplay (ctx : Context) (body : Handling V (Response V)) :
    Recovers (withReplay ctx body) := by
  have rescued : ∀ program : Program (Call V) StorageCall.Reply _,
      Recovers (Program.rescue (ExceptT.mk program) (errorOrReplay ctx)) := by
    intro program
    induction program with
    | done outcome =>
        cases outcome with
        | ok response => exact ⟨trivial, fun e wrong => by cases wrong⟩
        | error e =>
            refine ⟨fun reply => ⟨?_, fun _ _ => .inl ⟨_, _, rfl⟩⟩, fun _ wrong => by cases wrong⟩
            dsimp only [Program.bind]
            repeat' split
            all_goals trivial
    | call call next ih =>
        refine ⟨fun reply => ⟨(ih reply).1, fun e ended => ((ih reply).2 e ended).elim⟩, ?_⟩
        intro e wrong
        cases wrong
  exact rescued body.run

theorem recovers_load {call : Call V} {onError : StorageError → RemoteStoreError}
    {f : call.Result → Handling V (Response V)}
    (load : (∃ envId, call = .loadEnv envId) ∨ ∃ envId, call = .loadTrustRoot envId)
    (rest : ∀ result, Recovers (f result)) : Recovers (ask call onError >>= f) := by
  refine ⟨?_, fun e wrong => by cases wrong⟩
  intro reply
  cases reply with
  | error e => exact ⟨trivial, fun _ _ => .inr ⟨⟨e, rfl⟩, load⟩⟩
  | ok result => exact ⟨(rest result).1, fun e ended => ((rest result).2 e ended).elim⟩

/-- A failed body looks the ledger up once more. -/
theorem behaves_withReplay {body : Handling V (Response V)} {known : Known V}
    (admitted : request.admission cfg = some ctx) (own : ctx.head = request.head)
    (settles : Follows cfg request Settles known body) :
    Behaves cfg request known (withReplay ctx body) := by
  refine ⟨?_, (recovers_withReplay ctx body).1⟩
  refine Program.Obeys.rescue settles ?_ ?_
  · rintro k response ⟨found, journal, committed, rfl⟩
    refine ⟨?_, by simp [found], by simp [found], fun _ _ _ _ => .inl (by simp [committed])⟩
    intro other same
    rw [committed] at same
    cases same
    rfl
  · intro k e isOpen
    refine ⟨isOpen.may admitted .lookup, ?_⟩
    intro reply
    cases reply with
    | error storage => exact isOpen.ends_error e
    | ok found =>
        cases found with
        | none =>
            exact Open.ends_error (k := { k with passed := true })
              ⟨isOpen.found, isOpen.committed, rfl⟩ e
        | some record =>
            rw [own]
            have ends : Ends cfg request _ _ := Ends.of_found isOpen.committed record e
              (by simp [isOpen.passed])
            by_cases differs : record.requestFingerprint ≠ request.head.fingerprint
            · simp only [if_pos differs] at ends ⊢
              exact ends
            · simp only [if_neg differs] at ends ⊢
              exact ends

/-- The knowledge of a request just past the gate. -/
def Known.opened : Known V := { Known.nothing with passed := true }

theorem Known.opened_open : Open (Known.opened : Known V) := ⟨rfl, rfl, rfl⟩

/-- Whatever a handler does once admitted follows the protocol. -/
def Conforms (cfg : Config V) (request : Request V) (handler : Handler V) : Prop :=
  ∀ ctx body, request.admission cfg = some ctx → ctx.envId = handler.envId →
    ctx.head = request.head → handler.enter request.head.headers = .ok body →
    Behaves cfg request Known.opened (body ctx)

theorem follows_commitUpdate {clientEtag : Option StateEtag} {loaded : Loaded Environment}
    {env : Environment} {prepared : PreparedMutation V} (isOpen : Open k)
    (admitted : request.admission cfg = some ctx) (known : k.loaded = some loaded)
    (transforms : Transforms cfg request ctx loaded.value env fun verb => keepsAccounts verb = true)
    (journaled : Journaled ctx prepared.journal)
    (responds : prepared.intoResponse = respond prepared.journal) :
    Follows cfg request Settles k (commitUpdate clientEtag loaded.revision env prepared) :=
  follows_commit isOpen admitted (.update known rfl transforms journaled) (fun _ => rfl)
    (fun _ => rfl) responds

theorem follows_commitJournal {loaded : Loaded Environment} {prepared : PreparedMutation V}
    (isOpen : Open k) (admitted : request.admission cfg = some ctx)
    (known : k.loaded = some loaded) (journaled : Journaled ctx prepared.journal)
    (responds : prepared.intoResponse = respond prepared.journal) :
    Follows cfg request Settles k (commitJournal prepared) :=
  follows_commit isOpen admitted (.record known journaled) (fun _ => rfl) (fun _ => rfl) responds

theorem follows_commitCreate {env : Environment} {prepared : PreparedMutation V}
    (isOpen : Open k) (admitted : request.admission cfg = some ctx)
    (named : env.environmentId = ctx.envId)
    (founds : ∃ mutation, request.route = .mutate mutation ∧ mutation.Founds env)
    (journaled : Journaled ctx prepared.journal)
    (responds : prepared.intoResponse = respond prepared.journal) :
    Follows cfg request Settles k (commitCreate env prepared) :=
  follows_commit isOpen admitted (.create named founds journaled) (fun _ => rfl)
    (fun _ => rfl) responds

theorem follows_mutateLoaded {clientEtag : Option StateEtag}
    {apply : Environment → Except RemoteStoreError Change} (isOpen : Open k)
    (admitted : request.admission cfg = some ctx)
    (writes : ∀ before after result, apply before = .ok (.write after result) →
      Transforms cfg request ctx before after fun verb => keepsAccounts verb = true) :
    Follows cfg request Settles k (mutateLoaded cfg ctx clientEtag apply) := by
  refine follows_loadEnvironment isOpen admitted (fun _ => isOpen) ?_
  intro loaded stillOpen
  refine follows_lift (fun _ _ => stillOpen) ?_
  intro change applied
  cases change with
  | write env result =>
      refine follows_lift (fun _ _ => stillOpen) ?_
      intro next _
      exact follows_commitUpdate stillOpen admitted rfl (writes _ _ _ applied) ⟨rfl, rfl, rfl⟩ rfl
  | keep result => exact follows_commitJournal stillOpen admitted rfl ⟨rfl, rfl, rfl⟩ rfl

theorem engineMutation_conforms {envId : EnvId} {noun verb : String}
    {apply : IdempotencyKey → Environment → Except RemoteStoreError Change}
    (writes : ∀ ctx : Context, ctx.head = request.head → ∀ before after result,
      apply ctx.idemKey before = .ok (.write after result) →
      Transforms cfg request ctx before after fun verb => keepsAccounts verb = true) :
    Conforms cfg request (engineMutation cfg envId noun verb apply) := by
  intro ctx body admitted _ own entered
  obtain ⟨clientEtag, _, entered⟩ := bind_ok entered
  cases entered
  exact behaves_withReplay admitted own
    (follows_mutateLoaded Known.opened_open admitted (writes ctx own))

theorem writeOk_write {ε τ : Type} {onError : ε → RemoteStoreError}
    {result : τ → Environment → MutationResult} {outcome : Outcome ε τ} {after : Environment}
    {written : MutationResult} (returned : writeOk onError result outcome = .ok (.write after written)) :
    ∃ value, outcome = (.ok value, after) := by
  obtain ⟨value | e, env⟩ := outcome
  · cases returned
  · cases returned
    exact ⟨_, rfl⟩

theorem writeIfMutated_write {ε τ : Type} {onError : ε → RemoteStoreError} {mutated : τ → Bool}
    {result : τ → Environment → MutationResult} {outcome : Outcome ε τ} {after : Environment}
    {written : MutationResult}
    (returned : writeIfMutated onError mutated result outcome = .ok (.write after written)) :
    ∃ value, outcome = (.ok value, after) ∧ mutated value = true := by
  obtain ⟨e | value, env⟩ := outcome
  · cases returned
  · simp only [writeIfMutated, Except.ok.injEq] at returned
    split at returned
    · cases returned
      exact ⟨value, rfl, by assumption⟩
    · cases returned

theorem transforms_of (policyRef : PathBuf) (verb : Verb) {mutation : Mutation V}
    {before after : Environment} {admits : Verb → Prop} (routed : request.route = .mutate mutation)
    (own : ctx.head = request.head)
    (named : mutation.engineVerb request.head ctx.idemKey policyRef = some verb)
    (admitted : admits verb) (applied : persist cfg.serde cfg.ext before verb = after) :
    Transforms cfg request ctx before after admits :=
  ⟨mutation, policyRef, verb, routed, by rw [own]; exact named, admitted, applied.symm⟩

/-- A handler whose verb persists on every success. -/
theorem conforms_of_writeOk {ε τ : Type} {onError : ε → RemoteStoreError}
    {result : τ → Environment → MutationResult} {apply : Environment → Outcome ε τ}
    {mutation : Mutation V} {verb : Verb} {envId : EnvId} {noun name : String}
    (routed : request.route = .mutate mutation)
    (named : ∀ key, mutation.engineVerb request.head key "" = some verb)
    (keeps : keepsAccounts verb = true)
    (persists : ∀ env value after, apply env = (.ok value, after) →
      persist cfg.serde cfg.ext env verb = after) :
    Conforms cfg request (engineMutation cfg envId noun name fun _ env =>
      writeOk onError result (apply env)) := by
  refine engineMutation_conforms ?_
  intro ctx own before after written returned
  obtain ⟨value, applied⟩ := writeOk_write returned
  exact transforms_of _ _ routed own (named _) keeps (persists before value after applied)

/-- A handler whose verb says whether it mutated. -/
theorem conforms_of_writeIfMutated {ε τ : Type} {onError : ε → RemoteStoreError}
    {mutated : τ → Bool} {result : τ → Environment → MutationResult}
    {apply : IdempotencyKey → Environment → Outcome ε τ} {mutation : Mutation V}
    {verb : IdempotencyKey → Verb} {envId : EnvId} {noun name : String}
    (routed : request.route = .mutate mutation)
    (named : ∀ key, mutation.engineVerb request.head key "" = some (verb key))
    (keeps : ∀ key, keepsAccounts (verb key) = true)
    (persists : ∀ key env, persist cfg.serde cfg.ext env (verb key) =
      persistMutated mutated env (apply key env)) :
    Conforms cfg request (engineMutation cfg envId noun name fun key env =>
      writeIfMutated onError mutated result (apply key env)) := by
  refine engineMutation_conforms ?_
  intro ctx own before after written returned
  obtain ⟨value, applied, changed⟩ := writeIfMutated_write returned
  refine transforms_of _ _ routed own (named _) (keeps _) ?_
  rw [persists, applied]
  simp only [persistMutated, changed, if_true]

theorem revisionTransition_conforms (verb : Verb) {apply : Environment →
      Outcome RevisionLifecycleError RevisionTransition} {mutation : Mutation V}
    {envId : Segment EnvId} {name : String} {handler : Handler V}
    (routed : request.route = .mutate mutation)
    (named : ∀ key, mutation.engineVerb request.head key "" = some verb)
    (keeps : keepsAccounts verb = true)
    (persists : ∀ env, persist cfg.serde cfg.ext env verb = persistRevision env (apply env))
    (built : revisionTransition cfg envId name apply = .ok handler) :
    Conforms cfg request handler := by
  obtain ⟨id, _, built⟩ := bind_ok built
  cases built
  intro ctx body admitted _ own entered
  obtain ⟨clientEtag, _, entered⟩ := bind_ok entered
  cases entered
  refine behaves_withReplay admitted own ?_
  refine follows_loadEnvironment Known.opened_open admitted (fun _ => Known.opened_open) ?_
  intro loaded stillOpen
  have transforms : ∀ after, persistRevision loaded.value (apply loaded.value) = after →
      Transforms cfg request ctx loaded.value after fun verb => keepsAccounts verb = true :=
    fun after reached => transforms_of _ _ routed own (named _) keeps ((persists _).trans reached)
  split
  · rename_i transition env applied
    refine follows_lift (fun _ _ => stillOpen) ?_
    intro next _
    exact follows_commitUpdate stillOpen admitted rfl (transforms env (by rw [applied]; rfl))
      ⟨rfl, rfl, rfl⟩ rfl
  · rename_i revisionId failedChecks message env applied
    refine follows_lift (fun _ _ => stillOpen) ?_
    intro next _
    exact follows_commitUpdate stillOpen admitted rfl (transforms env (by rw [applied]; rfl))
      ⟨rfl, rfl, rfl⟩ rfl
  · exact stillOpen

theorem bindingMutation_conforms (verb : Verb) {τ : Type} {result : τ → MutationResult}
    {apply : Environment → Outcome BindingError τ} {mutation : Mutation V}
    {envId : Segment EnvId} {noun name : String} {handler : Handler V}
    (routed : request.route = .mutate mutation)
    (named : ∀ key, mutation.engineVerb request.head key "" = some verb)
    (keeps : keepsAccounts verb = true)
    (persists : ∀ env, persist cfg.serde cfg.ext env verb = persistOk env (apply env))
    (built : bindingMutation cfg envId noun name result apply = .ok handler) :
    Conforms cfg request handler := by
  obtain ⟨id, _, built⟩ := bind_ok built
  cases built
  refine conforms_of_writeOk routed named keeps ?_
  intro env value after applied
  rw [persists, applied]
  rfl

theorem messagingMutation_conforms (verb : IdempotencyKey → Verb)
    {apply : IdempotencyKey → Environment → Outcome MessagingError MessagingApplied}
    {mutation : Mutation V} {envId : Segment EnvId}
    {name : String} {handler : Handler V} (routed : request.route = .mutate mutation)
    (named : ∀ key, mutation.engineVerb request.head key "" = some (verb key))
    (keeps : ∀ key, keepsAccounts (verb key) = true)
    (persists : ∀ key env, persist cfg.serde cfg.ext env (verb key) =
      persistMutated (·.mutated) env (apply key env))
    (built : messagingMutation cfg envId name (fun key env => endpointChange (apply key env)) =
      .ok handler) : Conforms cfg request handler := by
  obtain ⟨id, _, built⟩ := bind_ok built
  cases built
  exact conforms_of_writeIfMutated routed named keeps persists

theorem createEnvironment_conforms {payload : CreateEnvironmentPayload}
    (routed : request.route = .mutate (.createEnvironment payload)) :
    Conforms cfg request (createEnvironment cfg payload) := by
  intro ctx body admitted named own entered
  cases entered
  refine behaves_withReplay admitted own ?_
  refine follows_lift (fun _ _ => Known.opened_open) ?_
  intro created _
  exact follows_commitCreate Known.opened_open admitted named.symm ⟨_, routed, rfl⟩
    ⟨rfl, rfl, rfl⟩ rfl

theorem updateEnvironment_conforms {envId : Segment EnvId} {patch : UpdateEnvironmentPayload}
    {handler : Handler V} (routed : request.route = .mutate (.updateEnvironment envId patch))
    (built : updateEnvironment cfg envId patch = .ok handler) : Conforms cfg request handler := by
  obtain ⟨id, _, built⟩ := bind_ok built
  cases built
  refine engineMutation_conforms ?_
  intro ctx own before after result written
  cases written
  exact transforms_of "" _ routed own rfl rfl rfl

theorem reconcileEnvironment_conforms {envId : Segment EnvId} {handler : Handler V}
    (built : reconcileEnvironment cfg envId = .ok handler) : Conforms cfg request handler := by
  obtain ⟨id, _, built⟩ := bind_ok built
  cases built
  intro ctx body admitted _ own entered
  obtain ⟨etag, _, entered⟩ := bind_ok entered
  cases etag with
  | none => cases entered
  | some clientEtag =>
      cases entered
      refine behaves_withReplay admitted own ?_
      refine follows_loadEnvironment Known.opened_open admitted (fun _ => Known.opened_open) ?_
      intro loaded stillOpen
      refine follows_lift (fun _ _ => stillOpen) ?_
      intro _ _
      exact follows_commitJournal stillOpen admitted rfl ⟨rfl, rfl, rfl⟩ rfl

theorem completeReconcile_conforms {envId : Segment EnvId} {completion : ReconcileCompletion}
    {handler : Handler V} (built : completeReconcile cfg envId completion = .ok handler) :
    Conforms cfg request handler := by
  obtain ⟨id, _, built⟩ := bind_ok built
  cases built
  intro ctx body admitted _ own entered
  cases entered
  refine behaves_withReplay admitted own ?_
  refine follows_loadEnvironment Known.opened_open admitted (fun _ => Known.opened_open) ?_
  intro loaded stillOpen
  exact follows_commitJournal stillOpen admitted rfl ⟨rfl, rfl, rfl⟩ rfl

theorem mergeBindings_environmentId (env : Environment) (packs : List EnvPackBinding)
    (extensions : List ExtensionBinding) :
    (mergeBindings env packs extensions).2.environmentId = env.environmentId := by
  simp only [mergeBindings]
  rw [mergeExtensions_frame, mergePacks_frame]

theorem seededEnvironment_named {envId : EnvId} {payload : MigrateMergePayload}
    {report : MergeReport} {env : Environment}
    (seeded : seededEnvironment envId payload = .ok (report, env)) :
    env.environmentId = envId := by
  unfold seededEnvironment seedOrExisting at seeded
  split at seeded
  · cases seeded
  · rename_i fresh founded
    split at founded
    · contradiction
    · cases founded
      cases seeded
      exact mergeBindings_environmentId _ _ _
    · cases founded

theorem migrateBindings_conforms {envId : Segment EnvId} {payload : MigrateMergePayload}
    {handler : Handler V} (routed : request.route = .mutate (.migrateBindings envId payload))
    (built : migrateBindings cfg envId payload = .ok handler) : Conforms cfg request handler := by
  obtain ⟨id, parsed, built⟩ := bind_ok built
  cases built
  intro ctx body admitted named own entered
  obtain ⟨clientEtag, _, entered⟩ := bind_ok entered
  cases entered
  refine behaves_withReplay admitted own ?_
  refine follows_ask Known.opened_open admitted .loadEnv (fun _ _ failed => nomatch failed) ?_
  rintro reply _ ⟨⟩
  cases reply with
  | ok loaded =>
      have stillOpen : Open (V := V) { Known.opened with loaded := some loaded } := ⟨rfl, rfl, rfl⟩
      refine follows_lift (fun _ _ => stillOpen) ?_
      intro next _
      exact follows_commitUpdate stillOpen admitted rfl
        (transforms_of "" _ routed own rfl rfl rfl) ⟨rfl, rfl, rfl⟩ rfl
  | error e =>
      cases e with
      | notFound absent =>
          refine follows_lift (fun _ _ => Known.opened_open) ?_
          rintro ⟨report, env⟩ seeded
          refine follows_lift (fun _ _ => Known.opened_open) ?_
          intro _ _
          refine follows_lift (fun _ _ => Known.opened_open) ?_
          intro created _
          have parsedId : envId = .ok id := mapError_ok parsed
          have founds : seededEnvironment id payload = .ok (report, env) := by
            rw [← show ctx.envId = id from named]
            exact seeded
          exact follows_commitCreate Known.opened_open admitted (seededEnvironment_named seeded)
            ⟨_, routed, id, report, parsedId, founds⟩ ⟨rfl, rfl, rfl⟩ rfl
      | _ => exact Known.opened_open

theorem deploymentAt_ok {env : Environment} {index : Nat} {deployment : BundleDeployment}
    (found : deploymentAt env index = .ok deployment) :
    env.bundles[index]? = some deployment := by
  unfold deploymentAt at found
  split at found
  · cases found
    assumption
  · cases found

theorem pinRevenuePolicyRef_priced {cfg : Config V} {before env : Environment} {index : Nat}
    {deployment : BundleDeployment} {now : DateTime} {operatorKey : OperatorKey}
    {trustRoot : TrustRoot} {built : BuiltRevenuePolicyVersion}
    (found : env.bundles[index]? = some deployment)
    (signed : buildRevenuePolicyVersion cfg.signing deployment deployment.revenueShare now
      operatorKey trustRoot = .ok built)
    (others : ∀ other b, other ≠ index → env.bundles[other]? = some b → b ∈ before.bundles) :
    Priced before (pinRevenuePolicyRef env index built.policyRef) index
      { deployment with revenuePolicyRef := built.policyRef } (policyArtifact deployment built) := by
  obtain ⟨_, reference, share⟩ := buildRevenuePolicyVersion_ok signed
  refine ⟨?_, rfl, rfl, rfl, reference, share, ?_⟩
  · simp only [pinRevenuePolicyRef, List.getElem?_modify_eq, found]
    rfl
  · intro other b elsewhere present
    simp only [pinRevenuePolicyRef, List.getElem?_modify_ne _ _ (Ne.symm elsewhere)] at present
    exact others other b elsewhere present

/-- Signing reads the trust root and nothing else. -/
theorem follows_buildRevenuePolicy {deployment : BundleDeployment} (isOpen : Open k)
    (admitted : request.admission cfg = some ctx) :
    Follows cfg request (fun k' outcome => k' = k ∧ ∀ pending, outcome = .ok pending →
      pending.artifact = policyArtifact deployment pending.built ∧
      ∃ operatorKey trustRoot, buildRevenuePolicyVersion cfg.signing deployment
        deployment.revenueShare ctx.head.now operatorKey trustRoot = .ok pending.built) k
      (buildRevenuePolicy cfg ctx deployment) := by
  refine follows_loadTrustRoot isOpen admitted (fun _ => ⟨rfl, fun _ wrong => by cases wrong⟩) ?_
  intro root
  refine follows_lift (fun _ _ => ⟨rfl, fun _ wrong => by cases wrong⟩) ?_
  intro trustRoot _
  refine follows_lift (fun _ _ => ⟨rfl, fun _ wrong => by cases wrong⟩) ?_
  intro operatorKey _
  refine follows_lift (fun _ _ => ⟨rfl, fun _ wrong => by cases wrong⟩) ?_
  intro built signed
  refine ⟨rfl, ?_⟩
  rintro pending ⟨⟩
  exact ⟨rfl, operatorKey, trustRoot, mapError_ok signed⟩

theorem follows_commitPending {clientEtag : Option StateEtag} {loaded : Loaded Environment}
    {env : Environment} {index : Nat} {deployment : BundleDeployment}
    {pending : PendingRevenuePolicy} (isOpen : Open k)
    (admitted : request.admission cfg = some ctx) (known : k.loaded = some loaded)
    (transforms : ∀ policyRef, Transforms cfg request ctx loaded.value
      (pinRevenuePolicyRef env index policyRef) fun _ => True)
    (priced : Priced loaded.value (pinRevenuePolicyRef env index pending.built.policyRef) index
      { deployment with revenuePolicyRef := pending.built.policyRef } pending.artifact) :
    Follows cfg request Settles k
      (commitPending cfg ctx clientEtag loaded.revision env index deployment pending) := by
  refine follows_lift (fun _ _ => isOpen) ?_
  intro next _
  exact follows_commit isOpen admitted
    (.policy known rfl (transforms pending.built.policyRef) priced ⟨rfl, rfl, rfl⟩)
    (fun _ => rfl) (fun _ => rfl) rfl

theorem follows_commitPolicy {clientEtag : Option StateEtag} {loaded : Loaded Environment}
    {env : Environment} {index : Nat} (isOpen : Open k)
    (admitted : request.admission cfg = some ctx) (known : k.loaded = some loaded)
    (transforms : ∀ policyRef, Transforms cfg request ctx loaded.value
      (pinRevenuePolicyRef env index policyRef) fun _ => True)
    (others : ∀ other b, other ≠ index → env.bundles[other]? = some b →
      b ∈ loaded.value.bundles) :
    Follows cfg request Settles k (commitPolicy cfg ctx clientEtag loaded.revision env index) := by
  refine follows_lift (fun _ _ => isOpen) ?_
  intro deployment found
  refine Program.Obeys.andThen (follows_buildRevenuePolicy isOpen admitted) ?_ ?_
  · rintro k' e ⟨rfl, _⟩
    exact isOpen
  · rintro k' pending ⟨rfl, signed⟩
    obtain ⟨artifact, operatorKey, trustRoot, built⟩ := signed pending rfl
    refine follows_commitPending isOpen admitted known transforms ?_
    rw [artifact]
    exact pinRevenuePolicyRef_priced (deploymentAt_ok found) built others

theorem addBundle_conforms {envId : Segment EnvId} {payload : AddBundlePayload}
    {handler : Handler V} (routed : request.route = .mutate (.addBundle envId payload))
    (built : addBundle cfg request.head envId payload = .ok handler) :
    Conforms cfg request handler := by
  obtain ⟨id, _, built⟩ := bind_ok built
  cases built
  intro ctx body admitted _ own entered
  obtain ⟨clientEtag, _, entered⟩ := bind_ok entered
  cases entered
  refine behaves_withReplay admitted own ?_
  refine follows_loadEnvironment Known.opened_open admitted (fun _ => Known.opened_open) ?_
  intro loaded stillOpen
  split
  · exact stillOpen
  · rename_i index env applied
    refine follows_commitPolicy stillOpen admitted rfl ?_ ?_
    · intro policyRef
      refine transforms_of policyRef _ routed own rfl trivial ?_
      simp only [persist, applied]
    · intro other b elsewhere present
      simp only [Engine.addBundle] at applied
      split at applied
      · cases applied
      · cases applied
        rcases List.getElem?_append.symm ▸ present with present
        split at present
        · exact List.mem_of_getElem? present
        · rename_i beyond
          have outside : 1 ≤ other - loaded.value.bundles.length := by omega
          rw [List.getElem?_eq_none (by simpa using outside)] at present
          cases present

theorem follows_updateLoadedBundle {clientEtag : Option StateEtag} {envId : Segment EnvId}
    {deploymentId : Segment DeploymentId} {payload : UpdateBundlePayload} (isOpen : Open k)
    (admitted : request.admission cfg = some ctx) (own : ctx.head = request.head)
    (routed : request.route = .mutate (.updateBundle envId deploymentId payload)) :
    Follows cfg request Settles k (updateLoadedBundle cfg ctx clientEtag payload) := by
  refine follows_loadEnvironment isOpen admitted (fun _ => isOpen) ?_
  intro loaded stillOpen
  cases located : locate (fun b => b.deploymentId = payload.deploymentId) loaded.value.bundles with
  | none =>
      simp only [Engine.updateBundle, located]
      exact stillOpen
  | some found =>
      have transforms : ∀ policyRef after admits,
          admits (Verb.updateBundle payload policyRef) →
          persist cfg.serde cfg.ext loaded.value (.updateBundle payload policyRef) = after →
          Transforms cfg request ctx loaded.value after admits := fun policyRef after admits =>
        transforms_of policyRef _ routed own rfl
      simp only [Engine.updateBundle, located]
      cases changed : payload.revenueShare.isSome with
      | true =>
          refine follows_commitPolicy stillOpen admitted rfl ?_ ?_
          · intro policyRef
            refine transforms policyRef _ _ trivial ?_
            simp only [persist, Engine.updateBundle, located, changed, if_true]
          · intro other b elsewhere present
            rw [Located.getElem?_replace_of_ne located elsewhere] at present
            exact List.mem_of_getElem? present
      | false =>
          refine follows_lift (fun _ _ => stillOpen) ?_
          intro deployment _
          refine follows_lift (fun _ _ => stillOpen) ?_
          intro next _
          refine follows_commitUpdate stillOpen admitted rfl ?_ ⟨rfl, rfl, rfl⟩ rfl
          refine transforms "" _ _ ?_ ?_
          · simpa [keepsAccounts] using changed
          · simp only [persist, Engine.updateBundle, located, changed]
            rfl

theorem updateBundle_conforms {envId : Segment EnvId} {deploymentId : Segment DeploymentId}
    {payload : UpdateBundlePayload} {handler : Handler V}
    (routed : request.route = .mutate (.updateBundle envId deploymentId payload))
    (built : updateBundle cfg envId deploymentId payload = .ok handler) :
    Conforms cfg request handler := by
  obtain ⟨id, _, built⟩ := bind_ok built
  cases built
  intro ctx body admitted _ own entered
  obtain ⟨clientEtag, _, entered⟩ := bind_ok entered
  obtain ⟨_, _, entered⟩ := bind_ok entered
  obtain ⟨_, _, entered⟩ := bind_ok entered
  cases entered
  exact behaves_withReplay admitted own
    (follows_updateLoadedBundle Known.opened_open admitted own routed)

theorem removeBundle_conforms {envId : Segment EnvId} {deploymentId : Segment DeploymentId}
    {handler : Handler V}
    (routed : request.route = .mutate (.removeBundle envId deploymentId))
    (built : removeBundle cfg envId deploymentId = .ok handler) :
    Conforms cfg request handler := by
  obtain ⟨id, _, built⟩ := bind_ok built
  cases built
  intro ctx body admitted _ own entered
  obtain ⟨clientEtag, _, entered⟩ := bind_ok entered
  obtain ⟨removed, parsed, entered⟩ := bind_ok entered
  cases entered
  refine behaves_withReplay admitted own (follows_mutateLoaded Known.opened_open admitted ?_)
  intro before after result written
  obtain ⟨value, applied⟩ := writeOk_write written
  refine transforms_of "" (.removeBundle removed) routed own ?_ rfl ?_
  · rw [mapError_ok parsed]
    rfl
  · simp only [persist, applied]
    rfl

theorem trustRootMutation_conforms {envId : Segment EnvId} {name : String}
    {body : Context → EnvRevision → Option (Loaded TrustRootDocument) → Handling V (Response V)}
    {handler : Handler V} (built : trustRootMutation envId name body = .ok handler)
    (follows : ∀ ctx revision current k, request.admission cfg = some ctx → Ready k →
      Follows cfg request Settles k (body ctx revision current)) :
    Conforms cfg request handler := by
  obtain ⟨id, _, built⟩ := bind_ok built
  cases built
  intro ctx behind admitted _ own entered
  cases entered
  refine ⟨?_, ?_⟩
  · refine follows_loadEnvironment Known.opened_open admitted
      (fun e => Known.opened_open.ends_error e) ?_
    intro loaded stillOpen
    refine follows_loadTrustRoot stillOpen admitted (fun e => stillOpen.ends_error e) ?_
    intro current
    exact (behaves_withReplay admitted own
      (follows ctx _ current _ admitted ⟨stillOpen, loaded, rfl⟩)).follows
  · exact (recovers_load (.inl ⟨_, rfl⟩) fun env => recovers_load (.inr ⟨_, rfl⟩) fun current =>
      recovers_withReplay ctx _).1

/-- What persisting a trust-root change leaves behind: its journal committed, or
nothing. -/
def Persists (k : Known V) : Except RemoteStoreError (Option (PreparedMutation V)) → Prop
  | .ok (some prepared) => k.found = none ∧ k.committed = some prepared.journal ∧
      prepared.intoResponse = respond prepared.journal
  | _ => Ready k

theorem follows_persistTrustRootMutation {onRace : FirstWriteRace}
    {mutate : TrustRootDocument → TrustRootDocument}
    {prepare : Nat → TrustRootDocument → PreparedMutation V}
    (admitted : request.admission cfg = some ctx)
    (journaled : ∀ attempt doc, Journaled ctx (prepare attempt doc).journal)
    (responds : ∀ attempt doc,
      (prepare attempt doc).intoResponse = respond (prepare attempt doc).journal)
    (attempts : Nat) (current : Option (Loaded TrustRootDocument)) (k : Known V)
    (ready : Ready k) :
    Follows cfg request Persists k
      (persistTrustRootMutation ctx onRace mutate prepare attempts current) := by
  induction attempts generalizing current k with
  | zero => exact ready
  | succ attempts ih =>
      obtain ⟨loaded, known⟩ := ready.loaded
      refine follows_ask ready.toOpen admitted (.trustRoot known (journaled attempts _))
        (fun _ _ failed => nomatch failed) ?_
      rintro reply _ ⟨⟩
      cases reply with
      | ok revision => exact ⟨ready.found, rfl, responds attempts _⟩
      | error e =>
          cases e with
          | preconditionRequired =>
              cases current with
              | some loaded => exact ready
              | none =>
                  cases onRace with
                  | noOp => exact ready
                  | retry =>
                      exact follows_loadTrustRoot ready.toOpen admitted (fun _ => ready)
                        fun reloaded => ih reloaded k ready
          | _ => exact ready

theorem follows_grantOperatorKey {onRace : FirstWriteRace}
    {prepare : Nat → TrustRootSeed → PreparedMutation V}
    {current : Option (Loaded TrustRootDocument)} (ready : Ready k)
    (admitted : request.admission cfg = some ctx)
    (journaled : ∀ attempt seed, Journaled ctx (prepare attempt seed).journal)
    (responds : ∀ attempt seed,
      (prepare attempt seed).intoResponse = respond (prepare attempt seed).journal) :
    Follows cfg request Persists k (grantOperatorKey cfg ctx current onRace prepare) := by
  refine follows_lift (fun _ _ => ready) ?_
  intro opKey _
  refine follows_lift (fun _ _ => ready) ?_
  intro entry _
  exact follows_persistTrustRootMutation admitted (fun _ _ => journaled _ _)
    (fun _ _ => responds _ _) 2 current k ready

theorem follows_expectPersisted {granting : Handling V (Option (PreparedMutation V))}
    (grants : Follows cfg request Persists k granting) :
    Follows cfg request Settles k (granting >>= expectPersisted) := by
  refine Program.Obeys.andThen grants (fun _ _ ready => ready.toOpen) ?_
  intro k' granted persisted
  cases granted with
  | none => exact persisted.toOpen
  | some prepared => exact ⟨persisted.1, prepared.journal, persisted.2.1, persisted.2.2⟩

theorem prepareTrustRoot_journaled (ctx : Context) (revision : EnvRevision)
    (result : MutationResult) (attempt : Nat) :
    Journaled ctx (prepareTrustRoot cfg ctx revision result attempt).journal := ⟨rfl, rfl, rfl⟩

theorem bootstrapTrustRoot_conforms {envId : Segment EnvId} {handler : Handler V}
    (built : bootstrapTrustRoot cfg envId = .ok handler) : Conforms cfg request handler :=
  trustRootMutation_conforms built fun ctx revision _ _ admitted ready =>
    follows_expectPersisted (follows_grantOperatorKey ready admitted
      (fun _ _ => prepareTrustRoot_journaled ctx revision _ _) (fun _ _ => rfl))

theorem seedTrustRoot_conforms {envId : Segment EnvId} {handler : Handler V}
    (built : seedTrustRoot cfg envId = .ok handler) : Conforms cfg request handler := by
  refine trustRootMutation_conforms built ?_
  intro ctx revision current k admitted ready
  have granted : Follows cfg request Persists k (seedOperatorKey cfg ctx revision current) := by
    unfold seedOperatorKey
    cases current with
    | some _ => exact Program.Obeys.lift ready
    | none =>
        exact follows_grantOperatorKey ready admitted
          (fun _ _ => prepareTrustRoot_journaled ctx revision _ _) (fun _ _ => rfl)
  refine Program.Obeys.andThen granted (fun _ _ stillReady => stillReady.toOpen) ?_
  intro k' outcome persisted
  cases outcome with
  | some prepared => exact ⟨persisted.1, prepared.journal, persisted.2.1, persisted.2.2⟩
  | none =>
      obtain ⟨loaded, known⟩ := persisted.loaded
      exact follows_commitJournal persisted.toOpen admitted known
        (prepareTrustRoot_journaled ctx revision _ _) rfl

theorem addTrustedKey_conforms {envId : Segment EnvId} {key : TrustedKey} {handler : Handler V}
    (built : addTrustedKey cfg envId key = .ok handler) : Conforms cfg request handler := by
  refine trustRootMutation_conforms built ?_
  intro ctx revision current k admitted ready
  refine follows_lift (fun _ _ => ready.toOpen) ?_
  intro entry _
  exact follows_expectPersisted (follows_persistTrustRootMutation admitted
    (fun _ _ => prepareTrustRoot_journaled ctx revision _ _) (fun _ _ => rfl) 2 current k ready)

theorem removeTrustedKey_conforms {envId : Segment EnvId} {keyId : String} {handler : Handler V}
    (built : removeTrustedKey cfg envId keyId = .ok handler) : Conforms cfg request handler := by
  refine trustRootMutation_conforms built ?_
  intro ctx revision current k admitted ready
  obtain ⟨loaded, known⟩ := ready.loaded
  dsimp only
  split
  · exact follows_commit ready.toOpen admitted
      (.trustRoot known (prepareTrustRoot_journaled ctx revision _ _)) (fun _ => rfl)
      (fun _ => rfl) rfl
  · exact follows_commitJournal ready.toOpen admitted known
      (prepareTrustRoot_journaled ctx revision _ _) rfl

theorem createBackup_conforms {envId : Segment EnvId} {handler : Handler V}
    (built : createBackup cfg request.head envId = .ok handler) :
    Conforms cfg request handler := by
  obtain ⟨id, _, built⟩ := bind_ok built
  cases built
  intro ctx body admitted _ own entered
  cases entered
  refine behaves_withReplay admitted own ?_
  refine follows_ask Known.opened_open admitted .capture ?_ ?_
  · intro reply e failed
    obtain ⟨inner, rfl⟩ := mapError_error failed
    exact Known.opened_open
  · intro reply captured returned
    rw [mapError_ok returned]
    have stillOpen : Open (V := V) { Known.opened with captured := some captured } :=
      ⟨rfl, rfl, rfl⟩
    refine follows_lift (fun _ _ => stillOpen) ?_
    intro state encoded
    exact follows_commit stillOpen admitted
      (.backup rfl (mapError_ok encoded) rfl ⟨rfl, rfl, rfl⟩) (fun _ => rfl) (fun _ => rfl) rfl

theorem deleteBackup_conforms {envId : Segment EnvId} {backupId : String} {handler : Handler V}
    (built : deleteBackup cfg envId backupId = .ok handler) : Conforms cfg request handler := by
  obtain ⟨id, _, built⟩ := bind_ok built
  cases built
  intro ctx body admitted _ own entered
  cases entered
  refine behaves_withReplay admitted own ?_
  refine follows_loadEnvironment Known.opened_open admitted (fun _ => Known.opened_open) ?_
  intro loaded stillOpen
  refine follows_ask stillOpen admitted (.dropBackup rfl ⟨rfl, rfl, rfl⟩) ?_ ?_
  · intro reply e failed
    obtain ⟨inner, rfl⟩ := mapError_error failed
    exact stillOpen
  · intro reply deleted returned
    rw [mapError_ok returned]
    cases deleted with
    | true => exact ⟨rfl, _, rfl, rfl⟩
    | false => exact stillOpen

theorem importEnvironment_conforms {envId : Segment EnvId} {artifact : BackupArtifact V}
    {handler : Handler V} (routed : request.route = .mutate (.importEnvironment envId artifact))
    (built : importEnvironment cfg envId artifact = .ok handler) :
    Conforms cfg request handler := by
  obtain ⟨id, _, built⟩ := bind_ok built
  cases built
  intro ctx body admitted _ own entered
  cases entered
  refine behaves_withReplay admitted own ?_
  refine follows_lift (fun _ _ => Known.opened_open) ?_
  intro _ _
  refine follows_lift (fun _ _ => Known.opened_open) ?_
  intro verified _
  refine follows_lift (fun _ _ => Known.opened_open) ?_
  intro next _
  exact follows_commit Known.opened_open admitted (.importEnv ⟨envId, artifact, routed⟩ ⟨rfl, rfl, rfl⟩)
    (fun _ => rfl) (fun _ => rfl) rfl

theorem verifiedSnapshot_ok {source : String} {state : V} {digest : String}
    {verified : EnvSnapshot V × Environment}
    (returned : verifiedSnapshot cfg source state digest = .ok verified) :
    cfg.json.snapshot.fromValue state = .ok verified.1 := by
  unfold verifiedSnapshot at returned
  obtain ⟨_, _, returned⟩ := bind_ok returned
  obtain ⟨snapshot, decoded, returned⟩ := bind_ok returned
  obtain ⟨env, _, returned⟩ := bind_ok returned
  cases returned
  exact mapError_ok decoded

theorem follows_restoreLoaded {envId : Segment EnvId} {backupId : String}
    {precondition : Precondition} (isOpen : Open k) (admitted : request.admission cfg = some ctx)
    (routed : request.route = .mutate (.restoreEnvironment envId backupId precondition)) :
    Follows cfg request Settles k (restoreLoaded cfg ctx backupId precondition) := by
  refine follows_lift (fun _ _ => isOpen) ?_
  intro _ _
  refine follows_ask isOpen admitted (.loadBackup backupId) ?_ ?_
  · intro reply e failed
    cases reply with
    | error inner => exact isOpen
    | ok held =>
        cases held with
        | none => exact isOpen
        | some backup => cases failed
  · intro reply backup returned
    cases reply with
    | error inner => cases returned
    | ok held =>
        cases held with
        | none => cases returned
        | some held =>
            cases returned
            have holding : Open { k with backup := some backup } :=
              ⟨isOpen.found, isOpen.committed, isOpen.passed⟩
            refine follows_lift (fun _ _ => holding) ?_
            intro verified decoded
            refine follows_loadEnvironment holding admitted (fun _ => holding) ?_
            intro loaded stillOpen
            refine follows_lift (fun _ _ => stillOpen) ?_
            intro _ _
            refine follows_lift (fun _ _ => stillOpen) ?_
            intro next _
            exact follows_commit stillOpen admitted
              (.restore ⟨envId, backupId, precondition, routed⟩ rfl rfl rfl
                (verifiedSnapshot_ok decoded) ⟨rfl, rfl, rfl⟩)
              (fun _ => rfl) (fun _ => rfl) rfl

theorem restoreEnvironment_conforms {envId : Segment EnvId} {backupId : String}
    {precondition : Precondition} {handler : Handler V}
    (routed : request.route = .mutate (.restoreEnvironment envId backupId precondition))
    (built : restoreEnvironment cfg envId backupId precondition = .ok handler) :
    Conforms cfg request handler := by
  obtain ⟨id, _, built⟩ := bind_ok built
  cases built
  intro ctx body admitted _ own entered
  cases entered
  exact behaves_withReplay admitted own (follows_restoreLoaded Known.opened_open admitted routed)

theorem handler_conforms {mutation : Mutation V} {handler : Handler V}
    (routed : request.route = .mutate mutation)
    (built : mutation.handler cfg request.head = .ok handler) : Conforms cfg request handler := by
  cases mutation with
  | createEnvironment payload =>
      cases built
      exact createEnvironment_conforms routed
  | updateEnvironment envId patch => exact updateEnvironment_conforms routed built
  | reconcileEnvironment envId => exact reconcileEnvironment_conforms built
  | completeReconcile envId completion => exact completeReconcile_conforms built
  | migrateBindings envId payload => exact migrateBindings_conforms routed built
  | stageRevision envId payload =>
      obtain ⟨id, _, built⟩ := bind_ok built
      cases built
      refine conforms_of_writeOk routed (fun _ => rfl) rfl ?_
      intro env value after applied
      simp only [persist, applied]
      rfl
  | warmRevision envId revisionId payload =>
      obtain ⟨_, _, built⟩ := bind_ok built
      obtain ⟨_, _, built⟩ := bind_ok built
      exact revisionTransition_conforms _ routed (fun _ => rfl) rfl (fun _ => rfl) built
  | drainRevision envId revisionId =>
      obtain ⟨id, parsed, built⟩ := bind_ok built
      refine revisionTransition_conforms (.drainRevision id) routed ?_ rfl (fun _ => rfl)
        built
      simp [Mutation.engineVerb, mapError_ok parsed, Except.toOption]
  | archiveRevision envId revisionId =>
      obtain ⟨id, parsed, built⟩ := bind_ok built
      refine revisionTransition_conforms (.archiveRevision id) routed ?_ rfl (fun _ => rfl)
        built
      simp [Mutation.engineVerb, mapError_ok parsed, Except.toOption]
  | setTrafficSplit envId payload =>
      obtain ⟨id, _, built⟩ := bind_ok built
      cases built
      exact conforms_of_writeIfMutated routed (fun _ => rfl) (fun _ => rfl) (fun _ _ => rfl)
  | rollbackTrafficSplit envId deploymentId =>
      obtain ⟨id, _, built⟩ := bind_ok built
      cases built
      refine conforms_of_writeOk routed (fun _ => rfl) rfl ?_
      intro env value after applied
      simp only [persist, applied]
      rfl
  | addPackBinding envId binding =>
      exact bindingMutation_conforms _ routed (fun _ => rfl) rfl (fun _ => rfl) built
  | updatePackBinding envId slot binding =>
      obtain ⟨id, parsed, built⟩ := bind_ok built
      refine bindingMutation_conforms (.updatePackBinding id binding) routed ?_ rfl
        (fun _ => rfl) built
      simp [Mutation.engineVerb, parsed, Except.toOption]
  | removePackBinding envId slot =>
      obtain ⟨id, parsed, built⟩ := bind_ok built
      refine bindingMutation_conforms (.removePackBinding id) routed ?_ rfl
        (fun _ => rfl) built
      simp [Mutation.engineVerb, parsed, Except.toOption]
  | rollbackPackBinding envId slot =>
      obtain ⟨id, parsed, built⟩ := bind_ok built
      refine bindingMutation_conforms (.rollbackPackBinding id) routed ?_ rfl
        (fun _ => rfl) built
      simp [Mutation.engineVerb, parsed, Except.toOption]
  | addExtensionBinding envId binding =>
      exact bindingMutation_conforms _ routed (fun _ => rfl) rfl (fun _ => rfl) built
  | updateExtensionBinding envId key binding =>
      cases binding with
      | none => cases built
      | some binding =>
          exact bindingMutation_conforms _ routed (fun _ => rfl) rfl (fun _ => rfl) built
  | removeExtensionBinding envId key =>
      exact bindingMutation_conforms _ routed (fun _ => rfl) rfl (fun _ => rfl) built
  | rollbackExtensionBinding envId key =>
      exact bindingMutation_conforms _ routed (fun _ => rfl) rfl (fun _ => rfl) built
  | addMessagingEndpoint envId payload =>
      exact messagingMutation_conforms _ routed (fun _ => rfl) (fun _ => rfl) (fun _ _ => rfl) built
  | linkMessagingBundle envId endpointId bundleId updatedBy =>
      obtain ⟨id, parsed, built⟩ := bind_ok built
      refine messagingMutation_conforms
        (fun key => .linkMessagingBundle id bundleId updatedBy key request.head.now)
        routed ?_ (fun _ => rfl) (fun _ _ => rfl) built
      simp [Mutation.engineVerb, mapError_ok parsed, Except.toOption]
  | unlinkMessagingBundle envId endpointId bundleId updatedBy =>
      obtain ⟨id, parsed, built⟩ := bind_ok built
      refine messagingMutation_conforms
        (fun key => .unlinkMessagingBundle id bundleId updatedBy key request.head.now)
        routed ?_ (fun _ => rfl) (fun _ _ => rfl) built
      simp [Mutation.engineVerb, mapError_ok parsed, Except.toOption]
  | setMessagingWelcomeFlow envId endpointId payload =>
      obtain ⟨_, _, built⟩ := bind_ok built
      obtain ⟨_, _, built⟩ := bind_ok built
      exact messagingMutation_conforms _ routed (fun _ => rfl) (fun _ => rfl) (fun _ _ => rfl) built
  | removeMessagingEndpoint envId endpointId =>
      obtain ⟨id, parsed, built⟩ := bind_ok built
      obtain ⟨_, _, built⟩ := bind_ok built
      cases built
      refine engineMutation_conforms ?_
      intro ctx own before after result written
      refine transforms_of "" (.removeMessagingEndpoint id) routed own ?_
        rfl ?_
      · simp [Mutation.engineVerb, mapError_ok parsed, Except.toOption]
      · simp only [Except.ok.injEq] at written
        split at written
        · cases written
          rfl
        · cases written
  | rotateMessagingWebhookSecret envId endpointId updatedBy newRef =>
      obtain ⟨id, parsed, built⟩ := bind_ok built
      refine messagingMutation_conforms (fun key => .rotateMessagingWebhookSecret id
        updatedBy key request.head.now newRef serverWebhookSecretSink)
        routed ?_ (fun _ => rfl) (fun _ _ => rfl) built
      simp [Mutation.engineVerb, mapError_ok parsed, Except.toOption]
  | addBundle envId payload => exact addBundle_conforms routed built
  | updateBundle envId deploymentId payload => exact updateBundle_conforms routed built
  | removeBundle envId deploymentId => exact removeBundle_conforms routed built
  | bootstrapTrustRoot envId => exact bootstrapTrustRoot_conforms built
  | seedTrustRoot envId => exact seedTrustRoot_conforms built
  | addTrustedKey envId key => exact addTrustedKey_conforms built
  | removeTrustedKey envId keyId => exact removeTrustedKey_conforms built
  | createBackup envId => exact createBackup_conforms built
  | deleteBackup envId backupId => exact deleteBackup_conforms built
  | importEnvironment envId artifact => exact importEnvironment_conforms routed built
  | restoreEnvironment envId backupId precondition => exact restoreEnvironment_conforms routed built

theorem Known.nothing_ends (e : RemoteStoreError) :
    Ends cfg request Known.nothing (.error e) := .failed rfl rfl e

theorem permits_refused {call : Call V} (refused : request.admission cfg = none)
    (either : (∃ envId eventId event, call = .recordAudit envId eventId event) ∨
      ∃ envId id, call = .loadBackup envId id) : permits cfg request Known.nothing call := by
  refine ⟨rfl, rfl, ?_⟩
  rw [refused]
  exact either

theorem follows_loadStoredBackup {envId : EnvId} {backupId : String}
    (refused : request.admission cfg = none) :
    Follows cfg request (fun k' (_ : Except RemoteStoreError (StoredBackup V)) =>
      k'.found = none ∧ k'.committed = none) Known.nothing (loadStoredBackup envId backupId) := by
  refine Program.Obeys.ask (permits_refused refused (.inr ⟨envId, backupId, rfl⟩)) ?_
  intro reply
  cases reply with
  | error e => exact ⟨rfl, rfl⟩
  | ok held => cases held <;> exact ⟨rfl, rfl⟩

theorem exportBackup_follows {head : Head} {envId : Segment EnvId} {backupId : String}
    (refused : request.admission cfg = none) :
    Follows cfg request (Ends cfg request) Known.nothing (exportBackup cfg head envId backupId) := by
  refine follows_lift (fun e _ => Known.nothing_ends _) ?_
  intro id _
  rcases authorizeMutation_cases cfg head id "backup" "export" with
    ⟨auth, _, passes⟩ | ⟨denial, e, _, quiet | ⟨eventId, event, audited⟩⟩
  · rw [passes]
    refine follows_lift (fun e _ => Known.nothing_ends _) ?_
    intro _ _
    refine Program.Obeys.andThen (follows_loadStoredBackup refused) ?_ ?_
    · exact fun k' e kept => .failed kept.1 kept.2 e
    · exact fun k' backup kept => Program.Obeys.lift (.refused refused kept.1 kept.2 _)
  · rw [quiet]
    exact follows_lift (fun e _ => Known.nothing_ends _) nofun
  · rw [audited]
    have denied : Follows cfg request (fun k' (outcome : Except RemoteStoreError AuthContext) =>
        k' = Known.nothing ∧ ∃ e, outcome = .error e) Known.nothing
        (Program.ask (.recordAudit id eventId event) fun _ => .error e) := by
      refine Program.Obeys.ask (permits_refused refused (.inl ⟨_, _, _, rfl⟩)) ?_
      intro reply
      cases reply <;> exact ⟨rfl, e, rfl⟩
    refine Program.Obeys.andThen denied ?_ ?_
    · rintro k' e ⟨rfl, _⟩
      exact Known.nothing_ends _
    · rintro k' _ ⟨_, _, ⟨⟩⟩

theorem serve_obeys (cfg : Config V) (request : Request V) :
    (serve cfg request).Obeys (permits cfg request) learn (Ends cfg request) Known.nothing := by
  unfold serve
  cases routed : request.route with
  | exportBackup envId backupId =>
      exact exportBackup_follows (by simp only [Request.admission, routed])
  | mutate mutation =>
      dsimp only
      cases built : mutation.handler cfg request.head with
      | error e => exact Known.nothing_ends _
      | ok handler =>
          dsimp only
          cases admits : handler.clears cfg request.head with
          | none =>
              have refused : request.admission cfg = none := by
                simp only [Request.admission, routed, built, admits, Option.map_none]
              obtain ⟨e, quiet | ⟨envId, eventId, event, audited⟩⟩ :=
                Handler.run_refused cfg admits
              · rw [quiet]
                exact Known.nothing_ends _
              · rw [audited]
                refine ⟨⟨rfl, rfl, ?_⟩, fun _ => Known.nothing_ends _⟩
                rw [refused]
                exact .inl ⟨_, _, _, rfl⟩
          | some entered =>
              obtain ⟨ctx, body⟩ := entered
              have admitted : request.admission cfg = some ctx := by
                simp only [Request.admission, routed, built, admits, Option.map_some]
              obtain ⟨named, own, entered, shape⟩ := Handler.run_admitted cfg admits
              rw [shape]
              refine ⟨⟨rfl, rfl, by rw [admitted]; exact .lookup⟩, ?_⟩
              intro reply
              cases reply with
              | error e => exact Known.nothing_ends _
              | ok found =>
                  cases found with
                  | none =>
                      exact (handler_conforms routed built ctx body admitted named own entered).follows
                  | some record =>
                      have ends := Ends.of_found (k := Known.nothing) rfl record
                        (reusedKey ctx.envId ctx.idemKey.asStr record)
                        fun _ => ⟨ctx, admitted, rfl⟩
                      by_cases differs : record.requestFingerprint ≠ request.head.fingerprint
                      · simp only [if_pos differs] at ends ⊢
                        exact ends
                      · simp only [if_neg differs] at ends ⊢
                        exact ends

theorem Request.admission_some (admitted : request.admission cfg = some ctx) :
    ∃ mutation handler body, request.route = .mutate mutation ∧
      mutation.handler cfg request.head = .ok handler ∧
      handler.clears cfg request.head = some (ctx, body) ∧
      serve cfg request = (handler.run cfg request.head).run := by
  unfold Request.admission at admitted
  split at admitted
  · rename_i mutation routed
    split at admitted
    · cases admitted
    · rename_i handler built
      obtain ⟨⟨own, body⟩, admits, rfl⟩ := Option.map_eq_some_iff.mp admitted
      refine ⟨mutation, handler, body, routed, built, admits, ?_⟩
      simp only [serve, routed, built]
  · cases admitted

end GreenticDeployer.Server
