import GreenticDeployer.Server.Recovery
import GreenticDeployer.Server.HandlerCalls
import GreenticDeployer.Server.TrustRootRuns
import GreenticDeployer.Store.Owners

/-!
# Confinement

Whatever a stretch of a run does, it does with the trust of somebody: the rows of
an environment stay as they are while no request is entrusted with it, and its
trust root stays while none is entrusted with that.
-/

set_option maxHeartbeats 200000

namespace GreenticDeployer.Server

open Spec Engine Store Trust Lib

variable {V : Type}

/-- The environment the policy entrusts a request with: the one its mutation names,
if its token may ask that of it. -/
def Request.entrusted (cfg : Config V) (request : Request V) : Option EnvId :=
  match request.route with
  | .mutate mutation =>
    match mutation.handler cfg request.head with
    | .error _ => none
    | .ok handler =>
      if (cfg.rbac.authorizeMutation (bearerToken request.head.headers) handler.envId handler.noun
        handler.verb).isOk then some handler.envId else none
  | .exportBackup .. => none

/-- The requests that have a say in a stretch of a run: those in flight where it
begins, and those that arrive. -/
def voices {κ : Type} (pool : Pool (ServerState V) (Request V) (Call V) StorageCall.Reply κ
    (Except RemoteStoreError (Response V))) (actions : List (ServerAction V)) :
    List (Request V) :=
  (pool.tasks.filter fun task => task.InFlight).map (·.tag) ++ arrivals actions

/-- The rows of one environment are as they were, but for the denials some requests
left in its log. -/
structure Spared (cfg : Config V) (requests : List (Request V)) (envId : EnvId)
    (before after : Db V (ResponseBody V)) : Prop where
  environments : after.environments.lookup envId = before.environments.lookup envId
  environmentRuntimes :
    after.environmentRuntimes.lookup envId = before.environmentRuntimes.lookup envId
  packAnswers : ∀ slot,
    after.packAnswers.lookup (envId, slot) = before.packAnswers.lookup (envId, slot)
  trustRoots : after.trustRoots.lookup envId = before.trustRoots.lookup envId
  revenuePolicies : ∀ key, key.envId = envId →
    after.revenuePolicies.lookup key = before.revenuePolicies.lookup key
  backups : ∀ id, after.backups.lookup (envId, id) = before.backups.lookup (envId, id)
  ledger : after.idempotencyLedger.filter (fun row => row.envId = envId) =
    before.idempotencyLedger.filter fun row => row.envId = envId
  audit : ∀ row ∈ after.auditLog.rows, row.envId = envId → row ∈ before.auditLog.rows ∨
    ∃ request ∈ requests, Denied cfg request envId row.eventId row.event

section

variable {cfg : Config V} {request : Request V} {ctx : Context} {k : Known V}
variable {requests more : List (Request V)} {envId : EnvId}
variable {db mid after : Db V (ResponseBody V)} {call : Call V}

theorem granted_of_admission (admitted : request.admission cfg = some ctx) :
    ∃ mutation handler auth, request.route = .mutate mutation ∧
      mutation.handler cfg request.head = .ok handler ∧ ctx.envId = handler.envId ∧
      cfg.rbac.authorizeMutation (bearerToken request.head.headers) handler.envId handler.noun
        handler.verb = .ok auth := by
  obtain ⟨mutation, handler, body, routed, built, cleared, _⟩ := Request.admission_some admitted
  unfold Handler.clears at cleared
  split at cleared
  · rename_i auth idemKey entered authorized keyed bodied
    cases cleared
    exact ⟨mutation, handler, auth, routed, built, rfl, authorized⟩
  · cases cleared

theorem entrusted_of_admission (admitted : request.admission cfg = some ctx) :
    request.entrusted cfg = some ctx.envId := by
  obtain ⟨mutation, handler, auth, routed, built, own, authorized⟩ := granted_of_admission admitted
  simp only [Request.entrusted, routed, built, authorized, own]
  rfl

theorem Spared.refl (db : Db V (ResponseBody V)) : Spared cfg requests envId db db :=
  ⟨rfl, rfl, fun _ => rfl, rfl, fun _ _ => rfl, fun _ => rfl, rfl, fun _ member _ => .inl member⟩

theorem Spared.trans (first : Spared cfg requests envId db mid)
    (second : Spared cfg requests envId mid after) : Spared cfg requests envId db after where
  environments := second.environments.trans first.environments
  environmentRuntimes := second.environmentRuntimes.trans first.environmentRuntimes
  packAnswers := fun slot => (second.packAnswers slot).trans (first.packAnswers slot)
  trustRoots := second.trustRoots.trans first.trustRoots
  revenuePolicies := fun key own =>
    (second.revenuePolicies key own).trans (first.revenuePolicies key own)
  backups := fun id => (second.backups id).trans (first.backups id)
  ledger := second.ledger.trans first.ledger
  audit := fun row member own => (second.audit row member own).elim
    (fun present => first.audit row present own) .inr

theorem filter_named {α : Type} (owner : α → EnvId) (items : List α) {envId other : EnvId}
    (apart : envId ≠ other) :
    (items.filter fun item => owner item ≠ other).filter (fun item => owner item = envId) =
      items.filter fun item => owner item = envId := by
  rw [List.filter_filter]
  refine List.filter_congr fun item _ => ?_
  by_cases named : owner item = envId
  · simp [named, apart]
  · simp [named]

theorem withAudit_spares {audit : AuditState V}
    (rows : ∀ row ∈ audit.log.rows, row.envId = envId → row ∈ db.auditLog.rows ∨
      ∃ request ∈ requests, Denied cfg request envId row.eventId row.event) :
    Spared cfg requests envId db (withAudit db audit) :=
  ⟨rfl, rfl, fun _ => rfl, rfl, fun _ _ => rfl, fun _ => rfl, rfl, rows⟩

theorem spares_elsewhere {owner : EnvId} (same : SameElsewhere owner db after)
    (apart : envId ≠ owner) : Spared cfg requests envId db after where
  environments := same.environments envId apart
  environmentRuntimes := same.environmentRuntimes envId apart
  packAnswers := fun slot => same.packAnswers (envId, slot) apart
  trustRoots := same.trustRoots envId apart
  revenuePolicies := fun key own => same.revenuePolicies key (own.trans_ne apart)
  backups := fun id => same.backups (envId, id) apart
  ledger := by
    have narrowed := congrArg (List.filter fun row => row.envId = envId) same.idempotencyLedger
    rwa [filter_named _ _ apart, filter_named _ _ apart] at narrowed
  audit := by
    intro row member own
    have outside : row ∈ (auditState after).log.rows.filter fun row => row.envId ≠ owner :=
      List.mem_filter.mpr ⟨member, by simpa using own.trans_ne apart⟩
    rw [same.audit.rows] at outside
    exact .inl (List.mem_of_mem_filter outside)

theorem Journaled.journaledFor {journal : Journal V} (journaled : Journaled ctx journal) :
    JournaledFor ctx.envId (some journal) := by
  rintro _ ⟨⟩
  exact journaled.envId

theorem owned_of_permits (admitted : request.admission cfg = some ctx)
    (remembers : Remembers cfg request k db) (permitted : Permits cfg request ctx k call) :
    call.Owned cfg.json ctx.envId := by
  cases permitted with
  | record known journaled => exact journaled.envId
  | create named founds journaled => exact ⟨named, journaled.journaledFor⟩
  | update known pinned transforms journaled =>
      have own := (remembers.loaded ctx _ admitted known).named
      exact ⟨transforms.environmentId.trans own, journaled.journaledFor⟩
  | policy known pinned transforms priced journaled =>
      have own := (remembers.loaded ctx _ admitted known).named
      exact ⟨transforms.environmentId.trans own, journaled.journaledFor⟩
  | trustRoot known journaled => exact ⟨rfl, journaled.journaledFor⟩
  | backup known encoded named journaled => exact ⟨named, journaled.journaledFor⟩
  | dropBackup known journaled => exact ⟨rfl, journaled.journaledFor⟩
  | restore asked known pinned held unpacked journaled =>
      have names := (remembers.snapshots.backup ctx _ admitted held _ unpacked).1
      exact ⟨rfl, journaled.journaledFor, names⟩
  | importEnv asked journaled => exact ⟨rfl, journaled.journaledFor⟩
  | _ => exact trivial

theorem refused_spares (now : Timestamp) (state : ServerState V)
    (present : request ∈ requests) (refused : request.admission cfg = none)
    (permitted : permits cfg request k call) (made : request.Makes cfg call) :
    Spared cfg requests envId state.db
      (execute cfg.json cfg.ext ⟨state.auditCap, now⟩ state.db call).2 := by
  obtain ⟨_, _, rest⟩ := permitted
  rw [refused] at rest
  rcases execute_writes cfg.json cfg.ext ⟨state.auditCap, now⟩ state.db call with
    ⟨_, _, same⟩ | ⟨mid, journal, writes, wrote⟩
  · rw [same]
    exact .refl _
  · rcases rest with ⟨named, eventId, event, rfl⟩ | ⟨named, id, rfl⟩
    · cases writes with
      | @recordAudit _ _ _ audit appended =>
          have after : withAudit state.db audit =
              (execute cfg.json cfg.ext ⟨state.auditCap, now⟩ state.db
                (.recordAudit named eventId event)).2 := Except.ok.inj wrote
          rw [← after]
          refine withAudit_spares fun row member own => ?_
          rcases appendAndPrune_own appended row member with old | ⟨owner, minted, recorded⟩
          · exact .inl old
          · cases made with
            | denial denied =>
                rw [← owner, ← minted, ← recorded, own] at denied
                exact .inr ⟨request, present, denied⟩
            | behind routed made => exact made.elim
    · cases writes
      have after : state.db = (execute cfg.json cfg.ext ⟨state.auditCap, now⟩ state.db
          (.loadBackup named id)).2 := Except.ok.inj wrote
      rw [← after]
      exact .refl _

theorem exec_spares (now : Timestamp) (state : ServerState V) (present : request ∈ requests)
    (stranger : request.entrusted cfg ≠ some envId) (permitted : permits cfg request k call)
    (made : request.Makes cfg call) (remembers : Remembers cfg request k state.db) :
    Spared cfg requests envId state.db
      (execute cfg.json cfg.ext ⟨state.auditCap, now⟩ state.db call).2 := by
  cases admitted : request.admission cfg with
  | none => exact refused_spares now state present admitted permitted made
  | some ctx =>
      have apart : envId ≠ ctx.envId := by
        rintro rfl
        exact stranger (entrusted_of_admission admitted)
      have owned := owned_of_permits admitted remembers (permits_of_admission permitted admitted)
      exact spares_elsewhere (execute_elsewhere cfg.json cfg.ext ⟨state.auditCap, now⟩ state.db owned)
        apart

/-- The startup sweep forgets audit rows and nothing else. -/
theorem reconcile_spares (db : Db V (ResponseBody V)) (auditCap : Option Nat) (now : Timestamp) :
    Spared cfg requests envId db (reconcileAuditRetention db auditCap now) := by
  have swept := @reconcileAuditRetention_keeping _ _
    (fun state => state.log.rows ⊆ db.auditLog.rows) db
    (fun state envId cap now held =>
      List.Subset.trans (pruneAuditLog_subset state envId cap now) held)
    (List.Subset.refl _) auditCap now
  obtain ⟨audit, same⟩ := reconcileAuditRetention_audit db auditCap now
  rw [same] at swept ⊢
  exact withAudit_spares fun row member _ => .inl (swept member)

end

theorem mem_voices_task {κ : Type} {pool : Pool (ServerState V) (Request V) (Call V)
    StorageCall.Reply κ (Except RemoteStoreError (Response V))} {actions : List (ServerAction V)} :
    ∀ task ∈ pool.tasks, task.InFlight → task.tag ∈ voices pool actions := fun _ member inFlight =>
  List.mem_append_left _ (List.mem_map_of_mem (List.mem_filter.mpr ⟨member, decide_eq_true inFlight⟩))

theorem mem_voices_arrival {κ : Type} {pool : Pool (ServerState V) (Request V) (Call V)
    StorageCall.Reply κ (Except RemoteStoreError (Response V))} {actions : List (ServerAction V)} :
    ∀ request, .arrive request ∈ actions → request ∈ voices pool actions := fun _ member =>
  List.mem_append_right _ (List.mem_filterMap.mpr ⟨_, member, rfl⟩)

/-- Environments are confined. Through any stretch of a run, whoever else is served
and however often the server starts over, the document, the sidecars, the trust
root, the policies, the backups and the ledger of an environment stay as they are,
unless a request takes part that the policy entrusts with it; its log gains nothing
but the denials of those it does not entrust. -/
theorem environments_are_confined (cfg : Config V) (maxRows : Option UInt32)
    (before after : List (ServerAction V)) (envId : EnvId)
    (strangers : ∀ request ∈ voices ((serverRuns cfg).run (boot maxRows) before) after,
      request.entrusted cfg ≠ some envId) :
    Spared cfg (voices ((serverRuns cfg).run (boot maxRows) before) after) envId
      ((serverRuns cfg).run (boot maxRows) before).shared.db
      ((serverRuns cfg).run (boot maxRows) (before ++ after)).shared.db := by
  have always := (serverRuns cfg).admits_of_allowed fun _ _ => trivial
  have sound := (server cfg).sound_run (recovery_rules cfg) (boot maxRows) before (always _ _)
    ((server cfg).sound_empty ⟨.empty, .empty⟩)
  rw [(serverRuns cfg).run_append]
  refine (server cfg).stretch_run
    (· ∈ voices ((serverRuns cfg).run (boot maxRows) before) after)
    (fun state later => Spared cfg _ envId state.db later.db) (recovery_rules cfg)
    (fun state => .refl state.db) (fun _ _ _ first second => first.trans second)
    (fun pool event _ => reconcile_spares pool.shared.db _ event.2) ?_ (always _ _) sound
    mem_voices_task mem_voices_arrival
  intro pool index now task call next _ found program sound present
  obtain ⟨⟨permitted, made⟩, remembers, _⟩ := sound.acting found program
  exact exec_spares now pool.shared present (strangers _ present) permitted made remembers

/-- An operator with one environment in its scope, and an administrator. -/
def scopedTokens : RbacEngine :=
  .staticTokens (fun token => token) (((∅ : Table String Principal).insert "root"
    ⟨"root", .admin, .all⟩).insert "op" ⟨"op", .operator, .restricted [⟨"local"⟩]⟩)

def demoFound (name : String) : Mutation PlainValue :=
  .createEnvironment ⟨⟨name⟩, name, localFresh.hostConfig⟩

def foundedProd : List (ServerAction PlainValue) :=
  served 0 (demoRequest (some "root") "a" (demoFound "prod"))

/-- The operator is refused outside its scope and served within, and the server
starts over. -/
def operatorAtWork : List (ServerAction PlainValue) :=
  served 1 (demoRequest (some "op") "b" (demoFound "prod")) ++
    served 2 (demoRequest (some "op") "c" (demoFound "local")) ++
    [.restart (none, "2026-01-02 00:00:00")]

theorem environments_are_confined_of_operator :
    Spared (demoConfig scopedTokens)
      (voices ((serverRuns (demoConfig scopedTokens)).run (boot none) foundedProd) operatorAtWork)
      ⟨"prod"⟩ ((serverRuns (demoConfig scopedTokens)).run (boot none) foundedProd).shared.db
      ((serverRuns (demoConfig scopedTokens)).run (boot none)
        (foundedProd ++ operatorAtWork)).shared.db ∧
    (((serverRuns (demoConfig scopedTokens)).run (boot none)
      (foundedProd ++ operatorAtWork)).shared.db.auditLog.rows.map (·.envId.asStr)) =
        ["prod", "prod", "local"] :=
  ⟨environments_are_confined (demoConfig scopedTokens) none foundedProd operatorAtWork ⟨"prod"⟩
    (by decide), by decide⟩

/-- The request edits the keys of an environment, with the token of an administrator
whose scope has it. -/
structure Custody (cfg : Config V) (sha256Hex : String → String)
    (principals : Table String Principal) (envId : EnvId) (request : Request V) : Prop where
  edits : request.rootEdit cfg ≠ none
  names : request.entrusted cfg = some envId
  token : ∃ token principal, bearerToken request.head.headers = some token ∧
    principals.lookup (sha256Hex token) = some principal ∧ principal.role = .admin ∧
    principal.scope.permits envId = true

section

variable {cfg : Config V} {request : Request V} {ctx : Context} {handler : Handler V}
variable {sha256Hex : String → String} {principals : Table String Principal}

theorem admin_of_authorized {token : Option String} {envId : EnvId} {verb : String}
    {auth : AuthContext}
    (authorized : (RbacEngine.staticTokens sha256Hex principals).authorizeMutation token envId
      "trust-root" verb = .ok auth) :
    ∃ secret principal, token = some secret ∧
      principals.lookup (sha256Hex secret) = some principal ∧ principal.role = .admin ∧
      principal.scope.permits envId = true := by
  unfold RbacEngine.authorizeMutation RbacEngine.authenticate at authorized
  cases known : token.bind fun token => principals.lookup (sha256Hex token) with
  | none =>
      simp only [known] at authorized
      cases authorized
  | some principal =>
      simp only [known] at authorized
      obtain ⟨secret, rfl, found⟩ := Option.bind_eq_some_iff.mp known
      by_cases inScope : principal.scope.permits envId = true
      · refine ⟨secret, principal, rfl, found, ?_, inScope⟩
        simp only [inScope, not_true_eq_false, if_false] at authorized
        cases role : principal.role with
        | admin => rfl
        | operator =>
            rw [role] at authorized
            cases authorized
        | readOnly =>
            rw [role] at authorized
            cases authorized
      · simp only [inScope] at authorized
        cases authorized

theorem noun_of_rootEdit {mutation : Mutation V} (routed : request.route = .mutate mutation)
    (edits : request.rootEdit cfg ≠ none) (built : mutation.handler cfg request.head = .ok handler) :
    handler.noun = "trust-root" := by
  unfold Request.rootEdit at edits
  rw [routed] at edits
  cases mutation with
  | bootstrapTrustRoot segment =>
      obtain ⟨_, _, built⟩ := bind_ok built
      cases built
      rfl
  | seedTrustRoot segment =>
      obtain ⟨_, _, built⟩ := bind_ok built
      cases built
      rfl
  | addTrustedKey segment key =>
      obtain ⟨_, _, built⟩ := bind_ok built
      cases built
      rfl
  | removeTrustedKey segment keyId =>
      obtain ⟨_, _, built⟩ := bind_ok built
      cases built
      rfl
  | _ => exact absurd rfl edits

theorem custody_of_admission (policy : cfg.rbac = .staticTokens sha256Hex principals)
    (admitted : request.admission cfg = some ctx) (edits : request.rootEdit cfg ≠ none) :
    Custody cfg sha256Hex principals ctx.envId request := by
  refine ⟨edits, entrusted_of_admission admitted, ?_⟩
  obtain ⟨mutation, handler, auth, routed, built, own, authorized⟩ := granted_of_admission admitted
  rw [policy, noun_of_rootEdit routed edits built, ← own] at authorized
  exact admin_of_authorized authorized

/-- The call of a request without custody of an environment's keys. -/
theorem exec_keeps_trustRoot {k : Known V × RootKnown V} {call : Call V} {envId : EnvId}
    (policy : cfg.rbac = .staticTokens sha256Hex principals) (now : Timestamp)
    (state : ServerState V) (stranger : ¬ Custody cfg sha256Hex principals envId request)
    (permitted : bothPermit cfg request k call) :
    ((rootServer cfg).exec now state call).2.db.trustRoots.lookup envId =
      state.db.trustRoots.lookup envId := by
  obtain ⟨⟨_, _, gated⟩, rooted⟩ := permitted
  cases execute_rootWrite ⟨state.auditCap, now⟩ state.db call with
  | keep same => exact congrArg (fun roots => roots.lookup envId) same
  | @write named doc precondition journal data generation wrote committed encoded cas schema table =>
      subst wrote
      obtain ⟨current, edit, _, asked, _⟩ := rooted
      have apart : envId ≠ named := by
        rintro rfl
        cases admitted : request.admission cfg with
        | none =>
            rw [admitted] at gated
            rcases gated with ⟨_, _, _, other⟩ | ⟨_, _, other⟩ <;> cases other
        | some ctx =>
            rw [admitted] at gated
            cases gated
            exact stranger (custody_of_admission policy admitted (by rw [asked]; nofun))
      refine (congrArg (fun roots => roots.lookup envId) table).trans ?_
      exact AList.lookup_insert_ne apart

end

/-- Key custody stays with the administrators. Under static tokens no stretch of a
run moves the trust root of an environment, not by a restore, an import or a
policy either, unless an administrator's edit of its keys takes part. -/
theorem trust_roots_stay_with_administrators (cfg : Config V) (sha256Hex : String → String)
    (principals : Table String Principal) (policy : cfg.rbac = .staticTokens sha256Hex principals)
    (maxRows : Option UInt32) (before after : List (ServerAction V)) (envId : EnvId)
    (strangers : ∀ request ∈ voices ((rootRuns cfg).run (rootBoot maxRows) before) after,
      ¬ Custody cfg sha256Hex principals envId request) :
    ((rootRuns cfg).run (rootBoot maxRows) (before ++ after)).shared.db.trustRoots.lookup envId =
      ((rootRuns cfg).run (rootBoot maxRows) before).shared.db.trustRoots.lookup envId := by
  have always := (rootRuns cfg).admits_of_allowed fun _ _ => trivial
  have sound := (rootServer cfg).sound_run (rootServer_rules cfg) (rootBoot maxRows) before
    (always _ _) ((rootServer cfg).sound_empty trivial)
  rw [(rootRuns cfg).run_append]
  refine (rootServer cfg).stretch_run
    (· ∈ voices ((rootRuns cfg).run (rootBoot maxRows) before) after)
    (fun state later => later.db.trustRoots.lookup envId = state.db.trustRoots.lookup envId)
    (rootServer_rules cfg) (fun _ => rfl) (fun _ _ _ first second => second.trans first)
    ?_ ?_ (always _ _) sound mem_voices_task mem_voices_arrival
  · intro pool event _
    have swept := reconcileAuditRetention_sameTables pool.shared.db (auditCapOf event.1) event.2
    exact congrArg (fun roots => roots.lookup envId) swept.trustRoots
  · intro pool index now task call next _ found program sound present
    exact exec_keeps_trustRoot policy now pool.shared (strangers _ present)
      (sound.acting found program).1

def bootstrapped : List (ServerAction PlainValue) :=
  served 0 (demoRequest (some "root") "a" demoCreate) ++
    served 1 (demoRequest (some "root") "b" (.bootstrapTrustRoot (.ok ⟨"local"⟩)))

def operatorAddsKey : List (ServerAction PlainValue) :=
  served 2 (demoRequest (some "op") "c" (.addTrustedKey (.ok ⟨"local"⟩) ⟨"mine", "mine"⟩)) ++
    served 3 (demoRequest (some "op") "d" (demoRename "renamed"))

theorem trust_roots_stay_with_administrators_of_operator :
    ((rootRuns (demoConfig scopedTokens)).run (rootBoot none)
        (bootstrapped ++ operatorAddsKey)).shared.db.trustRoots.lookup ⟨"local"⟩ =
      ((rootRuns (demoConfig scopedTokens)).run (rootBoot none)
        bootstrapped).shared.db.trustRoots.lookup ⟨"local"⟩ := by
  have strangers : ∀ request ∈ voices ((rootRuns (demoConfig scopedTokens)).run (rootBoot none)
      bootstrapped) operatorAddsKey, request.rootEdit (demoConfig scopedTokens) = none ∨
        request.entrusted (demoConfig scopedTokens) ≠ some ⟨"local"⟩ := by
    decide
  refine trust_roots_stay_with_administrators (demoConfig scopedTokens) _ _ rfl none bootstrapped
    operatorAddsKey ⟨"local"⟩ ?_
  intro request present custody
  exact (strangers request present).elim custody.edits fun apart => apart custody.names

end GreenticDeployer.Server
