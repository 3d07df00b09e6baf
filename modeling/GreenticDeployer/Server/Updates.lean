import GreenticDeployer.Server.System
import GreenticDeployer.Store.Sidecars

/-!
# No lost update

Every handler pins the revision it loaded, so a document is only ever replaced
by one computed from it. The argument needs that what a request remembers of a
row stays true while others move the row on.
-/

set_option maxHeartbeats 200000

namespace GreenticDeployer.Server

open Spec Engine Store Lib

variable {V : Type} {cfg : Config V} {request : Request V} {ctx : Context} {k : Known V}
variable {db mid : Db V (ResponseBody V)} {call : Call V}

theorem drafts_environments (drafts : Drafts cfg request ctx k db call mid) (envId : EnvId) :
    RowStep DocRow.generation (db.environments.lookup envId) (mid.environments.lookup envId) := by
  cases drafts with
  | create named founds encoded absent =>
      refine rowStep_insert ?_ envId
      rw [absent]
      exact .first rfl
  | update known transforms encoded current fresh =>
      refine rowStep_insert ?_ envId
      rw [current]
      exact .next rfl
  | policy known transforms priced encoded current fresh =>
      refine rowStep_insert ?_ envId
      rw [current]
      exact .next rfl
  | restore asked known held unpacked decoded encoded current fresh =>
      refine rowStep_insert ?_ envId
      rw [current]
      exact .next rfl
  | importEnv asked decoded named encoded absent history =>
      refine rowStep_insert ?_ envId
      rw [absent]
      exact .first rfl
  | _ => exact .refl _

theorem Effect.environments {now : Timestamp} {state : ServerState V} {reply : call.Reply}
    {after : Db V (ResponseBody V)} (effect : Effect cfg request k now state call reply after)
    (envId : EnvId) :
    RowStep DocRow.generation (state.db.environments.lookup envId)
      (after.environments.lookup envId) := by
  cases effect with
  | quiet same kept =>
      rw [same]
      exact .refl _
  | denial refused appended same kept =>
      rw [same]
      exact .refl _
  | commit admitted drafts journaled wrote learned =>
      rw [(journalInTx_sameTables wrote).environments]
      exact drafts_environments drafts envId

/-- A document under the name of the environment it is kept for. -/
def Names (json : StoreJson V) (envId : EnvId) (data : V) : Prop :=
  ∀ env, json.environment.fromValue data = .ok env → env.environmentId = envId

/-- A snapshot of an environment that exists, under its name. -/
def Snaps (cfg : Config V) (db : Db V (ResponseBody V)) (envId : EnvId)
    (snapshot : EnvSnapshot V) : Prop :=
  Names cfg.json envId snapshot.environment ∧ db.environments.lookup envId ≠ none

/-- Every stored document names the environment it is stored for. -/
structure Keyed (cfg : Config V) (db : Db V (ResponseBody V)) : Prop where
  environments : ∀ envId row, db.environments.lookup envId = some row →
    Names cfg.json envId row.data
  backups : Stored cfg (Snaps cfg db) db

/-- A loaded copy is the row's document as long as the row has its generation,
and the row never returns to it. -/
structure Current (cfg : Config V) (db : Db V (ResponseBody V)) (envId : EnvId)
    (loaded : Loaded Environment) : Prop where
  named : loaded.value.environmentId = envId
  row : ∃ row, db.environments.lookup envId = some row ∧
    loaded.revision.generation ≤ row.generation ∧
    (row.generation = loaded.revision.generation → row.revision = loaded.revision ∧
      cfg.json.environment.fromValue row.data = .ok loaded.value)

structure Remembers (cfg : Config V) (request : Request V) (k : Known V)
    (db : Db V (ResponseBody V)) : Prop where
  loaded : ∀ ctx loaded, request.admission cfg = some ctx → k.loaded = some loaded →
    Current cfg db ctx.envId loaded
  snapshots : Held cfg (Snaps cfg db) request k

theorem Names.encoded {json : StoreJson V} {env : Environment} {data : V}
    (encoded : json.environment.toValue env = .ok data) : Names json env.environmentId data := by
  intro other decoded
  rw [json.environment.fromValue_toValue env data encoded] at decoded
  cases decoded
  rfl

theorem Current.step {db after : Db V (ResponseBody V)} {envId : EnvId}
    {loaded : Loaded Environment} (held : Current cfg db envId loaded)
    (step : RowStep DocRow.generation (db.environments.lookup envId)
      (after.environments.lookup envId)) : Current cfg after envId loaded := by
  obtain ⟨named, row, present, low, same⟩ := held
  refine ⟨named, ?_⟩
  rcases step with unchanged | ⟨absent, _⟩ | ⟨old, new, current, written, succ⟩
  · exact ⟨row, unchanged.trans present, low, same⟩
  · rw [absent] at present
    cases present
  · rw [current] at present
    cases present
    exact ⟨new, written, by omega, fun equal => by omega⟩

theorem loadEnv_current {envId : EnvId} {loaded : Loaded Environment}
    (returned : Store.loadEnv cfg.json cfg.ext db envId = .ok loaded) :
    Current cfg db envId loaded := by
  unfold Store.loadEnv at returned
  split at returned
  · cases returned
  · rename_i row current
    obtain ⟨_, _, returned⟩ := bind_ok returned
    obtain ⟨env, decoded, returned⟩ := bind_ok returned
    obtain ⟨_, named, returned⟩ := bind_ok returned
    obtain ⟨_, _, returned⟩ := bind_ok returned
    cases returned
    exact ⟨ensure_ok named, row, current, le_rfl, fun _ => ⟨rfl, decode_ok decoded⟩⟩

theorem Snaps.step {after : Db V (ResponseBody V)}
    (steps : ∀ envId, RowStep DocRow.generation (db.environments.lookup envId)
      (after.environments.lookup envId)) (envId : EnvId) (snapshot : EnvSnapshot V)
    (snaps : Snaps cfg db envId snapshot) : Snaps cfg after envId snapshot :=
  ⟨snaps.1, (steps envId).present snaps.2⟩

theorem drafts_named (keyed : Keyed cfg db) (drafts : Drafts cfg request ctx k db call mid) :
    ∀ envId row, mid.environments.lookup envId = some row → Names cfg.json envId row.data := by
  cases drafts with
  | create named founds encoded absent =>
      exact Table.forall_insert keyed.environments (Names.encoded encoded)
  | update known transforms encoded current fresh =>
      exact Table.forall_insert keyed.environments (Names.encoded encoded)
  | policy known transforms priced encoded current fresh =>
      exact Table.forall_insert keyed.environments (Names.encoded encoded)
  | restore asked known held unpacked decoded encoded current fresh =>
      exact Table.forall_insert keyed.environments (Names.encoded encoded)
  | importEnv asked decoded named encoded absent history =>
      exact Table.forall_insert keyed.environments (named ▸ Names.encoded encoded)
  | _ => exact keyed.environments

theorem Keyed.empty : Keyed cfg Db.empty where
  environments := fun _ _ present => by cases present
  backups := .empty

theorem Keyed.withAudit (keyed : Keyed cfg db) (audit : AuditState V) :
    Keyed cfg (withAudit db audit) := ⟨keyed.environments, keyed.backups⟩

theorem Effect.keyed {now : Timestamp} {state : ServerState V} {reply : call.Reply}
    {after : Db V (ResponseBody V)} (effect : Effect cfg request k now state call reply after)
    (keyed : Keyed cfg state.db) (remembers : Remembers cfg request k state.db) :
    Keyed cfg after := by
  have steps := effect.environments
  cases effect with
  | quiet same kept =>
      rw [same]
      exact keyed
  | denial refused appended same kept =>
      rw [same]
      exact keyed.withAudit _
  | commit admitted drafts journaled wrote learned =>
      have tables := journalInTx_sameTables wrote
      refine ⟨?_, ?_⟩
      · rw [tables.environments]
        exact drafts_named keyed drafts
      · exact ((drafts_stored admitted keyed.backups remembers.snapshots drafts).sameTables
          tables).mono (Snaps.step steps)

theorem Remembers.step {after : Db V (ResponseBody V)} (remembers : Remembers cfg request k db)
    (steps : ∀ envId, RowStep DocRow.generation (db.environments.lookup envId)
      (after.environments.lookup envId)) : Remembers cfg request k after where
  loaded := fun ctx loaded admitted known =>
    (remembers.loaded ctx loaded admitted known).step (steps ctx.envId)
  snapshots := remembers.snapshots.mono (Snaps.step steps)

theorem loadEnvSnapshot_snaps (keyed : Keyed cfg db) (envId : EnvId) (snapshot : EnvSnapshot V)
    (revision : EnvRevision)
    (returned : Store.loadEnvSnapshot db envId = .ok (snapshot, revision)) :
    Snaps cfg db envId snapshot := by
  unfold loadEnvSnapshot at returned
  split at returned
  · cases returned
  · rename_i row current
    cases returned
    refine ⟨keyed.environments envId row current, ?_⟩
    rw [current]
    exact Option.some_ne_none row

theorem Remembers.learn {after : Known V} (keyed : Keyed cfg db)
    (remembers : Remembers cfg request k db) (permitted : permits cfg request k call)
    (learned : Learns cfg db k after call) : Remembers cfg request after db := by
  refine ⟨?_, remembers.snapshots.learn keyed.backups (loadEnvSnapshot_snaps keyed) permitted
    learned⟩
  intro ctx loaded admitted known
  rcases learned.loaded with same | ⟨envId, read, rfl, returned, now⟩
  · exact remembers.loaded ctx loaded admitted (same ▸ known)
  · rw [now] at known
    cases known
    cases permits_of_admission permitted admitted
    exact loadEnv_current returned

theorem Remembers.nothing (request : Request V) (db : Db V (ResponseBody V)) :
    Remembers cfg request Known.nothing db where
  loaded := fun _ _ _ known => (Option.some_ne_none _ known.symm).elim
  snapshots := .nothing request

/-- The startup sweep rewrites the audit tables alone. -/
theorem reconcileAuditRetention_audit (db : Db V (ResponseBody V)) (auditCap : Option Nat)
    (now : Timestamp) :
    ∃ audit, reconcileAuditRetention db auditCap now = withAudit db audit := by
  cases auditCap with
  | none => exact ⟨auditState db, rfl⟩
  | some cap => exact ⟨_, rfl⟩

theorem reconcileAuditRetention_sameTables (db : Db V (ResponseBody V)) (auditCap : Option Nat)
    (now : Timestamp) : SameTables db (reconcileAuditRetention db auditCap now) := by
  obtain ⟨audit, swept⟩ := reconcileAuditRetention_audit db auditCap now
  rw [swept]
  exact ⟨rfl, rfl, rfl, rfl, rfl, rfl⟩

/-- The rules of the invariant: documents stay under their names, and what a
request remembers stays true. -/
theorem updates_rules (cfg : Config V) : (server cfg).Rules (fun _ _ => True) (permits cfg)
    (Ends cfg) (fun state => Keyed cfg state.db)
    (fun request k state => Remembers cfg request k state.db) where
  body := serve_obeys cfg
  start := fun request state _ => .nothing request state.db
  reset := by
    intro pool event _ keyed
    obtain ⟨audit, swept⟩ :=
      reconcileAuditRetention_audit pool.shared.db (auditCapOf event.1) event.2
    have after : Keyed cfg (reconcileAuditRetention pool.shared.db (auditCapOf event.1)
        event.2) := by
      rw [swept]
      exact keyed.withAudit audit
    exact after
  inv := by
    intro pool index now task call next _ found program sound
    obtain ⟨permitted, remembers⟩ := sound.acting found program
    exact (effect_of_permitted _ _ permitted).keyed sound.inv remembers
  learned := by
    intro pool index now task call next _ found program sound
    obtain ⟨permitted, remembers⟩ := sound.acting found program
    exact (remembers.learn sound.inv permitted (learns cfg _ _ _ _)).step
      (effect_of_permitted _ _ permitted).environments
  stable := by
    intro pool index now task call next _ found program sound other _ _ remembers
    obtain ⟨permitted, _⟩ := sound.acting found program
    exact remembers.step (effect_of_permitted _ _ permitted).environments

abbrev KeepsDocuments (cfg : Config V) (pool : ServerPool V) : Prop :=
  (server cfg).Sound (permits cfg) (Ends cfg) (fun state => Keyed cfg state.db)
    (fun request k state => Remembers cfg request k state.db) pool

theorem updates_sound (cfg : Config V) (maxRows : Option UInt32)
    (actions : List (ServerAction V)) :
    KeepsDocuments cfg ((serverRuns cfg).run (boot maxRows) actions) :=
  (server cfg).sound_run (updates_rules cfg) (boot maxRows) actions
    ((serverRuns cfg).admits_of_allowed (fun _ _ => trivial) _ _)
    ((server cfg).sound_empty .empty)

/-- How the request of a task, behind its gate, may change the row of its
environment: found it, apply its verb to the document that is there, or bring
back the document of the backup it loaded. -/
inductive Commits (cfg : Config V) (task : ServerTask V) (ctx : Context) :
    Option (DocRow V) → Option (DocRow V) → Prop
  | found {row} (first : row.generation = 1)
      (founds : (∃ mutation env, task.tag.route = .mutate mutation ∧ mutation.Founds env ∧
          cfg.json.environment.toValue env = .ok row.data) ∨
        ∃ segment artifact, task.tag.route = .mutate (.importEnvironment segment artifact)) :
      Commits cfg task ctx none (some row)
  | transform {old new env mutation policyRef verb}
      (next : new.generation = old.generation + 1)
      (routed : task.tag.route = .mutate mutation)
      (named : mutation.engineVerb ctx.head ctx.idemKey policyRef = some verb)
      (decoded : cfg.json.environment.fromValue old.data = .ok env)
      (encoded : cfg.json.environment.toValue (persist cfg.serde cfg.ext env verb) =
        .ok new.data) :
      Commits cfg task ctx (some old) (some new)
  | restore {old new backup snapshot env segment id pin}
      (next : new.generation = old.generation + 1)
      (routed : task.tag.route = .mutate (.restoreEnvironment segment id pin))
      (held : task.known.backup = some backup)
      (unpacked : cfg.json.snapshot.fromValue backup.state = .ok snapshot)
      (decoded : cfg.json.environment.fromValue snapshot.environment = .ok env)
      (encoded : cfg.json.environment.toValue env = .ok new.data) :
      Commits cfg task ctx (some old) (some new)

def pinsRevision : Call V → Bool
  | .updateEnv .. => true
  | .updateEnvWithRevenuePolicy .. => true
  | .restoreEnv .. => true
  | _ => false

theorem Transforms.environmentId {before after : Environment} {admits : Verb → Prop}
    (transforms : Transforms cfg request ctx before after admits) :
    after.environmentId = before.environmentId := by
  obtain ⟨_, _, verb, _, _, _, rfl⟩ := transforms
  exact persist_environmentId cfg.serde cfg.ext before verb

theorem Current.decoded {envId : EnvId} {loaded : Loaded Environment} {row : DocRow V}
    (held : Current cfg db envId loaded) (present : db.environments.lookup envId = some row)
    (fresh : row.generation = loaded.revision.generation) :
    cfg.json.environment.fromValue row.data = .ok loaded.value := by
  obtain ⟨_, other, found, _, same⟩ := held
  rw [present] at found
  cases found
  exact (same fresh).2

theorem Commits.of_transforms {task : ServerTask V} {loaded : Loaded Environment}
    {env : Environment} {data : V} {row : DocRow V} {admits : Verb → Prop}
    (held : Current cfg db ctx.envId loaded)
    (transforms : Transforms cfg task.tag ctx loaded.value env admits)
    (encoded : cfg.json.environment.toValue env = .ok data)
    (current : db.environments.lookup env.environmentId = some row)
    (fresh : row.generation = loaded.revision.generation) :
    env.environmentId = ctx.envId ∧
      Commits cfg task ctx (some row) (some (docRow cfg.json data (row.generation + 1))) := by
  have own : env.environmentId = ctx.envId := transforms.environmentId.trans held.named
  rw [own] at current
  obtain ⟨mutation, policyRef, verb, routed, named, _, rfl⟩ := transforms
  exact ⟨own, .transform rfl routed named (held.decoded current fresh) encoded⟩

theorem drafts_commits {task : ServerTask V} (admitted : task.tag.admission cfg = some ctx)
    (remembers : Remembers cfg task.tag task.known db)
    (drafts : Drafts cfg task.tag ctx task.known db call mid) (envId : EnvId) :
    mid.environments.lookup envId = db.environments.lookup envId ∨
      ctx.envId = envId ∧ Commits cfg task ctx (db.environments.lookup envId)
        (mid.environments.lookup envId) := by
  cases drafts with
  | @create env data journal named founds encoded absent =>
      obtain ⟨mutation, routed, founded⟩ := founds
      rcases Table.lookup_insert_cases db.environments env.environmentId envId (docRow cfg.json data 1)
        with other | ⟨rfl, written⟩
      · exact .inl other
      · refine .inr ⟨named.symm, ?_⟩
        rw [Db.putEnv_environments, written, absent]
        exact .found rfl (.inl ⟨mutation, env, routed, founded, encoded⟩)
  | @update env precondition loaded data row journal known transforms encoded current fresh =>
      obtain ⟨own, commits⟩ := Commits.of_transforms
        (remembers.loaded ctx loaded admitted known) transforms encoded current fresh
      rcases Table.lookup_insert_cases db.environments env.environmentId envId
        (docRow cfg.json data (row.generation + 1)) with other | ⟨rfl, written⟩
      · exact .inl other
      · refine .inr ⟨own.symm, ?_⟩
        rw [Db.putEnv_environments, written, current]
        exact commits
  | @policy env precondition loaded index deployment artifact trustRootPin data row journal known
      transforms priced encoded current fresh =>
      obtain ⟨own, commits⟩ := Commits.of_transforms
        (remembers.loaded ctx loaded admitted known) transforms encoded current fresh
      rcases Table.lookup_insert_cases db.environments env.environmentId envId
        (docRow cfg.json data (row.generation + 1)) with other | ⟨rfl, written⟩
      · exact .inl other
      · refine .inr ⟨own.symm, ?_⟩
        rw [Db.putEnv_environments, Db.putPolicy_environments, written, current]
        exact commits
  | @restore snapshot precondition loaded backup env data row runtimes answers journal asked known
      held unpacked decoded encoded current fresh =>
      obtain ⟨segment, id, pin, routed⟩ := asked
      have own : env.environmentId = ctx.envId :=
        (remembers.snapshots.backup ctx backup admitted held snapshot unpacked).1 env decoded
      rcases Table.lookup_insert_cases db.environments env.environmentId envId
        (docRow cfg.json data (row.generation + 1)) with other | ⟨rfl, written⟩
      · exact .inl other
      · refine .inr ⟨own.symm, ?_⟩
        rw [withAudit_environments, Db.withSidecars_environments, Db.putEnv_environments, written,
          current]
        exact .restore rfl routed held unpacked decoded encoded
  | @importEnv snapshot env data runtimes answers audit journal asked decoded named encoded absent
      history =>
      rcases Table.lookup_insert_cases db.environments ctx.envId envId (docRow cfg.json data 1)
        with other | ⟨rfl, written⟩
      · exact .inl other
      · refine .inr ⟨rfl, ?_⟩
        rw [withAudit_environments, Db.withSidecars_environments, Db.putEnv_environments, written,
          absent]
        exact .found rfl (.inr asked)
  | _ => exact .inl rfl

theorem Current.present {envId : EnvId} {loaded : Loaded Environment}
    (held : Current cfg db envId loaded) : db.environments.lookup envId ≠ none := by
  obtain ⟨_, row, found, _⟩ := held
  rw [found]
  exact Option.some_ne_none row

theorem Current.revision {envId : EnvId} {loaded : Loaded Environment} {row : DocRow V}
    (held : Current cfg db envId loaded) (present : db.environments.lookup envId = some row)
    (fresh : row.generation = loaded.revision.generation) :
    (db.environments.lookup envId).map DocRow.revision = some loaded.revision := by
  obtain ⟨_, other, found, _, same⟩ := held
  rw [present] at found
  cases found
  rw [present, Option.map_some, (same fresh).1]

theorem drafts_stale {loaded : Loaded Environment} (admitted : request.admission cfg = some ctx)
    (remembers : Remembers cfg request k db) (known : k.loaded = some loaded)
    (stale : (db.environments.lookup ctx.envId).map DocRow.revision ≠ some loaded.revision)
    (drafts : Drafts cfg request ctx k db call mid) :
    pinsRevision call = false ∧ mid.environments = db.environments := by
  have held := remembers.loaded ctx loaded admitted known
  have pinned : ∀ {other : Loaded Environment} {row : DocRow V}, k.loaded = some other →
      db.environments.lookup ctx.envId = some row →
      row.generation = other.revision.generation → False := by
    intro other row same current fresh
    rw [known] at same
    cases same
    exact stale (held.revision current fresh)
  cases drafts with
  | create named founds encoded absent => exact absurd (named ▸ absent) held.present
  | update same transforms encoded current fresh =>
      rw [transforms.environmentId, (remembers.loaded ctx _ admitted same).named] at current
      exact (pinned same current fresh).elim
  | policy same transforms priced encoded current fresh =>
      rw [transforms.environmentId, (remembers.loaded ctx _ admitted same).named] at current
      exact (pinned same current fresh).elim
  | restore asked same backup unpacked decoded encoded current fresh =>
      rw [(remembers.snapshots.backup ctx _ admitted backup _ unpacked).1 _ decoded] at current
      exact (pinned same current fresh).elim
  | importEnv asked decoded named encoded absent history => exact absurd absent held.present
  | _ => exact ⟨rfl, rfl⟩

/-- What a step may do to the documents of a pool. -/
structure UpdatesKept (cfg : Config V) (pool : ServerPool V) (action : ServerAction V) : Prop where
  /-- A row changes only by a commit of the request that takes the step. -/
  commits : ∀ envId,
    ((server cfg).step pool action).shared.db.environments.lookup envId =
      pool.shared.db.environments.lookup envId ∨
    ∃ index now task ctx, action = .advance index now ∧ pool.tasks[index]? = some task ∧
      task.tag.admission cfg = some ctx ∧ ctx.envId = envId ∧
      Commits cfg task ctx (pool.shared.db.environments.lookup envId)
        (((server cfg).step pool action).shared.db.environments.lookup envId)
  /-- A request that has loaded a revision no longer current writes no document,
  and a call of it that pins that revision writes nothing at all. -/
  stale : ∀ index now task ctx loaded, action = .advance index now →
    pool.tasks[index]? = some task → task.tag.admission cfg = some ctx →
    task.known.loaded = some loaded →
    (pool.shared.db.environments.lookup ctx.envId).map DocRow.revision ≠ some loaded.revision →
    ((server cfg).step pool action).shared.db.environments = pool.shared.db.environments ∧
    ∀ call next, task.program = .call call next → pinsRevision call = true →
      ((server cfg).step pool action).shared.db = pool.shared.db

theorem updatesKept_of_same {pool : ServerPool V} {action : ServerAction V}
    (same : ((server cfg).step pool action).shared.db.environments =
      pool.shared.db.environments)
    (quiet : ∀ index now, action = .advance index now →
      ((server cfg).step pool action).shared.db = pool.shared.db) :
    UpdatesKept cfg pool action where
  commits := fun envId => .inl (by rw [same])
  stale := fun index now _ _ _ turn _ _ _ _ => ⟨same, fun _ _ _ _ => quiet index now turn⟩

theorem updatesKept_of_sound {pool : ServerPool V} (sound : KeepsDocuments cfg pool)
    (action : ServerAction V) : UpdatesKept cfg pool action := by
  cases action with
  | arrive request => exact updatesKept_of_same rfl fun _ _ turn => by cases turn
  | restart event =>
      exact updatesKept_of_same (reconcileAuditRetention_sameTables _ _ _).environments
        fun _ _ turn => by cases turn
  | advance index now =>
      rcases (server cfg).step_advance pool index now with
        ⟨same, idle⟩ | ⟨task, call, next, found, program, stepped⟩
      · exact updatesKept_of_same (by rw [same]) fun _ _ _ => by rw [same]
      · obtain ⟨permitted, remembers⟩ := sound.acting found program
        have effect := effect_of_permitted now pool.shared permitted
        have after : ((server cfg).step pool (.advance index now)).shared.db =
            (execute cfg.json cfg.ext ⟨pool.shared.auditCap, now⟩ pool.shared.db call).2 := by
          rw [stepped]
          rfl
        rw [← after] at effect
        cases effect with
        | quiet same kept => exact updatesKept_of_same (by rw [same]) fun _ _ _ => same
        | denial refused appended same kept =>
            refine ⟨fun envId => .inl (by rw [same]; rfl), ?_⟩
            intro _ _ other ctx _ turn others admitted
            cases turn
            rw [found] at others
            cases others
            rw [refused] at admitted
            cases admitted
        | @commit ctx mid journal admitted drafts journaled wrote learned =>
            have tables := (journalInTx_sameTables wrote).environments
            refine ⟨?_, ?_⟩
            · intro envId
              rw [tables]
              rcases drafts_commits admitted remembers drafts envId with same | ⟨own, commits⟩
              · exact .inl same
              · exact .inr ⟨index, now, task, ctx, rfl, found, admitted, own, commits⟩
            · intro _ _ other own loaded turn others admission known stale
              cases turn
              rw [found] at others
              cases others
              rw [admitted] at admission
              cases admission
              obtain ⟨unpinned, same⟩ := drafts_stale admitted remembers known stale drafts
              refine ⟨tables.trans same, ?_⟩
              intro pinning rest sameProgram pins
              rw [program] at sameProgram
              cases sameProgram
              rw [unpinned] at pins
              cases pins

/-- No lost update. Whatever the interleaving of whatever requests, a step changes
an environment's row only as a commit of the request that takes it: the first
document at generation one, the request's verb applied to the document committed
just before it, or the document of the backup it loaded, one generation up. -/
theorem no_lost_update (cfg : Config V) (maxRows : Option UInt32)
    (actions : List (ServerAction V)) (action : ServerAction V) :
    UpdatesKept cfg ((serverRuns cfg).run (boot maxRows) actions) action :=
  updatesKept_of_sound (updates_sound cfg maxRows actions) action

def StaleCommitsNothing (cfg : Config V) : Prop :=
  ∀ maxRows actions index now task ctx loaded,
    ((serverRuns cfg).run (boot maxRows) actions).tasks[index]? = some task →
    task.tag.admission cfg = some ctx → task.known.loaded = some loaded →
    (((serverRuns cfg).run (boot maxRows) actions).shared.db.environments.lookup
      ctx.envId).map DocRow.revision ≠ some loaded.revision →
    ((server cfg).step ((serverRuns cfg).run (boot maxRows) actions)
        (.advance index now)).shared.db =
      ((serverRuns cfg).run (boot maxRows) actions).shared.db

/-- That every document after the first is the verb of its request applied to the
one before. -/
def EveryCommitTransforms (cfg : Config V) : Prop :=
  ∀ maxRows actions index now task ctx old new,
    ((serverRuns cfg).run (boot maxRows) actions).tasks[index]? = some task →
    task.tag.admission cfg = some ctx →
    ((serverRuns cfg).run (boot maxRows) actions).shared.db.environments.lookup ctx.envId =
      some old →
    ((server cfg).step ((serverRuns cfg).run (boot maxRows) actions)
      (.advance index now)).shared.db.environments.lookup ctx.envId = some new →
    new.generation ≠ old.generation →
    ∃ mutation policyRef verb env, task.tag.route = .mutate mutation ∧
      mutation.engineVerb ctx.head ctx.idemKey policyRef = some verb ∧
      cfg.json.environment.fromValue old.data = .ok env ∧
      cfg.json.environment.toValue (persist cfg.serde cfg.ext env verb) = .ok new.data

/-- A removal of an endpoint that is not there loads the document; a rename
commits before the removal records that it had nothing to do. -/
def overtaken : List (ServerAction PlainValue) :=
  served 0 (demoRequest none "a" demoCreate) ++
    [.arrive (demoRequest none "b" (.removeMessagingEndpoint (.ok ⟨"local"⟩) (.ok ⟨9⟩)))] ++
    turns 1 2 ++ served 2 (demoRequest none "c" (demoRename "renamed"))

/-- A backup is taken, the document renamed, and the backup about to be restored. -/
def rewound : List (ServerAction PlainValue) :=
  served 0 (demoRequest none "a" demoCreate) ++
    served 1 (demoRequest none "b" (.createBackup (.ok ⟨"local"⟩))) ++
    served 2 (demoRequest none "c" (demoRename "renamed")) ++
    [.arrive (demoRequest none "d" (.restoreEnvironment (.ok ⟨"local"⟩) "b" ⟨none, some 2⟩))] ++
    turns 3 3

/-- Two commits are outside the rule of verbs and pins, both by design: a request
with nothing to write records its key whatever revision it saw, and a restore
writes what the backup holds. -/
theorem commits_without_verb_or_pin :
    ¬ StaleCommitsNothing (demoConfig .openDev) ∧
      ¬ EveryCommitTransforms (demoConfig .openDev) := by
  refine ⟨?_, ?_⟩
  · intro claim
    have same := claim none overtaken 1 "2026-01-01 00:00:00"
      (((serverRuns (demoConfig .openDev)).run (boot none) overtaken).tasks[1]?.get rfl) _ _
      (Option.some_get _).symm rfl rfl (by decide)
    exact absurd (congrArg (fun db => db.idempotencyLedger.length) same) (by decide)
  · intro claim
    obtain ⟨mutation, policyRef, verb, env, routed, named, _⟩ :=
      claim none rewound 3 "2026-01-01 00:00:00"
        (((serverRuns (demoConfig .openDev)).run (boot none) rewound).tasks[3]?.get rfl) _ _ _
        (Option.some_get _).symm rfl rfl rfl (by decide)
    cases routed
    cases named

end GreenticDeployer.Server
