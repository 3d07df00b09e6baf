import GreenticDeployer.Store.AuditReplay
import GreenticDeployer.Server.Updates

/-!
# Restores over whole runs

Between the capture of a backup and its replay the log of an environment is
appended to, pruned, restored and restarted over. Each captured row is live or
forgotten all the way, and so a restore merges without loss and adds one row.
-/

set_option maxHeartbeats 200000

namespace GreenticDeployer.Server

open Spec Engine Store Trust Lib

variable {V : Type} {cfg : Config V} {request : Request V} {ctx : Context} {k : Known V}
variable {db mid : Db V (ResponseBody V)} {call : Call V}

theorem drafts_keeps (drafts : Drafts cfg request ctx k db call mid) :
    Keeps (auditState db) (auditState mid) := by
  cases drafts with
  | restore => exact replayAuditInTx_keeps _ _ _ _
  | importEnv asked decoded named encoded absent history valid => exact importAudit_keeps history
  | _ => exact .refl _

theorem Effect.keeps {now : Timestamp} {state : ServerState V} {reply : call.Reply}
    {after : Db V (ResponseBody V)} (effect : Effect cfg request k now state call reply after) :
    Keeps (auditState state.db) (auditState after) := by
  cases effect with
  | quiet same kept =>
      rw [same]
      exact .refl _
  | denial refused appended same kept =>
      rw [same]
      exact appendAndPrune_keeps appended
  | commit admitted drafts journaled wrote learned =>
      obtain ⟨ledger, audit, _, appended, written⟩ := journalInTx_ok wrote
      rw [written]
      exact (drafts_keeps drafts).trans (appendAndPrune_keeps appended)

theorem Effect.stored {now : Timestamp} {state : ServerState V} {reply : call.Reply}
    {after : Db V (ResponseBody V)} (effect : Effect cfg request k now state call reply after)
    (stored : Stored cfg (Retained state.db) state.db) (held : Held cfg (Retained state.db) request k) :
    Stored cfg (Retained after) after := by
  have moves : ∀ envId snapshot, Retained state.db envId snapshot → Retained after envId snapshot :=
    fun _ _ kept => kept.keeps effect.keeps
  cases effect with
  | quiet same kept =>
      rw [same]
      exact stored
  | denial refused appended same kept =>
      subst same
      exact stored.mono moves
  | commit admitted drafts journaled wrote learned =>
      exact ((drafts_stored admitted stored held drafts).sameTables
        (journalInTx_sameTables wrote)).mono moves

abbrev KeepsBackups (cfg : Config V) (pool : ServerPool V) : Prop :=
  (server cfg).Sound (permits cfg) (Ends cfg) (fun state => Stored cfg (Retained state.db) state.db)
    (fun request k state => Held cfg (Retained state.db) request k) pool

theorem exec_keeps {pool : ServerPool V} {index : Nat} {now : Timestamp} {task : ServerTask V}
    {call : Call V}
    {next : call.Reply → Program (Call V) StorageCall.Reply (Except RemoteStoreError (Response V))}
    (found : pool.tasks[index]? = some task) (program : task.program = .call call next)
    (sound : KeepsBackups cfg pool) :
    Keeps (auditState pool.shared.db)
      (auditState ((server cfg).exec now pool.shared call).2.db) := by
  obtain ⟨permitted, _⟩ := sound.acting found program
  exact (effect_of_permitted now pool.shared permitted).keeps

theorem restore_rules (cfg : Config V) : (server cfg).Rules (fun _ _ => True) (permits cfg)
    (Ends cfg) (fun state => Stored cfg (Retained state.db) state.db)
    (fun request k state => Held cfg (Retained state.db) request k) where
  body := serve_obeys cfg
  start := fun request _ _ => .nothing request
  reset := by
    intro pool event _ stored
    have keeps := reconcileAuditRetention_keeps pool.shared.db (auditCapOf event.1) event.2
    exact (stored.sameTables (reconcileAuditRetention_sameTables _ _ _)).mono
      fun _ _ kept => kept.keeps keeps
  inv := by
    intro pool index now task call next _ found program sound
    obtain ⟨permitted, held⟩ := sound.acting found program
    exact (effect_of_permitted now pool.shared permitted).stored sound.inv held
  learned := by
    intro pool index now task call next _ found program sound
    obtain ⟨permitted, held⟩ := sound.acting found program
    exact (held.learn sound.inv loadEnvSnapshot_retained permitted (learns cfg _ _ _ _)).mono
      fun _ _ kept => kept.keeps (exec_keeps found program sound)
  stable := by
    intro pool index now task call next _ found program sound other _ _ held
    exact held.mono fun _ _ kept => kept.keeps (exec_keeps found program sound)

theorem step_keeps {pool : ServerPool V} (action : ServerAction V) (sound : KeepsBackups cfg pool) :
    Keeps (auditState pool.shared.db)
      (auditState ((server cfg).step pool action).shared.db) := by
  cases action with
  | arrive request => exact .refl _
  | restart event => exact reconcileAuditRetention_keeps _ _ _
  | advance index now =>
      rcases (server cfg).step_advance pool index now with
        ⟨same, _⟩ | ⟨task, call, next, found, program, stepped⟩
      · rw [same]
        exact .refl _
      · rw [stepped]
        exact exec_keeps found program sound

/-- Whatever happens after a state, its rows stay accounted for. -/
theorem run_keeps {pool : ServerPool V} (sound : KeepsBackups cfg pool)
    (actions : List (ServerAction V)) :
    Keeps (auditState pool.shared.db)
      (auditState ((serverRuns cfg).run pool actions).shared.db) := by
  have both := (serverRuns cfg).run_invariant
    (fun later => KeepsBackups cfg later ∧
      Keeps (auditState pool.shared.db) (auditState later.shared.db))
    (fun later action _ holds => ⟨(server cfg).sound_step (restore_rules cfg) later action trivial
      holds.1, holds.2.trans (step_keeps action holds.1)⟩)
    pool actions ((serverRuns cfg).admits_of_allowed (fun _ _ => trivial) pool actions)
    ⟨sound, .refl _⟩
  exact both.2

theorem run_stored (cfg : Config V) (maxRows : Option UInt32) (actions : List (ServerAction V)) :
    KeepsBackups cfg ((serverRuns cfg).run (boot maxRows) actions) :=
  (server cfg).sound_run (restore_rules cfg) (boot maxRows) actions
    ((serverRuns cfg).admits_of_allowed (fun _ _ => trivial) _ _)
    ((server cfg).sound_empty .empty)

/-- Restores merge without loss while no retention cap is set. Any backup that some state of
a run holds stays compatible with every later state. Restored into any state it is
compatible with, rows lost since included: live rows stay as they are, every captured row
above the live watermark is there, the watermark is the greater one, and the second time
the restore's own row is all that is added. -/
theorem restore_merges (cfg : Config V) (maxRows : Option UInt32) :
    (∀ (actions more : List (ServerAction V)) envId id backup snapshot,
      ((serverRuns cfg).run (boot maxRows) actions).shared.db.backups.lookup (envId, id) =
        some backup →
      cfg.json.snapshot.fromValue backup.state = .ok snapshot →
      Compatible ((serverRuns cfg).run (boot maxRows) (actions ++ more)).shared.db envId
        snapshot) ∧
    ∀ (db : Db V (ResponseBody V)) envId snapshot, Compatible db envId snapshot →
      ∀ precondition journal now revision after,
        restoreEnv cfg.json cfg.ext db envId snapshot precondition journal none now =
          .ok (revision, after) →
        Merged db after envId snapshot journal now ∧
        ∀ precondition' journal' now' revision' again,
          restoreEnv cfg.json cfg.ext after envId snapshot precondition' journal' none now' =
            .ok (revision', again) →
          Merged after again envId snapshot journal' now' ∧
            again.auditLog.rows =
              after.auditLog.rows ++ journalRows after.auditLog.sequence journal' now' := by
  constructor
  · intro actions more envId id backup snapshot stored unpacked
    have sound := run_stored cfg maxRows actions
    have captured := sound.inv (envId, id) backup stored snapshot unpacked
    rw [System.run_append]
    exact (captured.keeps (run_keeps sound more)).settled.compatible
  · intro db envId snapshot compatible precondition journal now revision after restored
    obtain ⟨merged, settled⟩ := restoreEnv_merged compatible restored
    refine ⟨merged, fun precondition' journal' now' revision' again returned => ⟨?_, ?_⟩⟩
    · exact (restoreEnv_merged settled.compatible returned).1
    · exact restoreEnv_settled settled returned

/-- A server that keeps two audit rows backs up its only environment twice, the second time
past a first prune. -/
def backedUpTwice : List (ServerAction PlainValue) :=
  served 0 (demoRequest none "a" demoCreate) ++
    served 1 (demoRequest none "b" (.createBackup (.ok ⟨"local"⟩))) ++
    served 2 (demoRequest none "c" (demoRename "renamed")) ++
    served 3 (demoRequest none "d" (.createBackup (.ok ⟨"local"⟩)))

/-- It prunes a captured row, and is restarted without a cap. -/
def prunedSince : List (ServerAction PlainValue) :=
  served 4 (demoRequest none "e" (demoRename "again")) ++ [.restart (none, "2026-01-02 00:00:00")]

def prunedDb : Db PlainValue (ResponseBody PlainValue) :=
  ((serverRuns (demoConfig .openDev)).run (boot (some 2)) (backedUpTwice ++ prunedSince)).shared.db

/-- The same store without its audit tables, the newest row apart. -/
def bereftDb : Db PlainValue (ResponseBody PlainValue) :=
  withAudit prunedDb ⟨prunedDb.auditLog.restrict fun row => 4 < row.id, ∅⟩

def lateBackup : StoredBackup PlainValue :=
  (((serverRuns (demoConfig .openDev)).run (boot (some 2)) backedUpTwice).shared.db.backups.lookup
    (⟨"local"⟩, "d")).get rfl

def lateSnapshot : EnvSnapshot PlainValue :=
  ((demoConfig .openDev).json.snapshot.fromValue lateBackup.state).toOption.get rfl

/-- Pruned rows stay forgotten where the watermark says so; where rows and watermark are
lost, both come back. -/
theorem restore_merges_prunedSince :
    (∃ revision after,
      restoreEnv (demoConfig .openDev).json (demoConfig .openDev).ext prunedDb ⟨"local"⟩
        lateSnapshot ⟨none, some 3⟩ none none "2026-01-03 00:00:00" = .ok (revision, after) ∧
      lateSnapshot.auditLog.map (·.id) = [2, 3] ∧
      prunedDb.auditLog.rows.map (·.id) = [4, 5] ∧ after.auditLog.rows.map (·.id) = [4, 5] ∧
      Merged prunedDb after ⟨"local"⟩ lateSnapshot none "2026-01-03 00:00:00") ∧
    ∃ revision after,
      restoreEnv (demoConfig .openDev).json (demoConfig .openDev).ext bereftDb ⟨"local"⟩
        lateSnapshot ⟨none, some 3⟩ none none "2026-01-03 00:00:00" = .ok (revision, after) ∧
      bereftDb.auditLog.rows.map (·.id) = [5] ∧ after.auditLog.rows.map (·.id) = [2, 3, 5] ∧
      (after.auditRetention.lookup ⟨"local"⟩).map (·.prunedThroughId) = some 1 ∧
      Merged bereftDb after ⟨"local"⟩ lateSnapshot none "2026-01-03 00:00:00" := by
  obtain ⟨compatible, merges⟩ := restore_merges (demoConfig .openDev) (some 2)
  have gone : ∀ entry ∈ remembered bereftDb ⟨"local"⟩ lateSnapshot,
      ∀ row ∈ bereftDb.auditLog.rows, row.id ≠ entry.id := by decide
  have lost : Compatible bereftDb ⟨"local"⟩ lateSnapshot := by
    refine ⟨by decide, fun entry member there => ?_, by decide, by decide⟩
    exact absurd (mem_missing.mpr ⟨member, gone entry member⟩) there
  refine ⟨⟨_, _, rfl, by decide, by decide, by decide, ?_⟩,
    ⟨_, _, rfl, by decide, by decide, by decide, ?_⟩⟩
  · have kept : Compatible prunedDb ⟨"local"⟩ lateSnapshot :=
      compatible backedUpTwice prunedSince ⟨"local"⟩ "d" lateBackup lateSnapshot
        (Option.some_get _).symm rfl
    exact (merges prunedDb ⟨"local"⟩ lateSnapshot kept ⟨none, some 3⟩ none _ _ _ rfl).1
  · exact (merges bereftDb ⟨"local"⟩ lateSnapshot lost ⟨none, some 3⟩ none _ _ _ rfl).1

end GreenticDeployer.Server
