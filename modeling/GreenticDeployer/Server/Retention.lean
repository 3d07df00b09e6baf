import GreenticDeployer.Server.Updates
import GreenticDeployer.Store.Watermark

/-!
# The audit watermark over whole runs

Appends, prunes, restores and restarts agree on what a watermark means. An import
hands out new row numbers but keeps a watermark counted in those of another
database; where the two do not fit, its rows lie under the watermark.
-/

set_option maxHeartbeats 200000

namespace GreenticDeployer.Server

open Spec Engine Store Trust Lib

variable {V : Type} {cfg : Config V} {request : Request V} {ctx : Context} {k : Known V}
variable {db mid : Db V (ResponseBody V)} {call : Call V}

def pendingImport : Program (Call V) StorageCall.Reply (Except RemoteStoreError (Response V)) →
    Option (EnvId × EnvSnapshot V)
  | .call (.importEnv envId snapshot _) _ => some (envId, snapshot)
  | _ => none

/-- Every import of an environment that is not there carries no watermark, or one below the
live rows of its environment and not above the numbers handed out so far. -/
def ImportsFit (pool : ServerPool V) : ServerAction V → Prop
  | .advance index _ => ∀ task ∈ pool.tasks[index]?, ∀ pending ∈ pendingImport task.program,
      pool.shared.db.environments.lookup pending.1 = none →
      ∀ captured ∈ pending.2.auditRetention,
        Below pool.shared.db.auditLog pending.1 captured.prunedThroughId
  | _ => True

instance (log : AuditLog V) (envId : EnvId) (watermark : Int) :
    Decidable (Below log envId watermark) :=
  decidable_of_iff (watermark ≤ log.sequence ∧
      ∀ row ∈ log.rows, row.envId = envId → watermark < row.id)
    ⟨fun both => ⟨both.1, both.2⟩, fun below => ⟨below.numbered, below.live⟩⟩

instance (pool : ServerPool V) : (action : ServerAction V) → Decidable (ImportsFit pool action)
  | .advance index _ => inferInstanceAs (Decidable (∀ task ∈ pool.tasks[index]?,
      ∀ pending ∈ pendingImport task.program,
      pool.shared.db.environments.lookup pending.1 = none →
      ∀ captured ∈ pending.2.auditRetention,
        Below pool.shared.db.auditLog pending.1 captured.prunedThroughId))
  | .arrive _ => .isTrue trivial
  | .restart _ => .isTrue trivial

/-- A snapshot taken under the watermark its environment still has, or under a
lower one. -/
def Taken (db : Db V (ResponseBody V)) (envId : EnvId) (snapshot : EnvSnapshot V) : Prop :=
  Reached db.auditRetention envId snapshot.auditRetention

structure Marked (cfg : Config V) (db : Db V (ResponseBody V)) : Prop where
  audit : Watermarked (auditState db)
  backups : Stored cfg (Taken db) db

theorem Taken.rises {after : Db V (ResponseBody V)}
    (rises : Rises db.auditRetention after.auditRetention) (envId : EnvId)
    (snapshot : EnvSnapshot V) (taken : Taken db envId snapshot) : Taken after envId snapshot :=
  Reached.rises taken rises

theorem loadEnvSnapshot_taken (envId : EnvId) (snapshot : EnvSnapshot V) (revision : EnvRevision)
    (returned : Store.loadEnvSnapshot db envId = .ok (snapshot, revision)) :
    Taken db envId snapshot := by
  unfold loadEnvSnapshot at returned
  split at returned
  · cases returned
  · cases returned
    exact fun watermark present => ⟨watermark, present, le_rfl⟩

theorem drafts_audit (admitted : request.admission cfg = some ctx) (marked : Marked cfg db)
    (held : Held cfg (Taken db) request k)
    (fits : ∀ envId snapshot journal, call = .importEnv envId snapshot journal →
      db.environments.lookup envId = none →
      ∀ captured ∈ snapshot.auditRetention, Below db.auditLog envId captured.prunedThroughId)
    (drafts : Drafts cfg request ctx k db call mid) :
    Watermarked (auditState mid) ∧ Rises db.auditRetention mid.auditRetention := by
  cases drafts with
  | restore asked known brought unpacked decoded encoded current fresh valid =>
      have reached := held.backup ctx _ admitted brought _ unpacked
      exact replayAuditInTx_watermarked marked.audit reached
  | importEnv asked decoded named encoded absent history valid =>
      exact importAudit_watermarked marked.audit (fits _ _ _ rfl absent) history
  | _ => exact ⟨marked.audit, .refl _⟩

theorem Effect.marked {now : Timestamp} {state : ServerState V} {reply : call.Reply}
    {after : Db V (ResponseBody V)} (effect : Effect cfg request k now state call reply after)
    (marked : Marked cfg state.db) (held : Held cfg (Taken state.db) request k)
    (fits : ∀ envId snapshot journal, call = .importEnv envId snapshot journal →
      state.db.environments.lookup envId = none →
      ∀ captured ∈ snapshot.auditRetention,
        Below state.db.auditLog envId captured.prunedThroughId) :
    Marked cfg after ∧ Rises state.db.auditRetention after.auditRetention := by
  cases effect with
  | quiet same kept =>
      rw [same]
      exact ⟨marked, .refl _⟩
  | denial refused appended same kept =>
      rw [same]
      obtain ⟨audit, rises⟩ := appendAndPrune_watermarked marked.audit appended
      exact ⟨⟨audit, marked.backups.mono (Taken.rises rises)⟩, rises⟩
  | commit admitted drafts journaled wrote learned =>
      obtain ⟨drafted, first⟩ := drafts_audit admitted marked held fits drafts
      have stored := drafts_stored admitted marked.backups held drafts
      obtain ⟨ledger, audit, _, appended, written⟩ := journalInTx_ok wrote
      obtain ⟨journaledAudit, second⟩ := appendAndPrune_watermarked drafted appended
      have rises : Rises state.db.auditRetention after.auditRetention := by
        rw [written]
        exact first.trans second
      refine ⟨⟨?_, ?_⟩, rises⟩
      · rw [written]
        exact journaledAudit
      · exact (stored.sameTables (journalInTx_sameTables wrote)).mono (Taken.rises rises)

theorem ImportsFit.pending {pool : ServerPool V} {index : Nat} {now : Timestamp}
    {task : ServerTask V} {call : Call V}
    {next : call.Reply → Program (Call V) StorageCall.Reply (Except RemoteStoreError (Response V))}
    (fits : ImportsFit pool (.advance index now)) (found : pool.tasks[index]? = some task)
    (program : task.program = .call call next) (envId : EnvId) (snapshot : EnvSnapshot V)
    (journal : Option (Journal V)) (imports : call = .importEnv envId snapshot journal)
    (absent : pool.shared.db.environments.lookup envId = none) :
    ∀ captured ∈ snapshot.auditRetention,
      Below pool.shared.db.auditLog envId captured.prunedThroughId := by
  subst imports
  refine fits task found (envId, snapshot) ?_ absent
  rw [program]
  rfl

abbrev KeepsMarks (cfg : Config V) (pool : ServerPool V) : Prop :=
  (server cfg).Sound (permits cfg) (Ends cfg) (fun state => Marked cfg state.db)
    (fun request k state => Held cfg (Taken state.db) request k) pool

/-- A turn under the condition: the watermarks hold after it and none is lower. -/
theorem marked_exec {pool : ServerPool V} {index : Nat} {now : Timestamp}
    {task : ServerTask V} {call : Call V}
    {next : call.Reply → Program (Call V) StorageCall.Reply (Except RemoteStoreError (Response V))}
    (fits : ImportsFit pool (.advance index now)) (found : pool.tasks[index]? = some task)
    (program : task.program = .call call next) (sound : KeepsMarks cfg pool) :
    Marked cfg ((server cfg).exec now pool.shared call).2.db ∧
      Rises pool.shared.db.auditRetention
        ((server cfg).exec now pool.shared call).2.db.auditRetention := by
  obtain ⟨permitted, held⟩ := sound.acting found program
  exact (effect_of_permitted now pool.shared permitted).marked sound.inv held
    (fits.pending found program)

theorem retention_rules (cfg : Config V) : (server cfg).Rules ImportsFit (permits cfg) (Ends cfg)
    (fun state => Marked cfg state.db)
    (fun request k state => Held cfg (Taken state.db) request k) where
  body := serve_obeys cfg
  start := fun request _ _ => .nothing request
  reset := by
    intro pool event _ marked
    obtain ⟨audit, rises⟩ :=
      reconcileAuditRetention_watermarked marked.audit (auditCapOf event.1) event.2
    exact ⟨audit, (marked.backups.sameTables
      (reconcileAuditRetention_sameTables _ _ _)).mono (Taken.rises rises)⟩
  inv := fun pool index now task call next fits found program sound =>
    (marked_exec fits found program sound).1
  learned := by
    intro pool index now task call next fits found program sound
    obtain ⟨permitted, held⟩ := sound.acting found program
    exact (held.learn sound.inv.backups loadEnvSnapshot_taken permitted
      (learns cfg _ _ _ _)).mono (Taken.rises (marked_exec fits found program sound).2)
  stable := by
    intro pool index now task call next fits found program sound other _ _ held
    exact held.mono (Taken.rises (marked_exec fits found program sound).2)

def fittedRuns (cfg : Config V) : System (ServerPool V) (ServerAction V) :=
  (server cfg).system ImportsFit

theorem Marked.empty : Marked cfg Db.empty where
  audit := fun _ _ present => by cases present
  backups := .empty

theorem step_rises {pool : ServerPool V} {action : ServerAction V}
    (fits : ImportsFit pool action) (sound : KeepsMarks cfg pool) :
    Rises pool.shared.db.auditRetention
      ((server cfg).step pool action).shared.db.auditRetention := by
  cases action with
  | arrive request => exact .refl _
  | restart event =>
      exact (reconcileAuditRetention_watermarked sound.inv.audit (auditCapOf event.1) event.2).2
  | advance index now =>
      rcases (server cfg).step_advance pool index now with
        ⟨same, _⟩ | ⟨task, call, next, found, program, stepped⟩
      · rw [same]
        exact .refl _
      · rw [stepped]
        exact (marked_exec fits found program sound).2

/-- The audit watermark. In every run whose imports fit, every live audit row of
an environment lies above the environment's watermark in every state reached,
and no step lowers a watermark. -/
theorem audit_watermark (cfg : Config V) (maxRows : Option UInt32)
    (actions : List (ServerAction V)) (admits : (fittedRuns cfg).Admits (boot maxRows) actions) :
    (∀ pool ∈ (fittedRuns cfg).states (boot maxRows) actions,
      ∀ row ∈ pool.shared.db.auditLog.rows, ∀ live,
        pool.shared.db.auditRetention.lookup row.envId = some live →
        live.prunedThroughId < row.id) ∧
    ((fittedRuns cfg).states (boot maxRows) actions).IsChain fun before after =>
      ∀ envId live, before.shared.db.auditRetention.lookup envId = some live →
        ∃ next, after.shared.db.auditRetention.lookup envId = some next ∧
          live.prunedThroughId ≤ next.prunedThroughId := by
  have preserved := (server cfg).sound_step (retention_rules cfg)
  have initial : KeepsMarks cfg (boot maxRows) := (server cfg).sound_empty Marked.empty
  refine ⟨?_, ?_⟩
  · intro pool visited row member live present
    have sound := (fittedRuns cfg).invariant _ preserved _ actions admits initial pool visited
    exact (sound.inv.audit row.envId live present).live row member rfl
  · exact (fittedRuns cfg).chain _ _ preserved (fun pool action fits sound => step_rises fits sound)
      _ actions admits initial

def prunedHistory : List (ServerAction PlainValue) :=
  served 0 (demoRequest none "a" demoCreate) ++
    served 1 (demoRequest none "b" (demoRename "renamed")) ++
    served 2 (demoRequest none "c" (.createBackup (.ok ⟨"local"⟩)))

def prunedBackup : StoredBackup PlainValue :=
  (((serverRuns (demoConfig .openDev)).run (boot (some 1)) prunedHistory).shared.db.backups.lookup
    (⟨"local"⟩, "c")).get rfl

/-- The backup as another server receives it. -/
def demoImport : Mutation PlainValue :=
  .importEnvironment (.ok ⟨"local"⟩) ⟨⟨"greentic.backup-artifact.v1"⟩, prunedBackup.manifest,
    prunedBackup.state, prunedBackup.snapshotDigest⟩

/-- A server whose numbers are already past the captured watermark. -/
def importedLate : List (ServerAction PlainValue) :=
  served 0 (demoRequest none "d"
      (.createEnvironment ⟨⟨"staging"⟩, "staging", localFresh.hostConfig⟩)) ++
    served 1 (demoRequest none "e" demoImport) ++
    served 2 (demoRequest none "f" (demoRename "again"))

instance (cfg : Config V) (pool : ServerPool V) (actions : List (ServerAction V)) :
    Decidable ((fittedRuns cfg).Admits pool actions) :=
  @System.decidableAdmits _ _ (fittedRuns cfg)
    (fun pool action => inferInstanceAs (Decidable (ImportsFit pool action))) pool actions

/-- The imported row is numbered past the watermark it came with. -/
theorem audit_watermark_importedLate :
    (((fittedRuns (demoConfig .openDev)).run (boot none)
        importedLate).shared.db.auditRetention.lookup ⟨"local"⟩).map
      (·.prunedThroughId) = some 1 ∧
    ∀ pool ∈ (fittedRuns (demoConfig .openDev)).states (boot none) importedLate,
      ∀ row ∈ pool.shared.db.auditLog.rows, ∀ live,
        pool.shared.db.auditRetention.lookup row.envId = some live →
        live.prunedThroughId < row.id :=
  ⟨by decide,
    (audit_watermark (demoConfig .openDev) none importedLate (by decide)).1⟩

/-- A fresh server that takes the backup in numbers its rows from one: the live
row lies under the watermark. -/
theorem imported_rows_below_watermark :
    ¬ ∀ (maxRows : Option UInt32) (actions : List (ServerAction PlainValue)),
      ∀ row ∈ ((serverRuns (demoConfig .openDev)).run (boot maxRows)
          actions).shared.db.auditLog.rows,
        ∀ live, ((serverRuns (demoConfig .openDev)).run (boot maxRows)
            actions).shared.db.auditRetention.lookup row.envId = some live →
          live.prunedThroughId < row.id := by
  intro claim
  have above := claim none (served 0 (demoRequest none "e" demoImport))
    (((serverRuns (demoConfig .openDev)).run (boot none)
      (served 0 (demoRequest none "e" demoImport))).shared.db.auditLog.rows[0]?.get rfl)
    (List.mem_of_getElem? (Option.some_get _).symm) _ (Option.some_get rfl).symm
  exact absurd above (by decide)

end GreenticDeployer.Server
